import CrmBot.CapacityAdmissionQueue.LaneExclusion
import CrmBot.CapacityAdmissionQueue.LaneMarks

/-! Whether a lane that got a row after the last selection is still marked dirty.

A drain clears the flag on the strength of its last selection. The clear is fenced by
the worker of the claim: a mark empties the claim of the flag, and only a new claim of
the same worker makes the fence hold again. -/

namespace CrmBot.CapacityAdmissionQueue

open Relational CrmBot.Python Runs

/-- A drain that claimed the lane and has not released it: whether its last selection
found nothing, whether the lane was marked since that selection, and whether the flag
shows the claim of this drain. -/
structure DrainSession where
  drain : Nat
  worker : String
  now : Int
  exhausted : Bool
  marked : Bool
  shown : Bool
  deriving DecidableEq

/-- The sessions of the drains, and the items added since the last selection. -/
structure WakeRun where
  queue : QueueState
  sessions : List DrainSession
  added : List String

inductive WakeStep
  | claim (drain : Nat) (locked : DirtyFlagRow → Bool) (worker : String)
      (now claimTtlSeconds : Int)
  | select (drain : Nat) (locked : WorkItemRow → Bool) (budget : WindowBudget)
  | clear (drain : Nat)
  | release (drain : Nat)
  | project (candidates : List ProjectionCandidate) (occurredAt : Int)
  | sync (update : LifecycleUpdate)

def WakeRun.flag (run : WakeRun) (lane : LaneKey) : Option DirtyFlagRow :=
  run.queue.dirtyFlags.find? (laneId lane)

def WakeRun.session? (run : WakeRun) (drain : Nat) : Option DrainSession :=
  run.sessions.find? fun session => session.drain = drain

/-- A granted claim is shown by the flag in place of every other. -/
def WakeRun.claimed (run : WakeRun) (session : DrainSession) (queue : QueueState) : WakeRun where
  queue := queue
  sessions := session :: run.sessions.map fun other => { other with shown := false }
  added := run.added

/-- A selection has seen what was added before it. -/
def WakeRun.selected (run : WakeRun) (session : DrainSession) (foundNothing : Bool) :
    WakeRun where
  queue := run.queue
  sessions := run.sessions.map fun other =>
    if other = session then { other with exhausted := foundNothing, marked := false } else other
  added := []

def WakeRun.released (run : WakeRun) (lane : LaneKey) (session : DrainSession) : WakeRun where
  queue := releaseLaneClaim run.queue (laneId lane) session.worker session.now
  sessions := (run.sessions.filter fun other => other ≠ session).map fun other =>
    if other.worker = session.worker then { other with shown := false } else other
  added := run.added

/-- A write on behalf of others. -/
def WakeRun.written (run : WakeRun) (lane : LaneKey) (queue : QueueState)
    (added : List String) : WakeRun where
  queue := queue
  sessions :=
    if queue.dirtyFlags.find? (laneId lane) = run.flag lane then run.sessions
    else run.sessions.map fun session => { session with marked := true, shown := false }
  added := run.added ++ added

/-- The items that a call of the writer adds to the lane. -/
def addedTo (lane : LaneKey) (candidates : List ProjectionCandidate) : List String :=
  (candidates.filter fun candidate => candidate.lane = lane).map ProjectionCandidate.workItemId

/-- A drain selects until it finds nothing, and clears the flag only then. -/
def performWake (lane : LaneKey) (run : WakeRun) : WakeStep → WakeRun
  | .claim drain locked worker now claimTtlSeconds =>
    if (run.session? drain).isSome then run
    else
      match claimDirtyLane run.queue locked lane worker now claimTtlSeconds with
      | .ok (some _, queue) => run.claimed ⟨drain, worker, now, false, false, true⟩ queue
      | _ => run
  | .select drain locked budget =>
    match run.session? drain with
    | some session =>
      if session.exhausted then run
      else run.selected session
        (selectCapacityAdmissionWorkItem run.queue.workItems locked lane budget).isNone
    | none => run
  | .clear drain =>
    match run.session? drain with
    | some session =>
      if session.exhausted then
        { run with
          queue := clearDirtyFlag run.queue (laneId lane) session.worker session.now }
      else run
    | none => run
  | .release drain =>
    match run.session? drain with
    | some session => run.released lane session
    | none => run
  | .project candidates occurredAt =>
    run.written lane (persistProjectionCandidates run.queue candidates occurredAt)
      (addedTo lane candidates)
  | .sync update => run.written lane (syncProjectionLifecycle run.queue update) []

/-- The lane is marked dirty, or shows no admissible item that was added since the last
selection. -/
def Awake (lane : LaneKey) (run : WakeRun) : Prop :=
  (run.flag lane).isSome = true ∨
    ∀ row ∈ run.queue.workItems.rows, row.lane = lane → row.status.isAdmissible = true →
      row.workItemId ∉ run.added

/-- The step is a clear by a drain since whose last selection the lane was marked. -/
def ClearsMarked (run : WakeRun) (step : WakeStep) (session : DrainSession) : Prop :=
  ∃ drain, step = .clear drain ∧ run.session? drain = some session ∧
    session.exhausted = true ∧ session.marked = true

variable {lane : LaneKey} {run : WakeRun} {step : WakeStep}

instance : DecidablePred (Awake lane) := fun _ => inferInstanceAs (Decidable (_ ∨ _))

/-- A clear erases no mark set after the last selection of its drain, and the lane stays
awake. -/
def KeepsWakeup (lane : LaneKey) (run : WakeRun) (step : WakeStep) : Prop :=
  (∀ session, ClearsMarked run step session →
      (performWake lane run step).flag lane = run.flag lane) ∧
    Awake lane (performWake lane run step)

/-- When a drain clears the flag of a lane that was marked since its last selection and
not later than its own time, no drain of the same worker has claimed the lane after the
mark. -/
def NotReclaimed (run : WakeRun) (lane : LaneKey) (step : WakeStep) : Prop :=
  ∀ session, ClearsMarked run step session →
    ∀ flag, run.flag lane = some flag → flag.lastMarkedAt ≤ session.now →
      ∀ other ∈ run.sessions, other.worker = session.worker → other.shown = false

/-- The sessions that are shown are those whose claim the flag carries. -/
structure Tracked (lane : LaneKey) (run : WakeRun) : Prop where
  shown : ∀ session ∈ run.sessions, session.shown = true →
    ∀ flag, run.flag lane = some flag → flag.claimedBy = some session.worker
  claimed : run.sessions ≠ [] → ∀ flag worker, run.flag lane = some flag →
    flag.claimedBy = some worker →
      ∃ session ∈ run.sessions, session.shown = true ∧ session.worker = worker

/-- What was added since the last selection is marked, and no drain that may clear the
flag has missed the mark. -/
structure Pending (lane : LaneKey) (run : WakeRun) : Prop where
  flagged : run.added ≠ [] → (run.flag lane).isSome = true
  marked : run.added ≠ [] → ∀ session ∈ run.sessions, session.exhausted = true →
    session.marked = true

theorem Pending.awake (h : Pending lane run) : Awake lane run := by
  by_cases hadded : run.added = []
  · right
    intro row _ _ _ hmem
    rw [hadded] at hmem
    cases hmem
  · exact .inl (h.flagged hadded)

theorem session?_mem {drain : Nat} {session : DrainSession}
    (h : run.session? drain = some session) : session ∈ run.sessions :=
  List.mem_of_find?_eq_some h

/-! The flag after each step. -/

theorem flag_clear (queue : QueueState) (lane : LaneKey) (worker : String) (now : Int) :
    (clearDirtyFlag queue (laneId lane) worker now).dirtyFlags.find? (laneId lane) =
      (queue.dirtyFlags.find? (laneId lane)).filter fun flag =>
        !(decide (flag.claimedBy = some worker) && decide (flag.lastMarkedAt ≤ now)) := by
  unfold clearDirtyFlag
  rw [Table.find?_deleteWhere]
  cases hfind : queue.dirtyFlags.find? (laneId lane) with
  | none => rfl
  | some flag =>
    have hid := (Table.find?_eq_some_iff.mp hfind).2
    simp [Option.filter, hid]

theorem flag_release (queue : QueueState) (lane : LaneKey) (worker : String) (now : Int) :
    (releaseLaneClaim queue (laneId lane) worker now).dirtyFlags.find? (laneId lane) =
      (queue.dirtyFlags.find? (laneId lane)).map fun flag =>
        if flag.claimedBy = some worker then
          { flag with
            claimedBy := none, claimedUntil := none, lastMarkedAt := max flag.lastMarkedAt now }
        else flag := by
  unfold releaseLaneClaim
  rw [Table.find?_updateWhere]
  cases hfind : queue.dirtyFlags.find? (laneId lane) with
  | none => rfl
  | some flag =>
    have hid := (Table.find?_eq_some_iff.mp hfind).2
    simp [hid]

theorem flag_claim {queue next : QueueState} {locked : DirtyFlagRow → Bool} {worker : String}
    {now claimTtlSeconds : Int} {claim : LaneClaimRow}
    (h : claimDirtyLane queue locked lane worker now claimTtlSeconds = .ok (some claim, next)) :
    ∃ flag, next.dirtyFlags.find? (laneId lane) = some flag ∧ flag.claimedBy = some worker := by
  obtain ⟨_, ⟨flag, hfind, _⟩, hflags⟩ := claimDirtyLane_eq_some h
  rw [hflags, hfind, Option.map_some, if_pos (Table.find?_eq_some_iff.mp hfind).2]
  exact ⟨_, rfl, rfl⟩

/-! Every step keeps the sessions tracked. -/

theorem Tracked.claimed_step (session : DrainSession) {queue : QueueState}
    (hflag : ∃ flag, queue.dirtyFlags.find? (laneId lane) = some flag ∧
      flag.claimedBy = some session.worker) (hshown : session.shown = true) :
    Tracked lane (run.claimed session queue) := by
  obtain ⟨held, hheld, hworker⟩ := hflag
  refine ⟨?_, ?_⟩
  · intro other hmem hother flag hfind
    have hsame : flag = held := Option.some.inj (hfind.symm.trans hheld)
    rcases List.mem_cons.mp hmem with rfl | hold
    · rw [hsame, hworker]
    · obtain ⟨_, _, rfl⟩ := List.mem_map.mp hold
      cases hother
  · intro _ flag worker hfind hclaimed
    have hsame : flag = held := Option.some.inj (hfind.symm.trans hheld)
    rw [hsame, hworker] at hclaimed
    exact ⟨session, List.mem_cons_self, hshown, Option.some.inj hclaimed⟩

theorem Tracked.selected_step (h : Tracked lane run) (session : DrainSession)
    (foundNothing : Bool) : Tracked lane (run.selected session foundNothing) := by
  have hsessions : ∀ other ∈ (run.selected session foundNothing).sessions,
      ∃ old ∈ run.sessions, other.shown = old.shown ∧ other.worker = old.worker := by
    intro other hmem
    obtain ⟨old, hold, rfl⟩ := List.mem_map.mp hmem
    refine ⟨old, hold, ?_⟩
    split
    · exact ⟨rfl, rfl⟩
    · exact ⟨rfl, rfl⟩
  refine ⟨?_, ?_⟩
  · intro other hmem hshown flag hfind
    obtain ⟨old, hold, heqShown, heqWorker⟩ := hsessions other hmem
    rw [heqWorker]
    exact h.shown old hold (heqShown.symm.trans hshown) flag hfind
  · intro hne flag worker hfind hclaimed
    have hold : run.sessions ≠ [] := fun hnil => hne (List.map_eq_nil_iff.mpr hnil)
    obtain ⟨old, hmem, hshown, hworker⟩ := h.claimed hold flag worker hfind hclaimed
    refine ⟨_, List.mem_map_of_mem hmem, ?_⟩
    split
    · exact ⟨hshown, hworker⟩
    · exact ⟨hshown, hworker⟩

theorem Tracked.cleared_step (h : Tracked lane run) (session : DrainSession) :
    Tracked lane
      { run with queue := clearDirtyFlag run.queue (laneId lane) session.worker session.now } := by
  have hkept : ∀ flag,
      (clearDirtyFlag run.queue (laneId lane) session.worker session.now).dirtyFlags.find?
        (laneId lane) = some flag → run.flag lane = some flag := by
    intro flag hfind
    rw [flag_clear] at hfind
    exact (Option.filter_eq_some_iff.mp hfind).1
  exact ⟨fun other hmem hshown flag hfind => h.shown other hmem hshown flag (hkept flag hfind),
    fun hne flag worker hfind => h.claimed hne flag worker (hkept flag hfind)⟩

theorem Tracked.released_step (h : Tracked lane run) {session : DrainSession}
    (hsession : session ∈ run.sessions) : Tracked lane (run.released lane session) := by
  have hflag : (run.released lane session).flag lane = (run.flag lane).map _ :=
    flag_release run.queue lane session.worker session.now
  refine ⟨?_, ?_⟩
  · intro other hmem hshown flag hfind
    obtain ⟨old, hold, rfl⟩ := List.mem_map.mp hmem
    rw [hflag] at hfind
    obtain ⟨before, hbefore, rfl⟩ := Option.map_eq_some_iff.mp hfind
    split at hshown
    · cases hshown
    · next hother =>
      have hclaimed := h.shown old (List.mem_of_mem_filter hold) hshown before hbefore
      rw [if_neg hother, if_neg]
      · exact hclaimed
      · intro heq
        exact hother (Option.some.inj (hclaimed.symm.trans heq))
  · intro _ flag worker hfind hclaimed
    rw [hflag] at hfind
    obtain ⟨before, hbefore, rfl⟩ := Option.map_eq_some_iff.mp hfind
    split at hclaimed
    · cases hclaimed
    · next hother =>
      have hnonempty := List.ne_nil_of_mem hsession
      obtain ⟨old, hold, hshown, hworker⟩ := h.claimed hnonempty before worker hbefore hclaimed
      have hne : old.worker ≠ session.worker := by
        intro heq
        exact hother (by rw [hclaimed, ← hworker, heq])
      have hkept : old ∈ run.sessions.filter fun other => other ≠ session := by
        refine List.mem_filter.mpr ⟨hold, decide_eq_true ?_⟩
        rintro rfl
        exact hne rfl
      refine ⟨_, List.mem_map_of_mem hkept, ?_⟩
      rw [if_neg hne]
      exact ⟨hshown, hworker⟩

theorem Tracked.written_step (h : Tracked lane run) {queue : QueueState} {added : List String}
    (hmarks : queue.dirtyFlags.find? (laneId lane) = run.flag lane ∨
      Marks (run.flag lane) (queue.dirtyFlags.find? (laneId lane))) :
    Tracked lane (run.written lane queue added) := by
  unfold WakeRun.written
  rcases hmarks with hsame | hmarks
  · rw [if_pos hsame]
    refine ⟨?_, ?_⟩
    · intro session hmem hshown flag hfind
      exact h.shown session hmem hshown flag (hsame.symm.trans hfind)
    · intro hne flag worker hfind
      exact h.claimed hne flag worker (hsame.symm.trans hfind)
  · rw [if_neg hmarks.ne]
    obtain ⟨marked, hmarked, hunclaimed⟩ := hmarks.unclaims
    refine ⟨?_, ?_⟩
    · intro session hmem hshown
      obtain ⟨_, _, rfl⟩ := List.mem_map.mp hmem
      cases hshown
    · intro _ flag worker hfind hclaimed
      have heq : flag = marked := Option.some.inj (hfind.symm.trans hmarked)
      rw [heq, hunclaimed] at hclaimed
      cases hclaimed

theorem Tracked.performWake (h : Tracked lane run) : Tracked lane (performWake lane run step) := by
  cases step with
  | claim drain locked worker now claimTtlSeconds =>
    unfold CapacityAdmissionQueue.performWake
    dsimp only
    split
    · exact h
    · split
      · next claim queue hgranted => exact Tracked.claimed_step _ (flag_claim hgranted) rfl
      · exact h
  | select drain locked budget =>
    unfold CapacityAdmissionQueue.performWake
    dsimp only
    split
    · split
      · exact h
      · exact h.selected_step _ _
    · exact h
  | clear drain =>
    unfold CapacityAdmissionQueue.performWake
    dsimp only
    split
    · split
      · exact h.cleared_step _
      · exact h
    · exact h
  | release drain =>
    unfold CapacityAdmissionQueue.performWake
    dsimp only
    split
    · next session hsession => exact h.released_step (session?_mem hsession)
    · exact h
  | project candidates occurredAt =>
    exact h.written_step (flag_persistProjectionCandidates _ _ _ _).1
  | sync update => exact h.written_step (flag_syncProjectionLifecycle _ _ _)

/-! What a clear erases. -/

theorem flag_clear_eq_iff {queue : QueueState} {worker : String} {now : Int} :
    (clearDirtyFlag queue (laneId lane) worker now).dirtyFlags.find? (laneId lane) =
        queue.dirtyFlags.find? (laneId lane) ↔
      ∀ flag, queue.dirtyFlags.find? (laneId lane) = some flag → flag.lastMarkedAt ≤ now →
        flag.claimedBy ≠ some worker := by
  rw [flag_clear]
  cases queue.dirtyFlags.find? (laneId lane) with
  | none => simp
  | some flag =>
    rw [Option.filter_some]
    constructor
    · intro hsame other heq hdated hclaimed
      cases heq
      simp [hclaimed, hdated] at hsame
    · intro hunclaimed
      by_cases hdated : flag.lastMarkedAt ≤ now
      · simp [hunclaimed flag rfl hdated]
      · simp [hdated]

theorem flag_performWake_clear {drain : Nat} {session : DrainSession}
    (hsession : run.session? drain = some session) (hexhausted : session.exhausted = true) :
    (performWake lane run (.clear drain)).flag lane =
      (clearDirtyFlag run.queue (laneId lane) session.worker session.now).dirtyFlags.find?
        (laneId lane) := by
  simp only [performWake, hsession, hexhausted, if_true, WakeRun.flag]

/-- With the sessions tracked, a clear keeps the marks since the last selection exactly
where the lane was not claimed again. -/
theorem keepsMark_iff (h : Tracked lane run) :
    (∀ session, ClearsMarked run step session →
        (performWake lane run step).flag lane = run.flag lane) ↔
      NotReclaimed run lane step := by
  constructor
  · intro hkeeps session hclears flag hflag hdated other hother hworker
    have hsame := hkeeps session hclears
    obtain ⟨drain, rfl, hsession, hexhausted, _⟩ := hclears
    rw [flag_performWake_clear hsession hexhausted] at hsame
    have hunclaimed := flag_clear_eq_iff.mp hsame flag hflag hdated
    by_contra hshown
    have hclaimed := h.shown other hother (Bool.eq_true_of_not_eq_false hshown) flag hflag
    rw [hworker] at hclaimed
    exact hunclaimed hclaimed
  · intro hnot session hclears
    have hfree := hnot session hclears
    obtain ⟨drain, rfl, hsession, hexhausted, _⟩ := hclears
    rw [flag_performWake_clear hsession hexhausted]
    apply flag_clear_eq_iff.mpr
    intro flag hflag hdated hclaimed
    have hnonempty := List.ne_nil_of_mem (session?_mem hsession)
    obtain ⟨other, hother, hshown, hworker⟩ :=
      h.claimed hnonempty flag session.worker hflag hclaimed
    rw [hfree flag hflag hdated other hother hworker] at hshown
    cases hshown

/-! Every step that keeps the marks keeps what is pending. -/

theorem Pending.of_sessions {after : WakeRun} (h : Pending lane run)
    (hadded : after.added = run.added)
    (hflag : (run.flag lane).isSome = true → (after.flag lane).isSome = true)
    (hsessions : ∀ session ∈ after.sessions, session.exhausted = true →
      ∃ old ∈ run.sessions, old.exhausted = true ∧ old.marked = session.marked) :
    Pending lane after := by
  refine ⟨?_, ?_⟩
  · intro hne
    exact hflag (h.flagged (hadded ▸ hne))
  · intro hne session hmem hexhausted
    obtain ⟨old, hold, holdExhausted, hmarked⟩ := hsessions session hmem hexhausted
    rw [← hmarked]
    exact h.marked (hadded ▸ hne) old hold holdExhausted

theorem Pending.written_step (h : Pending lane run) {queue : QueueState} {added : List String}
    (hmarks : queue.dirtyFlags.find? (laneId lane) = run.flag lane ∨
      Marks (run.flag lane) (queue.dirtyFlags.find? (laneId lane)))
    (hadded : added ≠ [] →
      Marks (run.flag lane) (queue.dirtyFlags.find? (laneId lane))) :
    Pending lane (run.written lane queue added) := by
  rcases hmarks with hsame | hmarks
  · have hnone : added = [] := by
      by_contra hne
      exact (hadded hne).ne hsame
    apply h.of_sessions
    · rw [hnone]
      exact List.append_nil _
    · exact fun hsome => (congrArg Option.isSome hsame).trans hsome
    · intro session hmem hexhausted
      unfold WakeRun.written at hmem
      rw [if_pos hsame] at hmem
      exact ⟨session, hmem, hexhausted, rfl⟩
  · refine ⟨fun _ => hmarks.isSome, ?_⟩
    intro _ session hmem _
    unfold WakeRun.written at hmem
    rw [if_neg hmarks.ne] at hmem
    obtain ⟨_, _, rfl⟩ := List.mem_map.mp hmem
    rfl

theorem addedTo_ne_nil {candidates : List ProjectionCandidate}
    (h : addedTo lane candidates ≠ []) :
    ∃ candidate ∈ candidates, laneId candidate.lane = laneId lane := by
  obtain ⟨id, hid⟩ := List.exists_mem_of_ne_nil _ h
  obtain ⟨candidate, hmem, _⟩ := List.mem_map.mp hid
  obtain ⟨hcandidate, hlane⟩ := List.mem_filter.mp hmem
  exact ⟨candidate, hcandidate, congrArg laneId (of_decide_eq_true hlane)⟩

theorem Pending.claim_step (h : Pending lane run) {session : DrainSession} {queue : QueueState}
    (hflag : ∃ flag, queue.dirtyFlags.find? (laneId lane) = some flag ∧
      flag.claimedBy = some session.worker) (hselecting : session.exhausted = false) :
    Pending lane (run.claimed session queue) := by
  refine h.of_sessions rfl ?_ ?_
  · intro _
    obtain ⟨flag, hfind, _⟩ := hflag
    exact congrArg Option.isSome hfind
  · intro other hmem hexhausted
    rcases List.mem_cons.mp hmem with rfl | hold
    · rw [hselecting] at hexhausted
      cases hexhausted
    · obtain ⟨old, hmemOld, rfl⟩ := List.mem_map.mp hold
      exact ⟨old, hmemOld, hexhausted, rfl⟩

theorem Pending.release_step (h : Pending lane run) (session : DrainSession) :
    Pending lane (run.released lane session) := by
  refine h.of_sessions rfl ?_ ?_
  · intro hsome
    have hflag := flag_release run.queue lane session.worker session.now
    exact (congrArg Option.isSome hflag).trans (Option.isSome_map.trans hsome)
  · intro other hmem hexhausted
    obtain ⟨old, hold, rfl⟩ := List.mem_map.mp hmem
    refine ⟨old, List.mem_of_mem_filter hold, ?_⟩
    split at hexhausted
    · exact ⟨hexhausted, by split <;> rfl⟩
    · exact ⟨hexhausted, by split <;> rfl⟩

/-- An item that is pending was missed by the drain that clears, which then keeps the
mark. -/
theorem Pending.clear_step (h : Pending lane run) {drain : Nat} {session : DrainSession}
    (hsession : run.session? drain = some session) (hexhausted : session.exhausted = true)
    (hkeeps : session.marked = true →
      (performWake lane run (.clear drain)).flag lane = run.flag lane) :
    Pending lane (performWake lane run (.clear drain)) := by
  have hrun : performWake lane run (.clear drain) =
      { run with
        queue := clearDirtyFlag run.queue (laneId lane) session.worker session.now } := by
    simp only [performWake, hsession, hexhausted, if_true]
  have hsessions : (performWake lane run (.clear drain)).sessions = run.sessions := by rw [hrun]
  have hadded : (performWake lane run (.clear drain)).added = run.added := by rw [hrun]
  refine ⟨?_, ?_⟩
  · intro hne
    rw [hadded] at hne
    rw [hkeeps (h.marked hne session (session?_mem hsession) hexhausted)]
    exact h.flagged hne
  · rw [hsessions, hadded]
    exact h.marked

theorem Pending.performWake (h : Pending lane run) (htracked : Tracked lane run)
    (hnot : NotReclaimed run lane step) : Pending lane (performWake lane run step) := by
  have hkeeps := (keepsMark_iff htracked).mpr hnot
  cases step with
  | claim drain locked worker now claimTtlSeconds =>
    unfold CapacityAdmissionQueue.performWake
    dsimp only
    split
    · exact h
    · split
      · next claim queue hgranted => exact h.claim_step (flag_claim hgranted) rfl
      · exact h
  | select drain locked budget =>
    unfold CapacityAdmissionQueue.performWake
    dsimp only
    split
    · split
      · exact h
      · exact ⟨fun hne => absurd rfl hne, fun hne => absurd rfl hne⟩
    · exact h
  | clear drain =>
    cases hsession : run.session? drain with
    | none =>
      simp only [CapacityAdmissionQueue.performWake, hsession]
      exact h
    | some session =>
      cases hexhausted : session.exhausted with
      | false =>
        simp only [CapacityAdmissionQueue.performWake, hsession, hexhausted, Bool.false_eq_true,
          if_false]
        exact h
      | true =>
        apply h.clear_step hsession hexhausted
        intro hmarked
        exact hkeeps session ⟨drain, rfl, hsession, hexhausted, hmarked⟩
  | release drain =>
    unfold CapacityAdmissionQueue.performWake
    dsimp only
    split
    · exact h.release_step _
    · exact h
  | project candidates occurredAt =>
    have hflag := flag_persistProjectionCandidates run.queue candidates occurredAt (laneId lane)
    exact h.written_step hflag.1 fun hne => hflag.2 (addedTo_ne_nil hne)
  | sync update =>
    exact h.written_step (flag_syncProjectionLifecycle _ _ _) fun hne => absurd rfl hne

/-- No drain ever erases a mark set after its last selection, and the lane is always
marked or without an admissible item added since the last selection, exactly when no
drain clears a flag that was marked since its last selection, not later than its own
time, and claimed again by a drain of the same worker. -/
theorem wakeupKept_iff (lane : LaneKey) (queue : QueueState) (steps : List WakeStep) :
    EveryStep (performWake lane) (KeepsWakeup lane) ⟨queue, [], []⟩ steps ↔
      EveryStep (performWake lane) (fun run => NotReclaimed run lane) ⟨queue, [], []⟩ steps := by
  have htracked : Tracked lane ⟨queue, [], []⟩ := ⟨nofun, fun hne => absurd rfl hne⟩
  have hpending : Pending lane ⟨queue, [], []⟩ :=
    ⟨fun hne => absurd rfl hne, fun hne => absurd rfl hne⟩
  constructor
  · intro h
    have hstep : ∀ run step, Tracked lane run → KeepsWakeup lane run step →
        Tracked lane (performWake lane run step) := fun _ _ htracked _ => htracked.performWake
    have himp : ∀ run step, Tracked lane run → KeepsWakeup lane run step →
        NotReclaimed run lane step :=
          fun _ _ htracked hkeeps => (keepsMark_iff htracked).mp hkeeps.1
    exact h.of_invariant hstep himp htracked
  · intro h
    have hstep : ∀ run step, Tracked lane run ∧ Pending lane run → NotReclaimed run lane step →
        Tracked lane (performWake lane run step) ∧ Pending lane (performWake lane run step) :=
      fun _ _ hinv hnot => ⟨hinv.1.performWake, hinv.2.performWake hinv.1 hnot⟩
    have himp : ∀ run step, Tracked lane run ∧ Pending lane run → NotReclaimed run lane step →
        KeepsWakeup lane run step :=
      fun _ _ hinv hnot =>
        ⟨(keepsMark_iff hinv.1).mpr hnot, (hinv.2.performWake hinv.1 hnot).awake⟩
    exact h.of_invariant hstep himp ⟨htracked, hpending⟩

/-! Two drains of one worker. -/

def sectionLane : LaneKey where
  workKind := "section"
  provider := "groq"
  modelRef := "qwen"
  accountRef := none

/-- A lane that is marked and shows no item. -/
def markedLane : QueueState where
  workItems := .empty
  dirtyFlags :=
    { rows := [{ laneId := laneId sectionLane, lane := sectionLane, dirtyReason := "ready"
                 dirtyCount := 1, firstMarkedAt := 0, lastMarkedAt := 0, claimedBy := none
                 claimedUntil := none }]
      key_nodup := by decide }
  laneClaims := .empty
  windows := .empty

def lateCandidate : ProjectionCandidate where
  workItemId := "late"
  lane := sectionLane
  workflowRunId := none
  projectId := none
  status := .ready
  retryPlan := none
  inputTokens := 100
  artifactTokens := 100
  requiredWindowTokens := 200
  status_eq := rfl
  inputTokens_pos := by decide
  required_ge := by decide

/-- The first drain finds nothing, the item is added, the second drain claims the lane,
and the first drain clears the flag. -/
def sharedWorkerSteps : List WakeStep :=
  [.claim 1 (fun _ => false) "claim-builder-capacity-drain:window:0" 10 90,
    .select 1 (fun _ => false) ⟨60, 6000, 1000, 500000⟩,
    .project [lateCandidate] 9,
    .claim 2 (fun _ => false) "claim-builder-capacity-drain:window:0" 20 90,
    .clear 1]

/-- The item waits in a lane that nothing marks, also after both drains have released
it. -/
theorem sharedWorker_erases_mark :
    ¬ EveryStep (performWake sectionLane) (KeepsWakeup sectionLane) ⟨markedLane, [], []⟩
        sharedWorkerSteps ∧
      ¬ Awake sectionLane ((sharedWorkerSteps ++ [WakeStep.release 1, .release 2]).foldl
        (performWake sectionLane) ⟨markedLane, [], []⟩) := by
  refine ⟨?_, by decide +kernel⟩
  rintro ⟨_, _, _, _, ⟨_, hawake⟩, _⟩
  exact absurd hawake (by decide +kernel)

end CrmBot.CapacityAdmissionQueue
