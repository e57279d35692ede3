import CrmBot.ExecutionQueue.WorkerLoop

/-! Runs of the workers: when claims are fenced and finished jobs stay so. -/

namespace CrmBot.ExecutionQueue

open Relational CrmBot.Python Runs

variable {timeoutMinutes : Int} {before start : System} {event : Event} {row : JobRow}

theorem System.setWorker_workers_eq {system : System} {worker other : String}
    {state found : WorkerState} :
    (system.setWorker worker state).workers other = found ↔
      (other = worker ∧ state = found) ∨ (other ≠ worker ∧ system.workers other = found) := by
  by_cases hother : other = worker
  · rw [hother, System.setWorker_self]
    simp
  · rw [System.setWorker_of_ne system state hother]
    simp [hother]

/-- No allowed change begins at a finished job. -/
theorem not_changeAllowed_of_finished (hfinished : row.status.finished = true) :
    ¬ ChangeAllowed timeoutMinutes before row event := by
  have hpending : row.status ≠ .pending := by
    intro heq
    rw [heq] at hfinished
    cases hfinished
  have hprocessing : row.status ≠ .processing := by
    intro heq
    rw [heq] at hfinished
    cases hfinished
  cases event with
  | claim worker locked answer => exact hpending
  | release worker answer =>
    intro hstale
    rw [ChangeAllowed, JobRow.stale, Bool.and_eq_true, decide_eq_true_eq] at hstale
    exact hprocessing hstale.1
  | finish worker handler answer => exact fun hheld => hprocessing hheld.1
  | handle worker answer => exact fun hheld => hprocessing hheld.1
  | enqueue _ _ _ _ | advance _ | listStale _ _ | crash _ => exact id

theorem finished_kept (hfenced : Fenced timeoutMinutes before event) (hmem : row ∈ before.jobs.rows)
    (hfinished : row.status.finished = true) :
    row ∈ (perform timeoutMinutes before event).jobs.rows :=
  (hfenced row hmem).resolve_right (not_changeAllowed_of_finished hfinished)

/-- Whatever the event, a worker begins to work on a job only by a claim, and
the job was pending. -/
theorem pending_of_handsOut {id : String} (h : HandsOut timeoutMinutes id before event) :
    ∃ row ∈ before.jobs.rows, row.id = id ∧ row.status = .pending := by
  obtain ⟨worker, job, hid, hbefore, hafter⟩ := h
  cases event with
  | enqueue id taskType payload maxAttempts => exact absurd hafter hbefore
  | advance micros => exact absurd hafter hbefore
  | listStale actor answer =>
    simp only [perform] at hafter
    split at hafter
    all_goals first
      | exact absurd hafter hbefore
      | rcases System.setWorker_workers_eq.mp hafter with ⟨_, hstate⟩ | ⟨_, hsame⟩
        · cases hstate
        · exact absurd hsame hbefore
  | release actor answer =>
    simp only [perform] at hafter
    split at hafter
    · rcases System.setWorker_workers_eq.mp hafter with ⟨_, hstate⟩ | ⟨_, hsame⟩
      · cases hstate
      · exact absurd hsame hbefore
    · exact absurd hafter hbefore
  | claim actor locked answer =>
    simp only [perform] at hafter
    split at hafter
    · rcases System.setWorker_workers_eq.mp hafter with ⟨_, hstate⟩ | ⟨_, hsame⟩
      · split at hstate
        · next claimed hclaimed =>
          obtain ⟨row, hmem, hrow, hpending, _⟩ := claimJob_some hclaimed
          cases hstate
          exact ⟨row, hmem, hrow.trans hid, hpending⟩
        · cases hstate
      · exact absurd hsame hbefore
    · exact absurd hafter hbefore
  | finish actor handler answer =>
    simp only [perform] at hafter
    split at hafter
    · rcases System.setWorker_workers_eq.mp hafter with ⟨_, hstate⟩ | ⟨_, hsame⟩
      · unfold afterDispatch at hstate
        split at hstate <;> cases hstate
      · exact absurd hsame hbefore
    · exact absurd hafter hbefore
  | handle actor answer =>
    simp only [perform] at hafter
    split at hafter
    · rcases System.setWorker_workers_eq.mp hafter with ⟨_, hstate⟩ | ⟨_, hsame⟩
      · cases hstate
      · exact absurd hsame hbefore
    · exact absurd hafter hbefore
  | crash actor =>
    rcases System.setWorker_workers_eq.mp hafter with ⟨_, hstate⟩ | ⟨_, hsame⟩
    · cases hstate
    · exact absurd hsame hbefore

theorem not_handsOut_of_finished (hmem : row ∈ before.jobs.rows)
    (hfinished : row.status.finished = true) :
    ¬ HandsOut timeoutMinutes row.id before event := by
  intro h
  obtain ⟨pending, hpendingMem, hid, hpending⟩ := pending_of_handsOut h
  rw [before.jobs.eq_of_key_eq hpendingMem hmem hid] at hpending
  rw [hpending] at hfinished
  cases hfinished

/-- Where every step is fenced, a finished job is never written again. -/
theorem finishedForever_of_fenced {events : List Event}
    (h : EveryStep (perform timeoutMinutes) (Fenced timeoutMinutes) start events) :
    FinishedForever timeoutMinutes start events := by
  intro earlier later heq reached row hmem hfinished
  rw [heq, everyStep_append] at h
  have hstep : ∀ state event, row ∈ state.jobs.rows → Fenced timeoutMinutes state event →
      row ∈ (perform timeoutMinutes state event).jobs.rows := by
    intro state event hstate hfenced
    exact finished_kept hfenced hstate hfinished
  constructor
  · exact ⟨row, h.2.invariant hstep hmem, rfl, rfl⟩
  · apply h.2.of_invariant hstep _ hmem
    intro state event hstate _
    exact not_handsOut_of_finished hstate hfinished

/-! Workers that settle their jobs in time.

No claim is released while its worker is still at the job, and no worker takes
a committed statement for a failed one. Then every call is current. -/

/-- Every claimed and not yet settled job is recorded as its worker's. -/
def WorkersHold (system : System) : Prop :=
  ∀ worker job, (system.workers worker).job? = some job →
    ∃ row ∈ system.jobs.rows, row.id = job.id ∧ row.HeldBy worker

def InTime (timeoutMinutes : Int) (before : System) : Event → Prop
  | .release worker answer =>
    match before.workers worker with
    | .recovering (id :: _) => answer.applied = true → ∀ row ∈ before.jobs.rows, row.id = id →
        row.status = .processing → row.stale timeoutMinutes before.now = true ∧
          ∀ other job, (before.workers other).job? = some job → job.id ≠ id
    | _ => True
  | .finish _ _ answer | .handle _ answer => ∀ error, answer ≠ .lost error
  | _ => True

/-- A worker holds its own job only, so what it may not write is not its own. -/
theorem WorkersHold.mayWrite (h : WorkersHold before) {worker : String} {job : QueueJobView}
    (hjob : (before.workers worker).job? = some job) (update : JobRow → JobRow) :
    MayWrite before worker job update := by
  intro row hmem hid
  obtain ⟨held, hheldMem, hheldId, hheld⟩ := h worker job hjob
  left
  rw [before.jobs.eq_of_key_eq hmem hheldMem (hid.trans hheldId.symm)]
  exact hheld

theorem WorkersHold.callIsCurrent (h : WorkersHold before)
    (htime : InTime timeoutMinutes before event) : CallIsCurrent timeoutMinutes before event := by
  cases event with
  | release worker answer =>
    simp only [CallIsCurrent, InTime] at htime ⊢
    split
    · next id rest hworker =>
      rw [hworker] at htime
      exact fun happlied row hmem hid hprocessing => (htime happlied row hmem hid hprocessing).1
    · trivial
  | finish worker handler answer =>
    simp only [CallIsCurrent]
    split
    · next job hworker =>
      intro _
      apply h.mayWrite
      rw [hworker]
      rfl
    · trivial
  | handle worker answer =>
    simp only [CallIsCurrent]
    split
    · next job error hworker =>
      intro _
      apply h.mayWrite
      rw [hworker]
      rfl
    · trivial
  | enqueue _ _ _ _ | advance _ | listStale _ _ | claim _ _ _ | crash _ => trivial

/-- The held jobs stay held when one worker moves on and the statement leaves
the rows of the other workers alone. -/
theorem WorkersHold.setWorker (h : WorkersHold before) {worker : String} {state : WorkerState}
    {jobs : JobTable}
    (hothers : ∀ other job, other ≠ worker → (before.workers other).job? = some job →
      ∀ row ∈ before.jobs.rows, row.id = job.id → row.HeldBy other → row ∈ jobs.rows)
    (hself : ∀ job, state.job? = some job → ∃ row ∈ jobs.rows, row.id = job.id ∧
        row.HeldBy worker) :
    WorkersHold ({ before with jobs := jobs }.setWorker worker state) := by
  intro other job hjob
  by_cases hother : other = worker
  · rw [hother, System.setWorker_self] at hjob
    rw [hother]
    exact hself job hjob
  · rw [System.setWorker_of_ne _ state hother] at hjob
    obtain ⟨row, hmem, hid, hheld⟩ := h other job hjob
    exact ⟨row, hothers other job hother hjob row hmem hid hheld, hid, hheld⟩

/-- Two workers never hold the same row. -/
theorem JobRow.HeldBy.worker_eq {worker other : String} (hworker : row.HeldBy worker)
    (hother : row.HeldBy other) : other = worker :=
  Option.some.inj (hother.2.symm.trans hworker.2)

/-- A statement on the job of one worker leaves the jobs of the others alone. -/
theorem WorkersHold.kept_of_other (h : WorkersHold before) {worker other : String}
    {job : QueueJobView} {answer : Answer} {guard : JobRow → Bool}
    {update : JobRow → JobRow} {hkey : ∀ row, (update row).id = row.id}
    (hjob : (before.workers worker).job? = some job) (hne : other ≠ worker)
    (hmem : row ∈ before.jobs.rows) (hheld : row.HeldBy other) :
    row ∈ (applyStatement answer before.jobs
      (updateJob before.jobs job.id guard update hkey)).rows := by
  rw [mem_applyStatement_updateJob hmem]
  intro _ hsame
  obtain ⟨own, hownMem, hownId, hown⟩ := h worker job hjob
  rw [before.jobs.eq_of_key_eq hmem hownMem (hsame.trans hownId.symm)] at hheld
  exact absurd (hown.worker_eq hheld) hne

theorem release_workersHold (h : WorkersHold before) {worker : String} {answer : Answer}
    (htime : InTime timeoutMinutes before (.release worker answer)) :
    WorkersHold (perform timeoutMinutes before (.release worker answer)) := by
  simp only [InTime, perform] at htime ⊢
  split
  · next id rest hworker =>
    rw [hworker] at htime
    apply h.setWorker
    · intro other job _ hjob row hmem hid hheld
      unfold releaseJob
      rw [mem_applyStatement_updateJob hmem]
      intro happlied hreleased _
      -- the other worker is still at the released job
      have haway := (htime happlied row hmem hreleased hheld.1).2 other job hjob
      exact absurd (hid.symm.trans hreleased) haway
    · intro job hjob
      cases hjob
  · exact h

theorem claim_workersHold (h : WorkersHold before) (worker : String) (locked : JobRow → Bool)
    (answer : Answer) :
    WorkersHold (perform timeoutMinutes before (.claim worker locked answer)) := by
  simp only [perform]
  split
  · cases hclaim : (claimJob before.jobs locked worker before.now).1 with
    | none =>
      rw [claimJob_none hclaim]
      apply h.setWorker
      · intro other job _ _ row hmem _ _
        unfold applyStatement
        split <;> exact hmem
      · intro job hjob
        split at hjob
        · next heq => cases heq
        · cases hjob
    | some claimed =>
      obtain ⟨pending, hpendingMem, hpendingId, hpending, heq⟩ := claimJob_some hclaim
      rw [heq]
      apply h.setWorker
      · intro other job _ _ row hmem hid hheld
        rw [mem_applyStatement_updateJob hmem]
        intro _ hsame
        -- the claimed job is pending, the other worker's is not
        rw [before.jobs.eq_of_key_eq hmem hpendingMem (hsame.trans hpendingId.symm)] at hheld
        exact absurd (hpending.symm.trans hheld.1) (by decide)
      · intro job hjob
        split at hjob
        · next _ handed hhanded =>
          cases hhanded
          cases hjob
          refine ⟨pending.claimedBy worker before.now, ?_, hpendingId, rfl, rfl⟩
          exact update_mem_updateJob (fun row => row.claimedBy_id worker before.now) hpendingMem
            hpendingId rfl
        · cases hjob
  · exact h

theorem finish_workersHold (h : WorkersHold before) {worker : String} {handler : DispatchOutcome}
    {answer : Answer} (htime : InTime timeoutMinutes before (.finish worker handler answer)) :
    WorkersHold (perform timeoutMinutes before (.finish worker handler answer)) := by
  simp only [perform]
  split
  · next job hworker =>
    have hjob : (before.workers worker).job? = some job := by
      rw [hworker]
      rfl
    obtain ⟨hkey, heq⟩ := settleJob_eq before.jobs job (dispatch job handler)
    rw [heq]
    apply h.setWorker
    · intro other otherJob hne _ row hmem _ hheld
      exact h.kept_of_other hjob hne hmem hheld
    · intro later hlater
      -- the worker keeps the job only when its statement was not applied
      obtain ⟨own, hownMem, hownId, hown⟩ := h worker job hjob
      have hlaterEq : later = job ∧ (answer.applied = true →
          (dispatch job handler).settled own = own) := by
        cases houtcome : dispatch job handler with
        | otherException message =>
          rw [houtcome] at hlater
          cases hlater
          exact ⟨rfl, fun _ => rfl⟩
        | returned | permanentJobError _ | transientJobError _ =>
          rw [houtcome] at hlater
          cases answer with
          | ok => cases hlater
          | lost error => exact absurd rfl (htime error)
          | refused error =>
            cases hlater
            exact ⟨rfl, fun happlied => by cases happlied⟩
      refine ⟨own, ?_, hlaterEq.1 ▸ hownId, hown⟩
      rw [mem_applyStatement_updateJob hownMem]
      exact fun happlied _ _ => hlaterEq.2 happlied
  · exact h

theorem handle_workersHold (h : WorkersHold before) (worker : String) (answer : Answer) :
    WorkersHold (perform timeoutMinutes before (.handle worker answer)) := by
  simp only [perform]
  split
  · next job error hworker =>
    have hjob : (before.workers worker).job? = some job := by
      rw [hworker]
      rfl
    apply h.setWorker
    · intro other otherJob hne _ row hmem _ hheld
      exact h.kept_of_other hjob hne hmem hheld
    · intro later hlater
      cases hlater
  · exact h

theorem workersHold_perform (h : WorkersHold before) (htime : InTime timeoutMinutes before event) :
    WorkersHold (perform timeoutMinutes before event) := by
  cases event with
  | enqueue id taskType payload maxAttempts =>
    intro worker job hjob
    obtain ⟨row, hmem, hrow⟩ := h worker job hjob
    exact ⟨row, Table.mem_insertOrIgnore.mpr (.inl hmem), hrow⟩
  | advance micros => exact h
  | listStale worker answer =>
    simp only [perform]
    split
    all_goals first
      | exact h
      | apply h.setWorker
        · intro _ _ _ _ row hmem _ _
          exact hmem
        · intro job hjob
          cases hjob
  | release worker answer => exact release_workersHold h htime
  | claim worker locked answer => exact claim_workersHold h worker locked answer
  | finish worker handler answer => exact finish_workersHold h htime
  | handle worker answer => exact handle_workersHold h worker answer
  | crash worker =>
    apply h.setWorker
    · intro _ _ _ _ row hmem _ _
      exact hmem
    · intro job hjob
      cases hjob

/-- In time, every call of the run is current. -/
theorem everyStep_callIsCurrent {events : List Event} (hstart : WorkersHold start)
    (h : EveryStep (perform timeoutMinutes) (InTime timeoutMinutes) start events) :
    EveryStep (perform timeoutMinutes) (CallIsCurrent timeoutMinutes) start events := by
  apply h.of_invariant _ _ hstart
  · exact fun state event hstate htime => workersHold_perform hstate htime
  · exact fun state event hstate htime => hstate.callIsCurrent htime

/-! Fenced runs. -/

/-- In this run only the holder of a claim changes a job, apart from claims of
pending jobs and releases of stale claims, and finished jobs stay finished. -/
def ClaimsFenced (timeoutMinutes : Int) (start : System) (events : List Event) : Prop :=
  EveryStep (perform timeoutMinutes) (Fenced timeoutMinutes) start events ∧
    FinishedForever timeoutMinutes start events

theorem claimsFenced_iff_current {events : List Event} :
    ClaimsFenced timeoutMinutes start events ↔
      EveryStep (perform timeoutMinutes) (CallIsCurrent timeoutMinutes) start events := by
  have hsteps : EveryStep (perform timeoutMinutes) (Fenced timeoutMinutes) start events ↔
      EveryStep (perform timeoutMinutes) (CallIsCurrent timeoutMinutes) start events :=
    everyStep_congr (fenced_iff timeoutMinutes)
  constructor
  · intro h
    exact hsteps.mp h.1
  · intro h
    exact ⟨hsteps.mpr h, finishedForever_of_fenced (hsteps.mpr h)⟩

/-- A run is fenced exactly when its calls are current, and they are when the
workers start without jobs and settle each job in time. -/
theorem claimsFenced_iff (timeoutMinutes : Int) (start : System) (events : List Event) :
    (ClaimsFenced timeoutMinutes start events ↔
      EveryStep (perform timeoutMinutes) (CallIsCurrent timeoutMinutes) start events) ∧
    ((∀ worker, (start.workers worker).job? = none) →
      EveryStep (perform timeoutMinutes) (InTime timeoutMinutes) start events →
      ClaimsFenced timeoutMinutes start events) := by
  refine ⟨claimsFenced_iff_current, ?_⟩
  intro hidle htime
  apply claimsFenced_iff_current.mpr
  apply everyStep_callIsCurrent _ htime
  intro worker job hjob
  rw [hidle worker] at hjob
  cases hjob

/-- One job and two workers. -/
def sampleQueue : System where
  jobs := enqueue .empty "job-1" "update_metrics" [] 3 0
  workers := fun _ => .idle
  now := 0

def minutes (count : Nat) : Event := .advance (count * 60000000)

/-- A worker claims after it has recovered what is stale. -/
def claimRound (worker : String) (stale : Nat) : List Event :=
  .listStale worker .ok :: List.replicate stale (.release worker .ok) ++
    [.claim worker (fun _ => false) .ok]

/-- A worker settles its job before the timeout. -/
def promptRun : List Event := claimRound "worker-1" 0 ++ [.finish "worker-1" .returned .ok]

theorem promptRun_fenced : ClaimsFenced 5 sampleQueue promptRun := by
  apply (claimsFenced_iff 5 sampleQueue promptRun).2
  · intro worker
    rfl
  · simp only [promptRun, claimRound, List.replicate, List.cons_append, List.nil_append,
      everyStep_cons, InTime]
    simp

/-- The first worker is slow: its job is taken over, settled late, and then
failed by the second worker, which makes it pending again. -/
def slowWorkerRun : List Event :=
  claimRound "worker-1" 0 ++ [minutes 6] ++ claimRound "worker-2" 1 ++
    [.finish "worker-1" .returned .ok,
      .finish "worker-2" (.transientJobError "rate_limit") .ok]

theorem slowWorkerRun_not_fenced : ¬ ClaimsFenced 5 sampleQueue slowWorkerRun := by
  intro h
  have hdone : ((slowWorkerRun.take 7).foldl (perform 5) sampleQueue).jobs.rows.map
      JobRow.status = [.done] := by decide
  have hpending : (slowWorkerRun.foldl (perform 5) sampleQueue).jobs.rows.map
      JobRow.status = [.pending] := by decide
  obtain ⟨row, hmem, hstatus⟩ : ∃ row ∈
      ((slowWorkerRun.take 7).foldl (perform 5) sampleQueue).jobs.rows, row.status = .done := by
    apply List.mem_map.mp
    rw [hdone]
    exact List.mem_singleton_self _
  have hfinished : row.status.finished = true := by
    rw [hstatus]
    rfl
  obtain ⟨after, hafterMem, _, hafter⟩ :=
    (h.2 (slowWorkerRun.take 7) (slowWorkerRun.drop 7) (by simp) row hmem hfinished).1
  rw [← List.foldl_append, List.take_append_drop] at hafterMem
  have hafterStatus := List.mem_map.mpr ⟨after, hafterMem, hafter.trans hstatus⟩
  rw [hpending, List.mem_singleton] at hafterStatus
  cases hafterStatus

end CrmBot.ExecutionQueue
