import CrmBot.CapacityAdmissionQueue.DrainBudget
import CrmBot.CapacityAdmissionQueue.ProjectionWriter
import CrmBot.Library.Runs

/-! Who believes to hold a lane, over the steps of drains, projection writes and
lifecycle synchronisations.

The dirty flag of a lane carries the columns of its claim. A projection write or a
lifecycle synchronisation that marks the lane dirty empties them, whoever holds the
lane. -/

namespace CrmBot.CapacityAdmissionQueue

open Relational CrmBot.Python Runs

/-- A worker that claimed the lane and has not released it; `marked` says whether
the flag of the lane was written on behalf of others since the claim. -/
structure Holding where
  worker : String
  claimedUntil : Int
  marked : Bool
  deriving DecidableEq

structure LaneRun where
  queue : QueueState
  holdings : List Holding

inductive LaneStep
  | claim (locked : DirtyFlagRow → Bool) (target : LaneKey) (worker : String)
      (now claimTtlSeconds : Int)
  | release (lane worker : String) (now : Int)
  | clear (lane worker : String) (now : Int)
  | project (candidates : List ProjectionCandidate) (occurredAt : Int)
  | sync (update : LifecycleUpdate)

/-- A claim ends the holdings that have expired by then. -/
def LaneRun.claimed (run : LaneRun) (lane target : LaneKey) (worker : String) (now : Int)
    (claim : LaneClaimRow) (queue : QueueState) : LaneRun where
  queue := queue
  holdings :=
    if target = lane then
      ⟨worker, claim.claimedUntil, false⟩ ::
        run.holdings.filter fun holding => holding.worker ≠ worker && now < holding.claimedUntil
    else run.holdings

/-- A write of others; it marks the holdings if it touches the flag of the lane. -/
def LaneRun.written (run : LaneRun) (lane : LaneKey) (queue : QueueState) : LaneRun where
  queue := queue
  holdings :=
    if queue.dirtyFlags.find? (laneId lane) = run.queue.dirtyFlags.find? (laneId lane) then
      run.holdings
    else run.holdings.map fun holding => { holding with marked := true }

def performLane (lane : LaneKey) (run : LaneRun) : LaneStep → LaneRun
  | .claim locked target worker now claimTtlSeconds =>
    match claimDirtyLane run.queue locked target worker now claimTtlSeconds with
    | .ok (some claim, queue) => run.claimed lane target worker now claim queue
    | _ => run
  | .release released worker now =>
    { queue := releaseLaneClaim run.queue released worker now
      holdings :=
        if released = laneId lane then run.holdings.filter fun holding => holding.worker ≠ worker
        else run.holdings }
  | .clear cleared worker now => { run with queue := clearDirtyFlag run.queue cleared worker now }
  | .project candidates occurredAt =>
    run.written lane (persistProjectionCandidates run.queue candidates occurredAt)
  | .sync update => run.written lane (syncProjectionLifecycle run.queue update)

/-- A claim of the lane is granted only when no other worker holds it. -/
def Exclusive (lane : LaneKey) (run : LaneRun) (step : LaneStep) : Prop :=
  ∀ locked worker now claimTtlSeconds,
    step = .claim locked lane worker now claimTtlSeconds →
      ∀ claim queue,
        claimDirtyLane run.queue locked lane worker now claimTtlSeconds =
            .ok (some claim, queue) →
          ∀ holding ∈ run.holdings, holding.worker ≠ worker → holding.claimedUntil ≤ now

/-- The dirty flag of the lane is free and shows no claim that lasts. -/
def Claimable (queue : QueueState) (locked : DirtyFlagRow → Bool) (lane : LaneKey) (now : Int) :
    Prop :=
  ∃ flag, queue.dirtyFlags.find? (laneId lane) = some flag ∧ flag.lane = lane ∧
    locked flag = false ∧
    (flag.claimedBy = none ∨ ∃ deadline, flag.claimedUntil = some deadline ∧ deadline ≤ now)

/-- Where a claim of the lane can be granted, the flag was not written on behalf of
others since another worker claimed it that still holds it. -/
def FlagKept (lane : LaneKey) (run : LaneRun) (step : LaneStep) : Prop :=
  ∀ locked worker now claimTtlSeconds,
    step = .claim locked lane worker now claimTtlSeconds →
      0 < claimTtlSeconds → Claimable run.queue locked lane now →
        ∀ holding ∈ run.holdings, holding.worker ≠ worker → now < holding.claimedUntil →
          holding.marked = false

/-- The flag shows every holding that is not marked, unless it is deleted. -/
def Shown (lane : LaneKey) (run : LaneRun) : Prop :=
  ∀ holding ∈ run.holdings, holding.marked = false →
    ∀ flag, run.queue.dirtyFlags.find? (laneId lane) = some flag →
      flag.lane = lane ∧ flag.claimedBy = some holding.worker ∧
        flag.claimedUntil = some holding.claimedUntil

variable {lane : LaneKey} {run : LaneRun} {step : LaneStep}

/-! Claims -/

theorem claimDirtyLane_eq_some {queue next : QueueState} {locked : DirtyFlagRow → Bool}
    {target : LaneKey} {worker : String} {now claimTtlSeconds : Int} {claim : LaneClaimRow}
    (h : claimDirtyLane queue locked target worker now claimTtlSeconds = .ok (some claim, next)) :
    0 < claimTtlSeconds ∧ Claimable queue locked target now ∧
      ∀ id, next.dirtyFlags.find? id = (queue.dirtyFlags.find? id).map fun row =>
        if row.laneId = laneId target then
          { row with claimedBy := some worker, claimedUntil := some claim.claimedUntil }
        else row := by
  unfold claimDirtyLane at h
  split at h
  · cases h
  · next hpositive =>
    dsimp only at h
    split at h
    · next hclaimable =>
      obtain ⟨flag, hmem, htest⟩ := List.any_eq_true.mp hclaimable
      simp only [Bool.and_eq_true, Bool.or_eq_true, decide_eq_true_eq, Bool.not_eq_true',
        Option.isNone_iff_eq_none] at htest
      obtain ⟨⟨⟨hid, hlane⟩, hfree⟩, hunlocked⟩ := htest
      have hfind : queue.dirtyFlags.find? (laneId target) = some flag :=
        Table.find?_eq_some_iff.mpr ⟨hmem, hid⟩
      have hunclaimed : flag.claimedBy = none ∨
          ∃ deadline, flag.claimedUntil = some deadline ∧ deadline ≤ now := by
        apply hfree.imp_right
        intro hexpired
        cases huntil : flag.claimedUntil with
        | none =>
          rw [huntil] at hexpired
          cases hexpired
        | some deadline =>
          rw [huntil] at hexpired
          exact ⟨deadline, rfl, of_decide_eq_true hexpired⟩
      cases h
      refine ⟨by omega, ⟨flag, hfind, hlane, hunlocked, hunclaimed⟩, ?_⟩
      intro id
      rw [Table.find?_updateWhere]
      simp only [decide_eq_true_eq]
    · cases h

theorem claimDirtyLane_of_claimable {queue : QueueState} {locked : DirtyFlagRow → Bool}
    {worker : String} {now claimTtlSeconds : Int} (hpositive : 0 < claimTtlSeconds)
    (h : Claimable queue locked lane now) :
    ∃ claim next, claimDirtyLane queue locked lane worker now claimTtlSeconds =
      .ok (some claim, next) := by
  obtain ⟨flag, hfind, hlane, hunlocked, hfree⟩ := h
  obtain ⟨hmem, hid⟩ := Table.find?_eq_some_iff.mp hfind
  have hclaimable : (queue.dirtyFlags.rows.any fun row =>
      row.laneId = laneId lane && row.lane = lane &&
        (row.claimedBy.isNone || row.claimedUntil.any (fun deadline => decide (deadline ≤ now))) &&
        !locked row) = true := by
    apply List.any_eq_true.mpr
    refine ⟨flag, hmem, ?_⟩
    rcases hfree with hnone | ⟨deadline, huntil, hle⟩
    · simp [hid, hlane, hunlocked, hnone]
    · simp [hid, hlane, hunlocked, huntil, hle]
  unfold claimDirtyLane
  rw [if_neg (by omega)]
  dsimp only
  rw [if_pos hclaimable]
  exact ⟨_, _, rfl⟩

/-- A lane with a shown holding that lasts is not claimable. -/
theorem Shown.not_claimable (h : Shown lane run) {holding : Holding}
    (hmem : holding ∈ run.holdings) (hmarked : holding.marked = false) {now : Int}
    (hlasts : now < holding.claimedUntil) {locked : DirtyFlagRow → Bool} :
    ¬ Claimable run.queue locked lane now := by
  rintro ⟨flag, hfind, _, _, hfree⟩
  obtain ⟨_, hclaimed, huntil⟩ := h holding hmem hmarked flag hfind
  rcases hfree with hnone | ⟨deadline, hdeadline, hle⟩
  · rw [hclaimed] at hnone
    cases hnone
  · rw [huntil] at hdeadline
    cases hdeadline
    omega

/-- With the holdings shown, a claim is exclusive exactly where the flag was kept. -/
theorem exclusive_iff_flagKept (h : Shown lane run) :
    Exclusive lane run step ↔ FlagKept lane run step := by
  constructor
  · intro hexclusive locked worker now claimTtlSeconds hstep hpositive hclaimable holding hmem hne
      hlasts
    obtain ⟨claim, next, hgranted⟩ := claimDirtyLane_of_claimable hpositive hclaimable
    have hexpired := hexclusive locked worker now claimTtlSeconds hstep claim next hgranted holding
      hmem hne
    omega
  · intro hkept locked worker now claimTtlSeconds hstep claim next hgranted holding hmem hne
    obtain ⟨hpositive, hclaimable, _⟩ := claimDirtyLane_eq_some hgranted
    by_contra hnot
    have hlasts : now < holding.claimedUntil := by omega
    have hmarked := hkept locked worker now claimTtlSeconds hstep hpositive hclaimable holding hmem
      hne hlasts
    exact h.not_claimable hmem hmarked hlasts hclaimable

/-! Every step keeps the holdings shown. -/

theorem Shown.written (h : Shown lane run) (queue : QueueState) :
    Shown lane (run.written lane queue) := by
  intro holding hmem hmarked flag hfind
  unfold LaneRun.written at hmem hfind
  dsimp only at hmem hfind
  split at hmem
  · next hsame =>
    rw [hsame] at hfind
    exact h holding hmem hmarked flag hfind
  · obtain ⟨old, _, rfl⟩ := List.mem_map.mp hmem
    cases hmarked

theorem Shown.claim (h : Shown lane run) {locked : DirtyFlagRow → Bool} {target : LaneKey}
    {worker : String} {now claimTtlSeconds : Int} {claim : LaneClaimRow} {queue : QueueState}
    (hgranted : claimDirtyLane run.queue locked target worker now claimTtlSeconds =
      .ok (some claim, queue)) :
    Shown lane (run.claimed lane target worker now claim queue) := by
  obtain ⟨_, hclaimable, hflags⟩ := claimDirtyLane_eq_some hgranted
  intro holding hmem hmarked flag hfind
  unfold LaneRun.claimed at hmem hfind
  dsimp only at hmem hfind
  split at hmem
  · next htarget =>
    subst htarget
    rcases List.mem_cons.mp hmem with rfl | hkept
    · obtain ⟨old, hold, hlane, _⟩ := hclaimable
      have hid : old.laneId = laneId target := (Table.find?_eq_some_iff.mp hold).2
      rw [hflags, hold, Option.map_some, if_pos hid] at hfind
      cases hfind
      exact ⟨hlane, rfl, rfl⟩
    · obtain ⟨hold, htest⟩ := List.mem_filter.mp hkept
      simp only [Bool.and_eq_true, decide_eq_true_eq] at htest
      exact absurd hclaimable (h.not_claimable hold hmarked htest.2)
  · next htarget =>
    rw [hflags] at hfind
    obtain ⟨old, hold, heq⟩ := Option.map_eq_some_iff.mp hfind
    have hshown := h holding hmem hmarked old hold
    split at heq
    · next hid =>
      -- the flag of the other lane would be the flag of this one
      obtain ⟨claimedFlag, hclaimed, hclaimedLane, _⟩ := hclaimable
      have hsame : laneId lane = laneId target :=
        (Table.find?_eq_some_iff.mp hold).2.symm.trans hid
      rw [← hsame, hold] at hclaimed
      cases hclaimed
      exact absurd (hclaimedLane.symm.trans hshown.1) htarget
    · rw [← heq]
      exact hshown

theorem Shown.release (h : Shown lane run) {released worker : String} {now : Int} :
    Shown lane (performLane lane run (.release released worker now)) := by
  intro holding hmem hmarked flag hfind
  unfold performLane releaseLaneClaim at hmem hfind
  dsimp only at hmem hfind
  rw [Table.find?_updateWhere] at hfind
  obtain ⟨old, hold, heq⟩ := Option.map_eq_some_iff.mp hfind
  have hmemOld : holding ∈ run.holdings := by
    split at hmem
    · exact List.mem_of_mem_filter hmem
    · exact hmem
  have hshown := h holding hmemOld hmarked old hold
  split at heq
  · next htest =>
    simp only [Bool.and_eq_true, decide_eq_true_eq] at htest
    obtain ⟨hid, hworker⟩ := htest
    have hreleased : released = laneId lane := hid.symm.trans (Table.find?_eq_some_iff.mp hold).2
    rw [if_pos hreleased] at hmem
    have hne := (List.mem_filter.mp hmem).2
    rw [decide_eq_true_eq] at hne
    rw [hshown.2.1] at hworker
    exact absurd (Option.some.inj hworker) hne
  · rw [← heq]
    exact hshown

theorem Shown.performLane (h : Shown lane run) : Shown lane (performLane lane run step) := by
  cases step with
  | claim locked target worker now claimTtlSeconds =>
    unfold CapacityAdmissionQueue.performLane
    dsimp only
    split
    · next claim queue hgranted => exact h.claim hgranted
    · exact h
  | release released worker now => exact h.release
  | clear cleared worker now =>
    intro holding hmem hmarked flag hfind
    unfold CapacityAdmissionQueue.performLane clearDirtyFlag at hmem hfind
    dsimp only at hmem hfind
    rw [Table.find?_deleteWhere] at hfind
    exact h holding hmem hmarked flag (Option.filter_eq_some_iff.mp hfind).1
  | project candidates occurredAt => exact h.written _
  | sync update => exact h.written _

/-- A lane has at most one holder at every claim of a run exactly when no claim is
made under a flag that others have written since the lane was claimed by a worker
that still holds it. -/
theorem laneExclusive_iff (lane : LaneKey) (queue : QueueState) (steps : List LaneStep) :
    EveryStep (performLane lane) (Exclusive lane) ⟨queue, []⟩ steps ↔
      EveryStep (performLane lane) (FlagKept lane) ⟨queue, []⟩ steps := by
  have hstart : Shown lane ⟨queue, []⟩ := nofun
  constructor
  · intro h
    have hstep : ∀ run step, Shown lane run → Exclusive lane run step →
        Shown lane (performLane lane run step) := fun _ _ hshown _ => hshown.performLane
    have himp : ∀ run step, Shown lane run → Exclusive lane run step → FlagKept lane run step :=
      fun _ _ hshown => (exclusive_iff_flagKept hshown).mp
    exact h.of_invariant hstep himp hstart
  · intro h
    have hstep : ∀ run step, Shown lane run → FlagKept lane run step →
        Shown lane (performLane lane run step) := fun _ _ hshown _ => hshown.performLane
    have himp : ∀ run step, Shown lane run → FlagKept lane run step → Exclusive lane run step :=
      fun _ _ hshown => (exclusive_iff_flagKept hshown).mpr
    exact h.of_invariant hstep himp hstart

/-- A drain claims the lane and synchronises its first item as leased; another
worker then claims the lane while the first one holds it. -/
theorem leasedItem_opens_lane :
    ¬ EveryStep (performLane sampleDrain.selectionLane) (Exclusive sampleDrain.selectionLane)
      ⟨wholeBudgetQueue sampleDrain (by decide), []⟩
      [.claim (fun _ => false) sampleDrain.selectionLane "first worker" 10 90,
        .sync (leasedUpdate "first" 10),
        .claim (fun _ => false) sampleDrain.selectionLane "second worker" 20 90] := by
  rintro ⟨_, _, hsecond, _⟩
  have hgranted := hsecond _ _ _ _ rfl _ _ rfl ⟨"first worker", 90000010, true⟩ (by decide)
      (by decide)
  exact absurd hgranted (by decide)

end CrmBot.CapacityAdmissionQueue
