import CrmBot.ExecutionRuntime.ExecutionStore

/-! `EnsureWorkItemsScheduled`: every plan has a work item afterwards.

The hash of a payload is a parameter, since nothing depends on its value. -/

namespace CrmBot.ExecutionRuntime

open Relational CrmBot.Python FailingFold

structure WorkItemSchedulePlan where
  workItemId : String
  workKind : String
  idempotencyKey : String
  payload : Payload
  deriving DecidableEq

inductive EnsureWorkItemScheduledStatus
  | created
  | alreadyExists
  | conflict
  deriving DecidableEq, Repr

structure EnsureWorkItemScheduledOutcome where
  plan : WorkItemSchedulePlan
  status : EnsureWorkItemScheduledStatus
  deriving DecidableEq

/-- The number of outcomes of one status. -/
def outcomeCount (status : EnsureWorkItemScheduledStatus)
    (outcomes : List EnsureWorkItemScheduledOutcome) : Nat :=
  outcomes.countP fun outcome => outcome.status = status

/-- `WorkItem(work_item_id, work_kind)`. -/
def newWorkItem (workItemId workKind : String) : Except Fault WorkItem :=
  if h : isBlank workItemId = false then
    .ok
      { workItemId, workKind, status := .ready, attemptCount := 0, leasedBy := none
        leaseToken := none, leaseExpiresAt := none, lastErrorKind := none, retryPlan := none
        workItemId_ne := h, lease_shape := leaseShape_ready }
  else .error (.valueError "work_item_id must be non-empty")

section

variable (payloadHash : Payload → String) (now : Int)

/-- `_ensure_plan`. -/
def ensurePlan (store : ExecutionStore) (plan : WorkItemSchedulePlan) :
    Except Fault (EnsureWorkItemScheduledOutcome × ExecutionStore) :=
  match store.workItems.find? plan.workItemId with
  | none => do
    let item ← newWorkItem plan.workItemId plan.workKind
    let saved ← saveScheduledWorkItem store item plan.idempotencyKey (payloadHash plan.payload)
      plan.payload now
    return ({ plan, status := .created }, saved)
  | some _ =>
    let existing := (store.schedules.find? plan.workItemId).map ScheduleRow.payloadHash
    if existing = some (payloadHash plan.payload) then
      .ok ({ plan, status := .alreadyExists }, store)
    else .ok ({ plan, status := .conflict }, store)

/-- One round of the loop. -/
def ensureStep (progress : List EnsureWorkItemScheduledOutcome × ExecutionStore)
    (plan : WorkItemSchedulePlan) :
    Except Fault (List EnsureWorkItemScheduledOutcome × ExecutionStore) := do
  let (outcome, store) ← ensurePlan payloadHash now progress.2 plan
  return (progress.1 ++ [outcome], store)

/-- `EnsureWorkItemsScheduled.execute`, whose command demands distinct items. -/
def ensureWorkItemsScheduled (store : ExecutionStore) (plans : List WorkItemSchedulePlan) :
    Except Fault (List EnsureWorkItemScheduledOutcome × ExecutionStore) :=
  if (plans.map WorkItemSchedulePlan.workItemId).Nodup then
    plans.foldlM (ensureStep payloadHash now) ([], store)
  else .error (.valueError "work_item_id must be unique")

end

variable {payloadHash : Payload → String} {now : Int}

theorem newWorkItem_eq_ok {workItemId workKind : String} {item : WorkItem}
    (h : newWorkItem workItemId workKind = .ok item) :
    item.workItemId = workItemId ∧ item.status = .ready := by
  unfold newWorkItem at h
  split at h
  · cases h
    exact ⟨rfl, rfl⟩
  · cases h

theorem saveScheduledWorkItem_workItems {store next : ExecutionStore} {item : WorkItem}
    {idempotencyKey hash : String} {payload : Payload}
    (h : saveScheduledWorkItem store item idempotencyKey hash payload now = .ok next) :
    ∃ row : WorkItemRow, row.workItemId = item.workItemId ∧ row.item.status = item.status ∧
      next.workItems.rows = store.workItems.rows ++ [row] := by
  unfold saveScheduledWorkItem at h
  split at h
  · cases h
  · next workItems hinsert =>
    obtain ⟨hnew, hrow⟩ := Table.insert?_eq_some_iff.mp hinsert
    split at h
    · cases h
    · cases h
      rw [hrow, Table.rows_insertOrIgnore_of_notMem hnew]
      exact ⟨_, rfl, rfl, rfl⟩

/-- What one plan does to the work items: a new ready item if there was none,
and nothing at all otherwise. -/
theorem ensurePlan_cases {store next : ExecutionStore} {plan : WorkItemSchedulePlan}
    {outcome : EnsureWorkItemScheduledOutcome}
    (h : ensurePlan payloadHash now store plan = .ok (outcome, next)) :
    (plan.workItemId ∉ store.workItems.keys ∧ outcome = { plan, status := .created } ∧
      ∃ row : WorkItemRow, row.workItemId = plan.workItemId ∧ row.item.status = .ready ∧
        next.workItems.rows = store.workItems.rows ++ [row]) ∨
    (plan.workItemId ∈ store.workItems.keys ∧ outcome.plan = plan ∧ outcome.status ≠ .created ∧
      next = store) := by
  unfold ensurePlan at h
  split at h
  · next hfind =>
    left
    obtain ⟨item, hitem, hrest⟩ := bind_eq_ok.mp h
    obtain ⟨saved, hsaved, heq⟩ := bind_eq_ok.mp hrest
    cases heq
    obtain ⟨row, hrowId, hrowStatus, hrows⟩ := saveScheduledWorkItem_workItems hsaved
    obtain ⟨hid, hready⟩ := newWorkItem_eq_ok hitem
    exact ⟨Table.find?_eq_none_iff.mp hfind, rfl, row, hrowId.trans hid, hrowStatus.trans hready,
      hrows⟩
  · next row hfind =>
    right
    have hmem : plan.workItemId ∈ store.workItems.keys :=
      Table.mem_keys.mpr ⟨row, Table.find?_eq_some_iff.mp hfind⟩
    dsimp only at h
    split at h
    · cases h
      exact ⟨hmem, rfl, by simp, rfl⟩
    · cases h
      exact ⟨hmem, rfl, by simp, rfl⟩

theorem ensureStep_eq_ok {progress next : List EnsureWorkItemScheduledOutcome × ExecutionStore}
    {plan : WorkItemSchedulePlan} (h : ensureStep payloadHash now progress plan = .ok next) :
    ∃ outcome, ensurePlan payloadHash now progress.2 plan = .ok (outcome, next.2) ∧
      next.1 = progress.1 ++ [outcome] := by
  obtain ⟨⟨outcome, store⟩, hplan, heq⟩ := bind_eq_ok.mp h
  cases heq
  exact ⟨outcome, hplan, rfl⟩

/-- A known item stays known. -/
theorem ensureStep_keys {progress next : List EnsureWorkItemScheduledOutcome × ExecutionStore}
    {plan : WorkItemSchedulePlan} (h : ensureStep payloadHash now progress plan = .ok next) :
    plan.workItemId ∈ next.2.workItems.keys ∧
      ∀ id ∈ progress.2.workItems.keys, id ∈ next.2.workItems.keys := by
  obtain ⟨outcome, hplan, _⟩ := ensureStep_eq_ok h
  rcases ensurePlan_cases hplan with ⟨_, _, row, hrow, _, hrows⟩ | ⟨hmem, _, _, heq⟩
  · simp only [Table.mem_keys, hrows, List.mem_append, List.mem_singleton]
    refine ⟨⟨row, .inr rfl, hrow⟩, ?_⟩
    rintro id ⟨old, hold, hid⟩
    exact ⟨old, .inl hold, hid⟩
  · rw [heq]
    exact ⟨hmem, fun id hid => hid⟩

/-- After a successful run every planned item exists, and no item was lost. -/
theorem ensureLoop_keys {plans : List WorkItemSchedulePlan}
    {first last : List EnsureWorkItemScheduledOutcome × ExecutionStore}
    (h : plans.foldlM (ensureStep payloadHash now) first = .ok last) :
    (∀ plan ∈ plans, plan.workItemId ∈ last.2.workItems.keys) ∧
      ∀ id ∈ first.2.workItems.keys, id ∈ last.2.workItems.keys := by
  induction plans generalizing first with
  | nil =>
    cases h
    exact ⟨nofun, fun id hid => hid⟩
  | cons plan rest ih =>
    rw [List.foldlM_cons] at h
    obtain ⟨middle, hstep, hrest⟩ := bind_eq_ok.mp h
    obtain ⟨hplan, hkept⟩ := ensureStep_keys hstep
    obtain ⟨hplans, hlater⟩ := ih hrest
    constructor
    · intro other hother
      rcases List.mem_cons.mp hother with rfl | hmem
      · exact hlater _ hplan
      · exact hplans other hmem
    · exact fun id hid => hlater id (hkept id hid)

/-- Where every planned item exists, nothing is created. -/
theorem ensureLoop_of_known {plans : List WorkItemSchedulePlan}
    {first last : List EnsureWorkItemScheduledOutcome × ExecutionStore}
    (hknown : ∀ plan ∈ plans, plan.workItemId ∈ first.2.workItems.keys)
    (h : plans.foldlM (ensureStep payloadHash now) first = .ok last) :
    last.2 = first.2 ∧ outcomeCount .created last.1 = outcomeCount .created first.1 := by
  induction plans generalizing first with
  | nil =>
    cases h
    exact ⟨rfl, rfl⟩
  | cons plan rest ih =>
    rw [List.foldlM_cons] at h
    obtain ⟨middle, hstep, hrest⟩ := bind_eq_ok.mp h
    obtain ⟨outcome, hplan, houtcomes⟩ := ensureStep_eq_ok hstep
    rcases ensurePlan_cases hplan with ⟨hnew, _⟩ | ⟨_, _, hstatus, heq⟩
    · exact absurd (hknown plan List.mem_cons_self) hnew
    · have hrestKnown : ∀ other ∈ rest, other.workItemId ∈ middle.2.workItems.keys := by
        intro other hother
        rw [heq]
        exact hknown other (List.mem_cons_of_mem _ hother)
      obtain ⟨hstore, hcount⟩ := ih hrestKnown hrest
      refine ⟨hstore.trans heq, ?_⟩
      rw [hcount, houtcomes]
      unfold outcomeCount
      rw [List.countP_append]
      simp [hstatus]

theorem ensureWorkItemsScheduled_eq_ok {store : ExecutionStore} {plans : List WorkItemSchedulePlan}
    {result : List EnsureWorkItemScheduledOutcome × ExecutionStore}
    (h : ensureWorkItemsScheduled payloadHash now store plans = .ok result) :
    plans.foldlM (ensureStep payloadHash now) ([], store) = .ok result := by
  unfold ensureWorkItemsScheduled at h
  split at h
  · exact h
  · cases h

/-- Scheduling the same plans again, at any time and whatever has become of the
items, creates nothing. -/
theorem ensureWorkItemsScheduled_again {store later : ExecutionStore} {laterNow : Int}
    {laterHash : Payload → String} {plans laterPlans : List WorkItemSchedulePlan}
    {first second : List EnsureWorkItemScheduledOutcome × ExecutionStore}
    (hfirst : ensureWorkItemsScheduled payloadHash now store plans = .ok first)
    (hplans : ∀ plan ∈ laterPlans, ∃ planned ∈ plans, planned.workItemId = plan.workItemId)
    (hlater : ∀ id ∈ first.2.workItems.keys, id ∈ later.workItems.keys)
    (hsecond : ensureWorkItemsScheduled laterHash laterNow later laterPlans = .ok second) :
    second.2 = later ∧ outcomeCount .created second.1 = 0 := by
  obtain ⟨hkeys, _⟩ := ensureLoop_keys (ensureWorkItemsScheduled_eq_ok hfirst)
  apply ensureLoop_of_known _ (ensureWorkItemsScheduled_eq_ok hsecond)
  intro plan hplan
  obtain ⟨planned, hplanned, hid⟩ := hplans plan hplan
  rw [← hid]
  exact hlater _ (hkeys planned hplanned)

end CrmBot.ExecutionRuntime
