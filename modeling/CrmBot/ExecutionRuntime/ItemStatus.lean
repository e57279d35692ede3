import CrmBot.ExecutionRuntime.EnsureScheduled

/-! The status of a work item, and what each statement does to it. -/

namespace CrmBot.ExecutionRuntime

open Relational CrmBot.Python FailingFold

def itemStatus (store : ExecutionStore) (workItemId : String) : Option WorkItemStatus :=
  (store.workItems.find? workItemId).map fun row => row.item.status

/-- The item is leased or in a final state. -/
def Progressed (store : ExecutionStore) (workItemId : String) : Prop :=
  ∃ status, itemStatus store workItemId = some status ∧ status.isWaiting = false

/-- The work item of `get_recorded_attempt_outcome`, as it is now. -/
def recordedWorkItem (store : ExecutionStore) (attemptId : String) : Option (WorkItem × Int) :=
  match store.attempts.find? attemptId with
  | none => none
  | some attempt => match attempt.finishedAt, attempt.outcomeStatus with
    | some finishedAt, some _ =>
      (store.workItems.find? attempt.workItemId).map fun row => (row.item, finishedAt)
    | _, _ => none

variable {store next : ExecutionStore}

theorem itemStatus_eq_some_iff {workItemId : String} {status : WorkItemStatus} :
    itemStatus store workItemId = some status ↔
      ∃ row ∈ store.workItems.rows, row.workItemId = workItemId ∧ row.item.status = status := by
  unfold itemStatus
  rw [Option.map_eq_some_iff]
  constructor
  · rintro ⟨row, hfind, hstatus⟩
    obtain ⟨hmem, hid⟩ := Table.find?_eq_some_iff.mp hfind
    exact ⟨row, hmem, hid, hstatus⟩
  · rintro ⟨row, hmem, hid, hstatus⟩
    exact ⟨row, Table.find?_eq_some_iff.mpr ⟨hmem, hid⟩, hstatus⟩

theorem itemStatus_eq_none_iff {workItemId : String} :
    itemStatus store workItemId = none ↔ workItemId ∉ store.workItems.keys := by
  unfold itemStatus
  rw [Option.map_eq_none_iff, Table.find?_eq_none_iff]

theorem itemStatus_updateWorkItem (store : ExecutionStore) (workItemId : String) (item : WorkItem)
    (retryPlan : WorkItemRow → Option WorkItemRetryPlan) (updatedAt : Int) (id : String) :
    itemStatus (updateWorkItem store workItemId item retryPlan updatedAt) id =
      if workItemId = id then (itemStatus store id).map fun _ => item.status
      else itemStatus store id := by
  unfold itemStatus
  split
  · next heq =>
    subst heq
    cases hrow : store.workItems.find? workItemId with
    | none =>
      unfold updateWorkItem
      rw [Table.find?_updateWhere, hrow]
      rfl
    | some row =>
      rw [find?_updateWorkItem_self hrow]
      rfl
  · next hne =>
    rw [find?_updateWorkItem_of_ne (Ne.symm hne)]

/-! Scheduling. -/

/-- An item keeps its status, and a new one is ready. -/
def StatusKept (store next : ExecutionStore) : Prop :=
  ∀ id, itemStatus next id = itemStatus store id ∨
    (itemStatus store id = none ∧ itemStatus next id = some .ready)

theorem statusKept_refl (store : ExecutionStore) : StatusKept store store := fun _ => .inl rfl

theorem StatusKept.trans {last : ExecutionStore} (hfirst : StatusKept store next)
    (hsecond : StatusKept next last) : StatusKept store last := by
  intro id
  rcases hfirst id with hsame | ⟨hnone, hready⟩
  · rcases hsecond id with hlater | ⟨hnone, hready⟩
    · exact .inl (hlater.trans hsame)
    · exact .inr ⟨hsame.symm.trans hnone, hready⟩
  · rcases hsecond id with hlater | ⟨hnone', _⟩
    · exact .inr ⟨hnone, hlater.trans hready⟩
    · rw [hready] at hnone'
      cases hnone'

theorem StatusKept.progressed_iff (h : StatusKept store next) (id : String) :
    Progressed next id ↔ Progressed store id := by
  unfold Progressed
  rcases h id with hsame | ⟨hnone, hready⟩
  · rw [hsame]
  · rw [hnone, hready]
    constructor
    · rintro ⟨status, hstatus, hwaiting⟩
      cases hstatus
      cases hwaiting
    · rintro ⟨status, hstatus, _⟩
      cases hstatus

variable {payloadHash : Payload → String} {now : Int}

theorem statusKept_ensurePlan {plan : WorkItemSchedulePlan}
    {outcome : EnsureWorkItemScheduledOutcome}
    (h : ensurePlan payloadHash now store plan = .ok (outcome, next)) : StatusKept store next := by
  rcases ensurePlan_cases h with ⟨hnew, _, row, hrowId, hready, hrows⟩ | ⟨_, _, _, rfl⟩
  · intro id
    by_cases heq : id = plan.workItemId
    · right
      rw [heq]
      refine ⟨itemStatus_eq_none_iff.mpr hnew, ?_⟩
      apply itemStatus_eq_some_iff.mpr
      refine ⟨row, ?_, hrowId, hready⟩
      rw [hrows]
      exact List.mem_append_right _ (List.mem_singleton_self row)
    · left
      apply Option.ext
      intro status
      rw [itemStatus_eq_some_iff, itemStatus_eq_some_iff, hrows]
      constructor
      · rintro ⟨old, hold, hid, hstatus⟩
        rcases List.mem_append.mp hold with hmem | hmem
        · exact ⟨old, hmem, hid, hstatus⟩
        · rw [List.mem_singleton.mp hmem] at hid
          exact absurd (hid.symm.trans hrowId) heq
      · rintro ⟨old, hold, hid, hstatus⟩
        exact ⟨old, List.mem_append_left _ hold, hid, hstatus⟩
  · exact statusKept_refl _

/-- Scheduling changes the status of no item. -/
theorem statusKept_ensureWorkItemsScheduled {plans : List WorkItemSchedulePlan}
    {outcomes : List EnsureWorkItemScheduledOutcome}
    (h : ensureWorkItemsScheduled payloadHash now store plans = .ok (outcomes, next)) :
    StatusKept store next := by
  have hloop : ∀ (plans : List WorkItemSchedulePlan)
      (first last : List EnsureWorkItemScheduledOutcome × ExecutionStore),
      plans.foldlM (ensureStep payloadHash now) first = .ok last → StatusKept first.2 last.2 := by
    intro plans
    induction plans with
    | nil =>
      intro first last hrun
      cases hrun
      exact statusKept_refl _
    | cons plan rest ih =>
      intro first last hrun
      rw [List.foldlM_cons] at hrun
      obtain ⟨middle, hstep, hrest⟩ := bind_eq_ok.mp hrun
      obtain ⟨outcome, hplan, _⟩ := ensureStep_eq_ok hstep
      exact (statusKept_ensurePlan hplan).trans (ih middle last hrest)
  exact hloop plans _ _ (ensureWorkItemsScheduled_eq_ok h)

/-! Leases, outcomes, completions and recovery. -/

/-- A granted lease makes its item leased and touches no other. -/
theorem itemStatus_leaseDueWorkItemById {locked : String → Bool}
    {workKind workItemId worker leaseToken : String} {leaseExpiresAt : Int}
    {record : LeasedWorkItemRecord}
    (h : leaseDueWorkItemById store locked workKind workItemId worker leaseToken leaseExpiresAt
      now = .ok (some record, next)) (id : String) :
    itemStatus next id = if workItemId = id then some .leased else itemStatus store id := by
  unfold leaseDueWorkItemById at h
  split at h
  · cases h
  · next row schedule hrow =>
    obtain ⟨hfind, _⟩ := leasableRow_eq_some_iff.mp hrow
    obtain ⟨leased, hlease, heq⟩ := bind_eq_ok.mp h
    cases heq
    have hstatus : leased.status = .leased := by
      unfold WorkItemStateMachine.leaseReady at hlease
      split at hlease
      · cases hlease
      · split at hlease
        · cases hlease
        · cases hlease
          rfl
    rw [itemStatus_updateWorkItem]
    split
    · next hid =>
      subst hid
      simp [itemStatus, hfind, hstatus]
    · rfl

theorem transitionWorkItem_workItemId {current item : WorkItem} {record : AttemptOutcomeRecord}
    (h : transitionWorkItem current record = .ok item) :
    item.workItemId = current.workItemId ∧ (item.status = .leased → item = current) := by
  unfold transitionWorkItem at h
  split at h
  · cases h
    exact ⟨rfl, fun _ => rfl⟩
  · cases h
  · split at h
    · cases h
    · obtain ⟨_, _, h⟩ := bind_eq_ok.mp h
      obtain ⟨_, _, h⟩ := bind_eq_ok.mp h
      cases h
      exact ⟨rfl, nofun⟩
  · obtain ⟨_, _, h⟩ := bind_eq_ok.mp h
    obtain ⟨_, _, h⟩ := bind_eq_ok.mp h
    cases h
    exact ⟨rfl, nofun⟩

/-- The store in which one item has got the status of the item given. -/
structure ItemUpdated (store next : ExecutionStore) (item : WorkItem) : Prop where
  status_eq : ∀ id, itemStatus next id =
    if item.workItemId = id then some item.status else itemStatus store id
  progressed : item.status = .leased → Progressed store item.workItemId

theorem itemUpdated_recordAttemptOutcome {record : AttemptOutcomeRecord} {item : WorkItem}
    (h : recordAttemptOutcome store record now = .ok (item, next)) :
    ItemUpdated store next item := by
  unfold recordAttemptOutcome at h
  split at h
  · cases h
  · next row hfind =>
    have hid := (Table.find?_eq_some_iff.mp hfind).2
    obtain ⟨_, hlease, h⟩ := bind_eq_ok.mp h
    obtain ⟨transitioned, htransition, h⟩ := bind_eq_ok.mp h
    obtain ⟨hsameId, hsame⟩ := transitionWorkItem_workItemId htransition
    have hitemId : transitioned.workItemId = record.workItemId := hsameId.trans hid
    have hcurrent : itemStatus store record.workItemId = some row.item.status := by
      simp [itemStatus, hfind]
    dsimp only at h
    split at h
    · cases h
      refine ⟨?_, ?_⟩
      · intro id
        rw [itemStatus_updateWorkItem, hitemId]
        split
        · next heq =>
          subst heq
          change (itemStatus store record.workItemId).map _ = _
          rw [hcurrent]
          rfl
        · rfl
      · intro hleased
        refine ⟨row.item.status, ?_, ?_⟩
        · rw [hitemId]
          exact hcurrent
        · rw [← hsame hleased, hleased]
          rfl
    · cases h

theorem itemUpdated_completeWorkItemAfterDomainApply {workItemId leaseToken : String}
    {item : WorkItem}
    (h : completeWorkItemAfterDomainApply store workItemId leaseToken now = .ok (item, next)) :
    ItemUpdated store next item := by
  unfold completeWorkItemAfterDomainApply at h
  split at h
  · cases h
  · next row hfind =>
    have hid : row.item.workItemId = workItemId := (Table.find?_eq_some_iff.mp hfind).2
    split at h
    · cases h
    · split at h
      · cases h
      · obtain ⟨completed, hcomplete, heq⟩ := bind_eq_ok.mp h
        obtain ⟨_, _, hcompleted⟩ := bind_eq_ok.mp hcomplete
        cases hcompleted
        cases heq
        refine ⟨?_, nofun⟩
        intro id
        rw [itemStatus_updateWorkItem]
        change _ = if row.item.workItemId = id then _ else _
        rw [hid]
        split
        · next heq =>
          subst heq
          simp [itemStatus, hfind]
        · rfl

theorem itemUpdated_recordedWorkItem {attemptId : String} {item : WorkItem} {finishedAt : Int}
    (h : recordedWorkItem store attemptId = some (item, finishedAt)) :
    ItemUpdated store store item := by
  have hrow : ∃ row ∈ store.workItems.rows, row.item = item := by
    unfold recordedWorkItem at h
    split at h
    · cases h
    · split at h
      · obtain ⟨row, hfind, heq⟩ := Option.map_eq_some_iff.mp h
        cases heq
        exact ⟨row, (Table.find?_eq_some_iff.mp hfind).1, rfl⟩
      · cases h
  obtain ⟨row, hmem, rfl⟩ := hrow
  have hcurrent : itemStatus store row.item.workItemId = some row.item.status :=
    itemStatus_eq_some_iff.mpr ⟨row, hmem, rfl, rfl⟩
  refine ⟨?_, ?_⟩
  · intro id
    split
    · next heq =>
      rw [← heq]
      exact hcurrent
    · rfl
  · intro hleased
    refine ⟨_, hcurrent, ?_⟩
    rw [hleased]
    rfl

/-- The recovery only makes items ready. -/
theorem progressed_of_reclaimExpired {locked : String → Bool} {limit : Nat} {id : String}
    (h : Progressed (reclaimExpired store locked now limit) id) : Progressed store id := by
  obtain ⟨status, hstatus, hwaiting⟩ := h
  unfold itemStatus reclaimExpired at hstatus
  rw [Table.find?_updateWhere, Option.map_map, Option.map_eq_some_iff] at hstatus
  obtain ⟨row, hfind, hrow⟩ := hstatus
  rw [Function.comp_apply] at hrow
  split at hrow
  · change WorkItemStatus.ready = status at hrow
    subst hrow
    cases hwaiting
  · refine ⟨status, ?_, hwaiting⟩
    unfold itemStatus
    rw [hfind]
    exact congrArg some hrow

/-! What stays completed. -/

/-- The recovery takes no completed item, and completes none. -/
theorem completed_reclaimExpired_iff {locked : String → Bool} {limit : Nat} {id : String} :
    itemStatus (reclaimExpired store locked now limit) id = some .completed ↔
      itemStatus store id = some .completed := by
  unfold itemStatus reclaimExpired
  rw [Table.find?_updateWhere, Option.map_map]
  cases hfind : store.workItems.find? id with
  | none => exact Iff.rfl
  | some row =>
    rw [Option.map_some, Option.map_some, Function.comp_apply]
    split
    · next hexpired =>
      obtain ⟨expired, htaken, hid⟩ := List.mem_map.mp (of_decide_eq_true hexpired)
      obtain ⟨hmem, htest⟩ := Table.mem_select.mp (List.mem_of_mem_take htaken)
      have hsame : expired = row :=
        store.workItems.eq_of_key_eq hmem (Table.find?_eq_some_iff.mp hfind).1 hid
      subst hsame
      have hleased : expired.item.status = .leased := by
        unfold leaseExpired at htest
        simp only [Bool.and_eq_true, decide_eq_true_eq] at htest
        exact htest.1.1
      rw [hleased]
      constructor
      · intro hcompleted
        cases hcompleted
      · intro hcompleted
        cases hcompleted
    · exact Iff.rfl

/-- A lease changes the row of a waiting item only. -/
theorem leaseDueWorkItemById_frame {locked : String → Bool}
    {workKind workItemId worker leaseToken : String} {leaseExpiresAt : Int}
    {record : Option LeasedWorkItemRecord}
    (h : leaseDueWorkItemById store locked workKind workItemId worker leaseToken leaseExpiresAt
      now = .ok (record, next)) :
    next.attempts = store.attempts ∧ next.dispatches = store.dispatches ∧
      ∀ id, itemStatus next id = some .completed ↔ itemStatus store id = some .completed := by
  cases record with
  | none =>
    unfold leaseDueWorkItemById at h
    split at h
    · cases h
      exact ⟨rfl, rfl, fun _ => Iff.rfl⟩
    · obtain ⟨_, _, heq⟩ := bind_eq_ok.mp h
      cases heq
  | some record =>
    have hstatus := itemStatus_leaseDueWorkItemById h
    unfold leaseDueWorkItemById at h
    split at h
    · cases h
    · next row schedule hrow =>
      obtain ⟨hfind, _, _, hdue, _⟩ := leasableRow_eq_some_iff.mp hrow
      obtain ⟨_, _, heq⟩ := bind_eq_ok.mp h
      cases heq
      refine ⟨rfl, rfl, ?_⟩
      intro id
      rw [hstatus]
      split
      · next hid =>
        subst hid
        refine iff_of_false nofun ?_
        intro hcompleted
        unfold itemStatus at hcompleted
        rw [hfind] at hcompleted
        have hrowStatus : row.item.status = .completed := Option.some.inj hcompleted
        unfold WorkItem.isDue at hdue
        rw [hrowStatus] at hdue
        cases hdue
      · exact Iff.rfl

end CrmBot.ExecutionRuntime
