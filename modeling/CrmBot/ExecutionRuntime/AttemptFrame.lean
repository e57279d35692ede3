import CrmBot.ExecutionRuntime.ExecutionStore

/-! What the execution store keeps of its attempts.

No operation but the start of an attempt adds or renames an attempt, and no
operation at all lowers the attempt count of an item. -/

namespace CrmBot.ExecutionRuntime

open Relational CrmBot.Python FailingFold

/-- The items of a store are still there, with at least as many attempts. -/
def ItemsKept (before after : ExecutionStore) : Prop :=
  ∀ workItemId row, before.workItems.find? workItemId = some row →
    ∃ kept, after.workItems.find? workItemId = some kept ∧
      row.item.attemptCount ≤ kept.item.attemptCount

/-- Dispatches are the same, and so are the ids and numbers of the attempts. -/
structure AttemptsKept (before after : ExecutionStore) : Prop where
  items : ItemsKept before after
  dispatches : after.dispatches = before.dispatches
  attempts : ∀ attempt ∈ after.attempts.rows, ∃ old ∈ before.attempts.rows,
    old.attemptId = attempt.attemptId ∧ old.itemAttempt = attempt.itemAttempt

/-- An update of an item that keeps or raises its attempt count. -/
theorem updateWorkItem_itemsKept {store : ExecutionStore} {workItemId : String} {row : WorkItemRow}
    {item : WorkItem} {retryPlan : WorkItemRow → Option WorkItemRetryPlan} {updatedAt : Int}
    (hrow : store.workItems.find? workItemId = some row)
    (hcount : row.item.attemptCount ≤ item.attemptCount) :
    ItemsKept store (updateWorkItem store workItemId item retryPlan updatedAt) := by
  intro other found hfound
  by_cases heq : other = workItemId
  · rw [heq, hrow, Option.some.injEq] at hfound
    subst hfound
    rw [heq]
    exact ⟨_, find?_updateWorkItem_self hrow, hcount⟩
  · exact ⟨found, (find?_updateWorkItem_of_ne heq).trans hfound, le_refl _⟩

theorem updateWorkItem_attemptsKept {store : ExecutionStore} {workItemId : String}
    {row : WorkItemRow} {item : WorkItem} {retryPlan : WorkItemRow → Option WorkItemRetryPlan}
    {updatedAt : Int} (hrow : store.workItems.find? workItemId = some row)
    (hcount : item.attemptCount = row.item.attemptCount) :
    AttemptsKept store (updateWorkItem store workItemId item retryPlan updatedAt) where
  items := updateWorkItem_itemsKept hrow hcount.ge
  dispatches := rfl
  attempts := fun attempt hattempt => ⟨attempt, hattempt, rfl, rfl⟩

/-- Attempts whose rows are rewritten in other columns are kept. -/
theorem attempts_updateWhere {attempts : UniqueTable AttemptRow.attemptId AttemptRow.itemAttempt}
    {condition : AttemptRow → Bool} {update : AttemptRow → AttemptRow}
    (hkey : ∀ row, (update row).attemptId = row.attemptId)
    (hunique : ∀ row, (update row).itemAttempt = row.itemAttempt) :
    ∀ attempt ∈ (attempts.updateWhere condition update hkey hunique).rows,
      ∃ old ∈ attempts.rows,
        old.attemptId = attempt.attemptId ∧ old.itemAttempt = attempt.itemAttempt := by
  intro attempt hattempt
  rw [UniqueTable.rows_updateWhere, List.mem_map] at hattempt
  obtain ⟨old, hold, rfl⟩ := hattempt
  refine ⟨old, hold, ?_⟩
  split
  · exact ⟨(hkey old).symm, (hunique old).symm⟩
  · exact ⟨rfl, rfl⟩

/-- No outcome changes the attempt count. -/
theorem transitionWorkItem_attemptCount {current next : WorkItem} {record : AttemptOutcomeRecord}
    (h : transitionWorkItem current record = .ok next) :
    next.attemptCount = current.attemptCount := by
  unfold transitionWorkItem at h
  split at h
  · cases h
    rfl
  · cases h
  · split at h
    · cases h
    · unfold WorkItemStateMachine.failLeasedRetryable at h
      obtain ⟨_, _, hrest⟩ := bind_eq_ok.mp h
      obtain ⟨_, _, hnext⟩ := bind_eq_ok.mp hrest
      cases hnext
      rfl
  · unfold WorkItemStateMachine.failLeasedTerminal at h
    obtain ⟨_, _, hrest⟩ := bind_eq_ok.mp h
    obtain ⟨_, _, hnext⟩ := bind_eq_ok.mp hrest
    cases hnext
    rfl

theorem recordAttemptOutcome_attemptsKept {store next : ExecutionStore}
    {record : AttemptOutcomeRecord} {now : Int} {item : WorkItem}
    (h : recordAttemptOutcome store record now = .ok (item, next)) : AttemptsKept store next := by
  unfold recordAttemptOutcome at h
  split at h
  · cases h
  · next row hrow =>
    obtain ⟨_, _, hrest⟩ := bind_eq_ok.mp h
    obtain ⟨transitioned, htransition, hupdate⟩ := bind_eq_ok.mp hrest
    have hcount := transitionWorkItem_attemptCount htransition
    dsimp only at hupdate
    split at hupdate
    · cases hupdate
      refine ⟨updateWorkItem_itemsKept hrow hcount.ge, rfl, ?_⟩
      apply attempts_updateWhere
      exact fun _ => rfl
    · cases hupdate

theorem completeWorkItemAfterDomainApply_attemptsKept {store next : ExecutionStore}
    {workItemId leaseToken : String} {now : Int} {item : WorkItem}
    (h : completeWorkItemAfterDomainApply store workItemId leaseToken now = .ok (item, next)) :
    AttemptsKept store next := by
  unfold completeWorkItemAfterDomainApply at h
  split at h
  · cases h
  · next row hrow =>
    split at h
    · cases h
    · split at h
      · cases h
      · obtain ⟨completed, hcompleted, hnext⟩ := bind_eq_ok.mp h
        unfold WorkItemStateMachine.completeLeased at hcompleted
        obtain ⟨_, _, hitem⟩ := bind_eq_ok.mp hcompleted
        cases hitem
        cases hnext
        exact updateWorkItem_attemptsKept hrow rfl

theorem reclaimExpired_attemptsKept (store : ExecutionStore) (locked : String → Bool) (now : Int)
    (limit : Nat) : AttemptsKept store (reclaimExpired store locked now limit) := by
  constructor
  · intro workItemId row hrow
    unfold reclaimExpired
    dsimp only
    rw [Table.find?_updateWhere, hrow, Option.map_some]
    refine ⟨_, rfl, ?_⟩
    split
    · exact le_refl _
    · exact le_refl _
  · rfl
  · apply attempts_updateWhere
    exact fun _ => rfl

theorem saveScheduledWorkItem_attemptsKept {store next : ExecutionStore} {item : WorkItem}
    {idempotencyKey payloadHash : String} {payload : Payload} {now : Int}
    (h : saveScheduledWorkItem store item idempotencyKey payloadHash payload now = .ok next) :
    AttemptsKept store next := by
  unfold saveScheduledWorkItem at h
  split at h
  · cases h
  · next workItems hitems =>
    split at h
    · cases h
    · cases h
      refine ⟨?_, rfl, fun attempt hattempt => ⟨attempt, hattempt, rfl, rfl⟩⟩
      intro workItemId row hrow
      obtain ⟨_, rfl⟩ := Table.insert?_eq_some_iff.mp hitems
      obtain ⟨hmem, hkey⟩ := Table.find?_eq_some_iff.mp hrow
      refine ⟨row, Table.find?_eq_some_iff.mpr ⟨?_, hkey⟩, le_refl _⟩
      exact Table.mem_insertOrIgnore.mpr (.inl hmem)

end CrmBot.ExecutionRuntime
