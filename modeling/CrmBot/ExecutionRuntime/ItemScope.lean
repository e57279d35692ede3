import CrmBot.ExecutionRuntime.ExecutionStore

/-! A store seen by the owner of some of its items.

The statements that lease and start an owned item do the same on the store
without the other items. Only the limit of a peek can tell the difference. -/

namespace CrmBot.ExecutionRuntime

open Relational CrmBot.Python

/-- The store without the items that are not owned. -/
def keepItems (owned : String → Bool) (store : ExecutionStore) : ExecutionStore :=
  { store with workItems := store.workItems.deleteWhere fun row => !owned row.workItemId }

variable {owned : String → Bool} {store : ExecutionStore} {workItemId workKind : String}

theorem find?_keepItems (howned : owned workItemId = true) :
    (keepItems owned store).workItems.find? workItemId = store.workItems.find? workItemId := by
  unfold keepItems
  dsimp only
  rw [Table.find?_deleteWhere]
  cases hfind : store.workItems.find? workItemId with
  | none => rfl
  | some row =>
    have hid := (Table.find?_eq_some_iff.mp hfind).2
    simp [hid, howned]

theorem leasableRow_keepItems (howned : owned workItemId = true) (locked : String → Bool) :
    leasableRow (keepItems owned store) locked workKind workItemId =
      leasableRow store locked workKind workItemId := by
  unfold leasableRow
  rw [find?_keepItems howned]
  rfl

/-- The owned due items, in the same order. -/
theorem dueWorkItems_keepItems :
    dueWorkItems (keepItems owned store) workKind =
      (dueWorkItems store workKind).filter fun record => owned record.workItem.workItemId := by
  unfold dueWorkItems keepItems
  dsimp only
  rw [Table.select_deleteWhere fun _ _ hfirst hsecond =>
      WorkItemRow.workItemId_eq_of_dueBefore hfirst hsecond,
    List.filterMap_filter, List.filter_filterMap]
  congr 1
  funext row
  cases hschedule : store.schedules.find? row.workItemId with
  | none => simp
  | some schedule =>
    have hid : (hydrateWithoutRetryPlan row).workItemId = row.workItemId := rfl
    cases howned : owned row.workItemId with
    | false => simp [hid, howned, Option.filter]
    | true => simp [hid, howned, Option.filter]

/-- If all peeked items are owned, the owner peeks the same items. -/
theorem peekDueWorkItems_keepItems {requestedItems : Nat}
    (hall : ∀ record ∈ peekDueWorkItems store workKind requestedItems,
      owned record.workItem.workItemId = true) :
    peekDueWorkItems (keepItems owned store) workKind requestedItems =
      peekDueWorkItems store workKind requestedItems := by
  unfold peekDueWorkItems at hall ⊢
  rw [dueWorkItems_keepItems]
  have hsplit := List.take_append_drop requestedItems (dueWorkItems store workKind)
  have htaken : ((dueWorkItems store workKind).take requestedItems).filter
      (fun record => owned record.workItem.workItemId) =
        (dueWorkItems store workKind).take requestedItems :=
    List.filter_eq_self.mpr hall
  rcases Nat.lt_or_ge (dueWorkItems store workKind).length requestedItems with hshort | hlong
  · rw [List.take_of_length_le hshort.le] at htaken ⊢
    rw [htaken, List.take_of_length_le hshort.le]
  · have hlength : ((dueWorkItems store workKind).take requestedItems).length = requestedItems :=
      List.length_take_of_le hlong
    conv_lhs => rw [← hsplit, List.filter_append, htaken]
    rw [List.take_append_of_le_length hlength.ge, List.take_of_length_le hlength.le]

theorem updateWorkItem_keepItems (item : WorkItem)
    (retryPlan : WorkItemRow → Option WorkItemRetryPlan) (updatedAt : Int) :
    updateWorkItem (keepItems owned store) workItemId item retryPlan updatedAt =
      keepItems owned (updateWorkItem store workItemId item retryPlan updatedAt) := by
  unfold updateWorkItem keepItems
  dsimp only
  congr 1
  exact Table.updateWhere_deleteWhere _ fun row => by rw [WorkItemRow.setLifecycle_workItemId]

theorem saveStartedDispatchAttempt_keepItems (record : DispatchRow) (startedAt : Int) :
    saveStartedDispatchAttempt (keepItems owned store) record startedAt =
      (saveStartedDispatchAttempt store record startedAt).map (keepItems owned) := by
  unfold saveStartedDispatchAttempt keepItems
  dsimp only
  cases store.attempts.insertOrIgnore? (startedAttemptRow record startedAt) with
  | none => rfl
  | some attempts =>
    dsimp only
    cases store.dispatches.insert? record with
    | none => rfl
    | some dispatches => rfl

end CrmBot.ExecutionRuntime
