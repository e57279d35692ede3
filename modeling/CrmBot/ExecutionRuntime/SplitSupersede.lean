import CrmBot.ExecutionRuntime.ItemStatus
import CrmBot.ExecutionRuntime.StoreRuns
import CrmBot.Library.Runs

/-!
Superseding waiting items in two statements: the use case reads an item, decides
in memory and saves it later. Neither statement locks the row nor checks what it
holds by then, so other transactions may act in between. A raise ends the use case
here; its saves are then undone with its transaction.
-/

namespace CrmBot.ExecutionRuntime

open Relational CrmBot.Python Runs

/-- `SupersedeWaitingWorkItemsForSplit.execute` between two of its statements. The
pending item is decided and not yet saved. -/
structure SplitSupersede where
  store : ExecutionStore
  remaining : List String
  pending : Option WorkItem
  supersededWorkItemIds : List String
  raised : Option Fault

/-- The next statement of the use case, or an operation of another transaction. -/
inductive SplitEvent
  | read
  | save (now : Int)
  | operation (operation : StoreOperation)

def SplitSupersede.start (store : ExecutionStore) (workItemIds : List String) :
    SplitSupersede :=
  ⟨store, workItemIds, none, [], none⟩

namespace SplitSupersede

def raise (state : SplitSupersede) (fault : Fault) : SplitSupersede :=
  { state with remaining := [], raised := some fault }

/-- One item is loaded and decided. -/
def read (state : SplitSupersede) : SplitSupersede :=
  match state.pending, state.remaining with
  | none, workItemId :: rest =>
    match loadWorkItem state.store workItemId with
    | none => state.raise (.valueError ("work item not found: " ++ workItemId))
    | some item =>
      if item.status = .splitSuperseded then
        { state with
          remaining := rest
          supersededWorkItemIds := state.supersededWorkItemIds ++ [item.workItemId] }
      else
        match WorkItemStateMachine.markSplitSupersededWaiting item with
        | .error fault => state.raise fault
        | .ok superseded => { state with remaining := rest, pending := some superseded }
  | _, _ => state

/-- The decided item is written over whatever the row holds. -/
def save (state : SplitSupersede) (now : Int) : SplitSupersede :=
  match state.pending with
  | none => state
  | some item =>
    { state with
      store := saveWorkItem state.store item now
      pending := none
      supersededWorkItemIds := state.supersededWorkItemIds ++ [item.workItemId] }

def perform (state : SplitSupersede) : SplitEvent → SplitSupersede
  | .read => state.read
  | .save now => state.save now
  | .operation operation => { state with store := performStore state.store operation }

end SplitSupersede

/-- A save changes no item that is leased or in a final state by then. -/
def SparesProgressed (state : SplitSupersede) : SplitEvent → Prop
  | .save now => ∀ workItemId row, state.store.workItems.find? workItemId = some row →
      row.item.status.isWaiting = false →
      (state.save now).store.workItems.find? workItemId = some row
  | _ => True

/-- An operation that leases an item or supersedes it. -/
def StoreOperation.Takes (store : ExecutionStore) (workItemId : String)
    (operation : StoreOperation) : Prop :=
  operation.leasedId store = some workItemId ∨ ∃ now, operation = .supersede workItemId now

/-- No other transaction takes the item that has been read and not yet saved. -/
def LeavesPending (state : SplitSupersede) : SplitEvent → Prop
  | .operation operation => ∀ item ∈ state.pending,
      ¬ operation.Takes state.store item.workItemId
  | _ => True

/-- The pending item is still waiting in the store. -/
def PendingWaits (state : SplitSupersede) : Prop :=
  ∀ item ∈ state.pending, ∃ row, state.store.workItems.find? item.workItemId = some row ∧
    row.item.status.isWaiting = true

variable {store : ExecutionStore} {workItemId : String} {state : SplitSupersede}

section Waiting

variable {before after : WorkItem}

/-- A transition out of a lease does not apply to a waiting item. -/
theorem requireLeased_of_waiting (hwaiting : before.status.isWaiting = true) (action : String) :
    ∃ fault, WorkItemStateMachine.requireLeased before action = .error fault := by
  have hleased : before.status ≠ .leased := by
    intro hstatus
    rw [hstatus] at hwaiting
    cases hwaiting
  exact ⟨_, if_pos hleased⟩

theorem waiting_of_leasedTransition (hwaiting : before.status.isWaiting = true)
    {transition : Transition} {item : WorkItem}
    (hkind : transition = .completeLeased ∨
      (∃ errorKind retryPlan, transition = .failLeasedRetryable errorKind retryPlan) ∨
      ∃ errorKind, transition = .failLeasedTerminal errorKind)
    (happly : transition.apply before = .ok item) : False := by
  rcases hkind with rfl | ⟨errorKind, retryPlan, rfl⟩ | ⟨errorKind, rfl⟩
  · obtain ⟨fault, hfault⟩ := requireLeased_of_waiting hwaiting "complete"
    simp [Transition.apply, WorkItemStateMachine.completeLeased, hfault, bind, Except.bind]
      at happly
  · obtain ⟨fault, hfault⟩ := requireLeased_of_waiting hwaiting "mark retryable failed"
    simp [Transition.apply, WorkItemStateMachine.failLeasedRetryable, hfault, bind, Except.bind]
      at happly
  · obtain ⟨fault, hfault⟩ := requireLeased_of_waiting hwaiting "mark terminal failed"
    simp [Transition.apply, WorkItemStateMachine.failLeasedTerminal, hfault, bind, Except.bind]
      at happly

theorem outcomeTransition_cases {record : AttemptOutcomeRecord} {transition : Transition}
    (h : outcomeTransition record = some transition) :
    (∃ errorKind retryPlan, transition = .failLeasedRetryable errorKind retryPlan) ∨
      ∃ errorKind, transition = .failLeasedTerminal errorKind := by
  unfold outcomeTransition at h
  split at h
  · cases h
    exact .inl ⟨_, _, rfl⟩
  · cases h
    exact .inr ⟨_, rfl⟩
  · cases h

theorem eq_some_of_acceptedFor {Value : Type} {result : Except Fault Value}
    {target : String} {transition : Option Transition} {applied : Transition}
    (h : acceptedFor result target workItemId transition = some applied) :
    transition = some applied := by
  unfold acceptedFor at h
  split at h
  · split at h
    · exact h
    · cases h
  · cases h

/-- The transition of an operation that does not take a waiting item is none, or
one that leaves or reclaims a lease. -/
theorem transition_cases_of_not_takes {operation : StoreOperation}
    (hnot : ¬ operation.Takes store workItemId) {transition : Transition}
    (h : operation.transition store workItemId = some transition) :
    (transition = .completeLeased ∨
      (∃ errorKind retryPlan, transition = .failLeasedRetryable errorKind retryPlan) ∨
      ∃ errorKind, transition = .failLeasedTerminal errorKind) ∨
    ∃ now, transition = .reclaimExpiredLease now := by
  unfold StoreOperation.transition at h
  cases operation with
  | leaseDue | leaseById =>
    dsimp only at h
    split at h
    · next hleased => exact absurd (.inl hleased) hnot
    · cases h
  | start => cases h
  | record outcome now =>
    dsimp only at h
    split at h
    · cases h
    · exact .inl (.inr (outcomeTransition_cases (eq_some_of_acceptedFor h)))
  | complete target leaseToken now =>
    have hcomplete := eq_some_of_acceptedFor h
    cases hcomplete
    exact .inl (.inl rfl)
  | recover locked now limit =>
    dsimp only at h
    split at h
    · cases h
    · split at h
      · cases h
        exact .inr ⟨now, rfl⟩
      · cases h
  | supersede target now =>
    dsimp only at h
    split at h
    · next htarget => exact absurd (.inr ⟨now, by rw [htarget.1]⟩) hnot
    · cases h

/-- A waiting item that an operation does not take goes on waiting. -/
theorem waiting_performStore {operation : StoreOperation} {row : WorkItemRow}
    (hrow : store.workItems.find? workItemId = some row)
    (hwaiting : row.item.status.isWaiting = true) (hnot : ¬ operation.Takes store workItemId) :
    ∃ next, (performStore store operation).workItems.find? workItemId = some next ∧
      next.item.status.isWaiting = true := by
  obtain ⟨next, hnext, hstep⟩ := itemStep_performStore operation hrow
  refine ⟨next, hnext, ?_⟩
  cases htransition : operation.transition store workItemId with
  | none =>
    rw [htransition] at hstep
    rw [show next.item = row.item from hstep]
    exact hwaiting
  | some transition =>
    rw [htransition] at hstep
    obtain ⟨item, happly, hafter⟩ := hstep
    rcases transition_cases_of_not_takes hnot htransition with hleased | ⟨now, rfl⟩
    · exact (waiting_of_leasedTransition hwaiting hleased happly).elim
    · -- A recovery leaves an item that is not leased as it is.
      have hsame : WorkItemStateMachine.reclaimExpiredLease row.item now = row.item := by
        unfold WorkItemStateMachine.reclaimExpiredLease
        rw [if_neg]
        rintro ⟨hstatus, -⟩
        rw [hstatus] at hwaiting
        cases hwaiting
      have hitem : item = row.item := by
        rw [← hsame]
        exact (Except.ok.inj happly).symm
      rw [hafter, hitem]
      exact hwaiting

end Waiting

section Steps

/-- An item that a read decides to supersede is waiting, and keeps its id. -/
theorem waiting_of_markSplitSupersededWaiting {item superseded : WorkItem}
    (h : WorkItemStateMachine.markSplitSupersededWaiting item = .ok superseded) :
    item.status.isWaiting = true ∧ superseded.workItemId = item.workItemId := by
  unfold WorkItemStateMachine.markSplitSupersededWaiting at h
  split at h
  · cases h
  · next hwaiting =>
    cases h
    exact ⟨not_not.mp hwaiting, rfl⟩

theorem pendingWaits_read (h : PendingWaits state) : PendingWaits state.read := by
  unfold SplitSupersede.read
  split
  · next workItemId rest hpending hremaining =>
    split
    · exact h
    · next item hload =>
      split
      · exact h
      · split
        · exact h
        · next superseded hmark =>
          obtain ⟨row, hrow, rfl⟩ := Option.map_eq_some_iff.mp hload
          obtain ⟨hwaiting, hid⟩ := waiting_of_markSplitSupersededWaiting hmark
          have hkey : row.item.workItemId = workItemId := (Table.find?_eq_some_iff.mp hrow).2
          rintro item ⟨⟩
          refine ⟨row, ?_, hwaiting⟩
          rw [hid]
          change state.store.workItems.find? row.item.workItemId = some row
          rw [hkey]
          exact hrow
  · exact h

theorem pendingWaits_save (h : PendingWaits state) (now : Int) :
    PendingWaits (state.save now) := by
  unfold SplitSupersede.save
  split
  · exact h
  · exact fun _ hitem => absurd hitem (by simp)

/-- Every event that leaves the pending item alone keeps it waiting. -/
theorem pendingWaits_perform (event : SplitEvent) (h : PendingWaits state)
    (hleaves : LeavesPending state event) : PendingWaits (state.perform event) := by
  cases event with
  | read => exact pendingWaits_read h
  | save now => exact pendingWaits_save h now
  | operation operation =>
    intro item hitem
    obtain ⟨row, hrow, hwaiting⟩ := h item hitem
    exact waiting_performStore hrow hwaiting (hleaves item hitem)

/-- A save writes the row of the pending item only. -/
theorem sparesProgressed_of_pendingWaits (event : SplitEvent) (h : PendingWaits state) :
    SparesProgressed state event := by
  cases event with
  | read | operation => exact trivial
  | save now =>
    intro workItemId row hrow hprogressed
    unfold SplitSupersede.save
    split
    · exact hrow
    · next item hpending =>
      obtain ⟨waitingRow, hfind, hwaiting⟩ := h item hpending
      have hother : workItemId ≠ item.workItemId := by
        rintro rfl
        rw [hfind] at hrow
        cases hrow
        rw [hwaiting] at hprogressed
        cases hprogressed
      change (saveWorkItem state.store item now).workItems.find? workItemId = some row
      rw [saveWorkItem, find?_updateWorkItem_of_ne hother]
      exact hrow

/-- As long as no other transaction takes an item between its read and its save,
no save changes an item that is leased or in a final state. -/
theorem splitSupersede_spares (store : ExecutionStore) (workItemIds : List String)
    {events : List SplitEvent}
    (h : EveryStep SplitSupersede.perform LeavesPending (.start store workItemIds) events) :
    EveryStep SplitSupersede.perform SparesProgressed (.start store workItemIds) events := by
  apply EveryStep.of_invariant (fun _ event hkeeps hleaves =>
    pendingWaits_perform event hkeeps hleaves) ?_ h
  · exact fun _ hitem => absurd hitem (by simp [SplitSupersede.start])
  · exact fun _ event hkeeps _ => sparesProgressed_of_pendingWaits event hkeeps

end Steps

/-- The lease of the item of a fresh store. -/
def freshLease : StoreOperation :=
  .leaseById (fun _ => false) "kind" "item" "worker" "token" 100 10

/-- The item is leased between its read and its save, and superseded under its
worker. -/
theorem leasedItem_superseded :
    let store := freshStore "item" "kind" (by decide)
    let leased := [SplitEvent.read, .operation freshLease].foldl SplitSupersede.perform
      (.start store ["item"])
    itemStatus leased.store "item" = some .leased ∧
      itemStatus (leased.perform (.save 20)).store "item" = some .splitSuperseded := by
  decide +kernel

/-- A lease of another item in between does no harm. -/
theorem otherLease_spares :
    let store := freshStore "item" "kind" (by decide)
    EveryStep SplitSupersede.perform SparesProgressed (.start store ["item"])
      [.read, .operation (.leaseById (fun _ => false) "kind" "other" "worker" "token" 100 10),
        .save 20] := by
  apply splitSupersede_spares
  refine ⟨trivial, ?_, trivial, trivial⟩
  rintro item - (hleased | ⟨now, heq⟩)
  · cases hleased
  · cases heq

end CrmBot.ExecutionRuntime
