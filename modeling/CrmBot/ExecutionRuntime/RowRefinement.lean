import CrmBot.ExecutionRuntime.StoreRuns
import CrmBot.Library.Runs

/-! The row of a work item against the state machine, over a run of repository
operations. -/

namespace CrmBot.ExecutionRuntime

open Relational CrmBot.Python FailingFold Runs

/-- The store, and the item of the state machine that takes the transitions the
operations stand for. -/
structure RowAndMachine where
  store : ExecutionStore
  machine : Except Fault WorkItem

def performBoth (workItemId : String) (state : RowAndMachine) (operation : StoreOperation) :
    RowAndMachine where
  store := performStore state.store operation
  machine := state.machine >>= fun item =>
    runTransitions item (operation.transition state.store workItemId).toList

/-- The row holds the item that the state machine has reached. -/
def Refines (workItemId : String) (state : RowAndMachine) : Prop :=
  ∃ row, state.store.workItems.find? workItemId = some row ∧ state.machine = .ok row.item

/-- A row that the operation leases or supersedes carries no retry plan. -/
def SparesPlan (workItemId : String) (state : RowAndMachine) (operation : StoreOperation) : Prop :=
  (operation.transition state.store workItemId).any Transition.keepsPlan = true →
    ∀ row, state.store.workItems.find? workItemId = some row → row.item.retryPlan = none

theorem retryPlan_of_keepsPlan {transition : Transition} {item next : WorkItem}
    (hkeeps : transition.keepsPlan = true) (h : transition.apply item = .ok next) :
    next.retryPlan = none := by
  cases hlease : transition.isLease with
  | true =>
    obtain ⟨_, worker, leaseToken, leaseExpiresAt, rfl⟩ := leasedItem_of_apply hlease h
    rfl
  | false =>
    cases transition with
    | markSplitSupersededWaiting =>
      simp only [Transition.apply, WorkItemStateMachine.markSplitSupersededWaiting] at h
      split at h
      · cases h
      · cases h
        rfl
    | leaseReady => cases hlease
    | _ => cases hkeeps

theorem WorkItem.withRetryPlan_eq_self_iff {item : WorkItem}
    {retryPlan : Option WorkItemRetryPlan} :
    item.withRetryPlan retryPlan = item ↔ retryPlan = item.retryPlan := by
  constructor
  · intro heq
    exact congrArg WorkItem.retryPlan heq
  · rintro rfl
    rfl

/-- An operation keeps row and machine together exactly when it spares the retry
plan. -/
theorem refines_performBoth_iff {workItemId : String} {state : RowAndMachine}
    {operation : StoreOperation} (h : Refines workItemId state) :
    Refines workItemId (performBoth workItemId state operation) ↔
      SparesPlan workItemId state operation := by
  obtain ⟨row, hrow, hmachine⟩ := h
  obtain ⟨next, hnext, hstep⟩ := itemStep_performStore operation hrow
  have hspares : SparesPlan workItemId state operation ↔
      ((operation.transition state.store workItemId).any Transition.keepsPlan = true →
        row.item.retryPlan = none) := by
    unfold SparesPlan
    rw [hrow]
    simp
  have hrefines : Refines workItemId (performBoth workItemId state operation) ↔
      runTransitions row.item (operation.transition state.store workItemId).toList =
        .ok next.item := by
    unfold Refines performBoth
    dsimp only
    rw [hnext, hmachine]
    simp only [Option.some.injEq, exists_eq_left']
    rfl
  rw [hspares, hrefines]
  cases htransition : operation.transition state.store workItemId with
  | none =>
    rw [htransition] at hstep
    have hsame : next.item = row.item := hstep
    rw [hsame]
    exact iff_of_true rfl nofun
  | some transition =>
    rw [htransition] at hstep
    obtain ⟨item, happly, hitem⟩ := hstep
    have hrun : runTransitions row.item [transition] = .ok item := by
      unfold runTransitions
      rw [List.foldlM_cons, happly]
      rfl
    rw [Option.toList_some, hrun, Option.any_some, Except.ok.injEq, hitem, eq_comm]
    cases hkeeps : transition.keepsPlan with
    | true =>
      rw [if_pos rfl, WorkItem.withRetryPlan_eq_self_iff, retryPlan_of_keepsPlan hkeeps happly]
      exact ⟨fun hnone _ => hnone, fun hnone => hnone rfl⟩
    | false =>
      rw [if_neg Bool.false_ne_true]
      exact iff_of_true rfl nofun

/-- Over every run of repository operations the row of an item is, after each of
them, the item of the state machine, exactly when no operation leases or supersedes
the item while its row carries a retry plan. -/
theorem rowRefines_iff {store : ExecutionStore} {workItemId : String} {row : WorkItemRow}
    (hrow : store.workItems.find? workItemId = some row) (operations : List StoreOperation) :
    EveryStep (performBoth workItemId)
        (fun state operation => Refines workItemId (performBoth workItemId state operation))
        ⟨store, .ok row.item⟩ operations ↔
      EveryStep (performBoth workItemId) (SparesPlan workItemId) ⟨store, .ok row.item⟩
        operations := by
  have hstart : Refines workItemId ⟨store, .ok row.item⟩ := ⟨row, hrow, rfl⟩
  have hstep : ∀ state operation, Refines workItemId state →
      (Refines workItemId (performBoth workItemId state operation) ↔
        SparesPlan workItemId state operation) := fun _ _ => refines_performBoth_iff
  exact everyStep_iff_of_keeps hstep hstart

/-! A retry that is leased again. -/

def retryableOutcome : CheckedOutcomeRecord where
  attemptId := "attempt-1"
  workItemId := "item"
  attemptNumber := 1
  leaseToken := "token-1"
  finishedAt := 2
  outcomeStatus := .retryableFailed
  errorKind := some "timeout"
  retryPlan := some .retrySameRoute
  validationMetadata := none
  llmOutputPayload := none
  errorKind_iff := by decide
  retryPlan_iff := by decide
  attemptId_ne := Eq.refl false
  attemptNumber_pos := Nat.one_pos
  errorKind_ne := by decide

/-- The item is leased, its attempt fails and is to be retried. -/
def failedRun : List StoreOperation :=
  [.leaseById (fun _ => false) "work" "item" "worker" "token-1" 10 0,
    .start firstDispatch 1, .record retryableOutcome 2]

def freshState : RowAndMachine :=
  ⟨freshStore "item" "work" (Eq.refl false), .ok (.fresh "item" "work" (Eq.refl false))⟩

theorem failedRun_refines :
    EveryStep (performBoth "item")
      (fun state operation => Refines "item" (performBoth "item" state operation)) freshState
      failedRun := by
  have hrow : (freshStore "item" "work" (by decide)).workItems.find? "item" =
      some { item := .fresh "item" "work" (by decide), createdAt := 0, updatedAt := 0
             updated_ge := le_refl 0 } := rfl
  refine (rowRefines_iff hrow failedRun).mpr ⟨?_, ?_, ?_, trivial⟩
  · intro _ row hfind
    rw [hrow] at hfind
    cases hfind
    rfl
  · intro hleases
    cases hleases
  · intro hleases
    cases hleases

/-- The lease of the retry keeps the plan in the row, unlike the machine. -/
theorem retryLease_not_refines :
    ¬ EveryStep (performBoth "item")
      (fun state operation => Refines "item" (performBoth "item" state operation)) freshState
      (failedRun ++ [.leaseById (fun _ => false) "work" "item" "worker" "token-2" 20 3]) := by
  intro h
  obtain ⟨row, hrow, hmachine⟩ := (everyStep_append.mp h).2.1
  have hplan : (row.item.retryPlan : Option WorkItemRetryPlan) = some .retrySameRoute := by
    have heval : ((performBoth "item" (failedRun.foldl (performBoth "item") freshState)
        (.leaseById (fun _ => false) "work" "item" "worker" "token-2" 20 3)).store.workItems.find?
          "item").map (fun row => row.item.retryPlan) = some (some .retrySameRoute) := by decide
    rw [hrow] at heval
    exact Option.some.inj heval
  have hnone : row.item.retryPlan = none := by
    have heval : (performBoth "item" (failedRun.foldl (performBoth "item") freshState)
        (.leaseById (fun _ => false) "work" "item" "worker" "token-2" 20 3)).machine.toOption.map
          WorkItem.retryPlan = some none := by decide
    rw [hmachine] at heval
    exact Option.some.inj heval
  rw [hplan] at hnone
  cases hnone

end CrmBot.ExecutionRuntime
