import CrmBot.ExecutionRuntime.ItemStatus

/-! What an execution reads first: the prepared dispatch of an attempt, and the
outcome that may be recorded for it already. -/

namespace CrmBot.ExecutionRuntime

open Relational CrmBot.Python FailingFold

/-- `WorkItemAttemptDispatchForExecution`. -/
structure DispatchForExecution where
  attemptId : String
  workItemId : String
  attemptNumber : Nat
  leaseToken : String
  workerRef : String
  dispatchPayload : Payload
  startedAt : Int
  attemptNumber_pos : 0 < attemptNumber

/-- `_require_text` of a row. -/
def requireRowText (key value : String) : Except Fault Unit :=
  if isBlank value then .error (.valueError (key ++ " must be non-empty")) else .ok ()

/-- `get_dispatch_for_execution`. -/
def getDispatchForExecution (store : ExecutionStore) (attemptId : String) :
    Except Fault (Option DispatchForExecution) :=
  match store.dispatches.find? attemptId, store.attempts.find? attemptId with
  | some dispatch, some attempt => do
    requireRowText "attempt_id" dispatch.attemptId
    requireRowText "work_item_id" dispatch.workItemId
    requireRowText "lease_token" dispatch.leaseToken
    requireRowText "worker_ref" dispatch.workerRef
    if h : 0 < dispatch.attemptNumber then
      return some {
        attemptId := dispatch.attemptId, workItemId := dispatch.workItemId
        attemptNumber := dispatch.attemptNumber, leaseToken := dispatch.leaseToken
        workerRef := dispatch.workerRef, dispatchPayload := dispatch.dispatchPayload
        startedAt := attempt.startedAt, attemptNumber_pos := h }
    else .error (.valueError "attempt_number must be > 0")
  | _, _ => .ok none

/-- `RecordedWorkItemAttemptOutcome`; the retry plan is never read back. -/
structure RecordedAttemptOutcome where
  attemptId : String
  workItemId : String
  attemptNumber : Nat
  finishedAt : Int
  outcomeStatus : AttemptOutcomeStatus
  workItem : WorkItem
  errorKind : Option String
  validationMetadata : Option Payload
  llmOutputPayload : Option Payload
  errorKind_iff : errorKind.isSome = true ↔ outcomeStatus ≠ .succeeded

/-- The checks of the `RecordedWorkItemAttemptOutcome` constructor. -/
def recordedAttemptOutcome (attempt : AttemptRow) (workItem : WorkItem) (finishedAt : Int)
    (outcomeStatus : AttemptOutcomeStatus) : Except Fault RecordedAttemptOutcome :=
  if isBlank attempt.attemptId then .error (.valueError "attempt_id must be non-empty")
  else if attempt.attemptNumber = 0 then .error (.valueError "attempt_number must be > 0")
  else if attempt.errorKind.any isBlank && outcomeStatus ≠ .succeeded then
    .error (.valueError "error_kind must be non-empty")
  else if h : attempt.errorKind.isSome = true ↔ outcomeStatus ≠ .succeeded then
    .ok {
      attemptId := attempt.attemptId, workItemId := workItem.workItemId
      attemptNumber := attempt.attemptNumber, finishedAt, outcomeStatus, workItem
      errorKind := attempt.errorKind, validationMetadata := attempt.validationMetadata
      llmOutputPayload := attempt.llmOutputPayload, errorKind_iff := h }
  else if outcomeStatus = .succeeded then
    .error (.valueError "error_kind must be None for succeeded outcome")
  else .error (.valueError "error_kind is required for failed outcomes")

/-- `get_recorded_attempt_outcome`: the work item is the one of now. -/
def getRecordedAttemptOutcome (store : ExecutionStore) (attemptId : String) :
    Except Fault (Option RecordedAttemptOutcome) :=
  match store.attempts.find? attemptId with
  | none => .ok none
  | some attempt => match attempt.finishedAt, attempt.outcomeStatus with
    | some finishedAt, some outcomeStatus =>
      match store.workItems.find? attempt.workItemId with
      | none => .ok none
      | some row => (recordedAttemptOutcome attempt row.item finishedAt outcomeStatus).map some
    | _, _ => .ok none

variable {store next : ExecutionStore}

/-- The two rows a dispatch is read from. -/
theorem getDispatchForExecution_eq_some {attemptId : String} {dispatch : DispatchForExecution}
    (h : getDispatchForExecution store attemptId = .ok (some dispatch)) :
    ∃ row attempt, store.dispatches.find? attemptId = some row ∧
      store.attempts.find? attemptId = some attempt ∧ dispatch.attemptId = attemptId ∧
      dispatch.workItemId = row.workItemId ∧ dispatch.attemptNumber = row.attemptNumber ∧
      dispatch.leaseToken = row.leaseToken ∧ dispatch.dispatchPayload = row.dispatchPayload := by
  unfold getDispatchForExecution at h
  split at h
  · next row attempt hrow hattempt =>
    obtain ⟨_, _, h⟩ := bind_eq_ok.mp h
    obtain ⟨_, _, h⟩ := bind_eq_ok.mp h
    obtain ⟨_, _, h⟩ := bind_eq_ok.mp h
    obtain ⟨_, _, h⟩ := bind_eq_ok.mp h
    split at h
    · cases h
      have hid := (Table.find?_eq_some_iff.mp hrow).2
      exact ⟨row, attempt, hrow, hattempt, hid, rfl, rfl, rfl, rfl⟩
    · cases h
  · cases h

/-- An attempt without an outcome has nothing recorded. -/
theorem getRecordedAttemptOutcome_of_open {attemptId : String}
    (h : ∀ attempt, store.attempts.find? attemptId = some attempt →
      attempt.outcomeStatus = none) : getRecordedAttemptOutcome store attemptId = .ok none := by
  unfold getRecordedAttemptOutcome
  split
  · rfl
  · next attempt hattempt =>
    rw [h attempt hattempt]
    cases attempt.finishedAt with
    | none => rfl
    | some finishedAt => rfl

/-- The recovery keeps the outputs. -/
theorem llmOutputPayload_reclaimExpired {locked : String → Bool} {now : Int} {limit : Nat}
    {attemptId : String} :
    ((reclaimExpired store locked now limit).attempts.find? attemptId).map
        AttemptRow.llmOutputPayload =
      (store.attempts.find? attemptId).map AttemptRow.llmOutputPayload := by
  have hfind : (reclaimExpired store locked now limit).attempts.find? attemptId =
      (store.attempts.find? attemptId).map _ :=
    UniqueTable.find?_updateWhere store.attempts _ (fun attempt =>
      { attempt with
        finishedAt := attempt.finishedAt.or (some now)
        outcomeStatus := attempt.outcomeStatus.or (some .retryableFailed)
        errorKind := attempt.errorKind.or (some "lease_expired") })
      (fun _ => rfl) (fun _ => rfl) attemptId
  rw [hfind, Option.map_map]
  congr 1
  funext attempt
  rw [Function.comp_apply]
  split
  · rfl
  · rfl

/-! What recording and completing leave. -/

/-- The row of an attempt with the outcome of a record. -/
def AttemptRow.withOutcome (attempt : AttemptRow) (record : AttemptOutcomeRecord) : AttemptRow :=
  { attempt with
    finishedAt := some record.finishedAt, outcomeStatus := some record.outcomeStatus
    errorKind := record.errorKind, validationMetadata := record.validationMetadata
    llmOutputPayload := record.llmOutputPayload }

/-- A recorded outcome: the item was leased for it, and both rows are written. -/
structure OutcomeRecorded (store : ExecutionStore) (record : AttemptOutcomeRecord) (now : Int)
    (item : WorkItem) (next : ExecutionStore) (row : WorkItemRow) (attempt : AttemptRow) :
    Prop where
  row_eq : store.workItems.find? record.workItemId = some row
  lease : validateCurrentLease row.item record = .ok ()
  transition : transitionWorkItem row.item record = .ok item
  attempt_eq : store.attempts.find? record.attemptId = some attempt
  attempt_item : attempt.workItemId = record.workItemId
  attempt_number : attempt.attemptNumber = record.attemptNumber
  dispatches_eq : next.dispatches = store.dispatches
  next_attempt : next.attempts.find? record.attemptId = some (attempt.withOutcome record)
  next_row : next.workItems.find? record.workItemId =
    some (row.setLifecycle item item.retryPlan now)

theorem outcomeRecorded_of_recordAttemptOutcome {record : AttemptOutcomeRecord} {now : Int}
    {item : WorkItem} (h : recordAttemptOutcome store record now = .ok (item, next)) :
    ∃ row attempt, OutcomeRecorded store record now item next row attempt := by
  unfold recordAttemptOutcome at h
  split at h
  · cases h
  · next row hrow =>
    obtain ⟨_, hlease, h⟩ := bind_eq_ok.mp h
    obtain ⟨transitioned, htransition, h⟩ := bind_eq_ok.mp h
    dsimp only at h
    split at h
    · next hany =>
      obtain ⟨attempt, hmem, hfits⟩ := List.any_eq_true.mp hany
      simp only [Bool.and_eq_true, decide_eq_true_eq] at hfits
      obtain ⟨⟨hid, hitem⟩, hnumber⟩ := hfits
      have hattempt : store.attempts.find? record.attemptId = some attempt :=
        Table.find?_eq_some_iff.mpr ⟨hmem, hid⟩
      cases h
      refine ⟨row, attempt, hrow, hlease, htransition, hattempt, hitem, hnumber, rfl, ?_, ?_⟩
      · apply (UniqueTable.find?_updateWhere store.attempts _
          (fun attempt => attempt.withOutcome record) (fun _ => rfl) (fun _ => rfl) _).trans
        rw [hattempt, Option.map_some, if_pos]
        simp [hid, hitem, hnumber]
      · exact find?_updateWorkItem_self hrow
    · cases h

/-- The lease that is checked. -/
theorem validateCurrentLease_eq_ok_iff {current : WorkItem} {record : AttemptOutcomeRecord} :
    validateCurrentLease current record = .ok () ↔
      current.status = .leased ∧ current.leaseToken = some record.leaseToken ∧
        current.attemptCount = record.attemptNumber := by
  unfold validateCurrentLease
  split
  · next hstatus => exact iff_of_false nofun fun h => hstatus h.1
  · next hstatus =>
    split
    · next htoken => exact iff_of_false nofun fun h => htoken h.2.1
    · next htoken =>
      split
      · next hcount => exact iff_of_false nofun fun h => hcount h.2.2
      · next hcount =>
        exact iff_of_true rfl ⟨not_not.mp hstatus, not_not.mp htoken, not_not.mp hcount⟩

/-- The item is under the lease of the token. -/
def LeasedUnder (store : ExecutionStore) (workItemId leaseToken : String) : Prop :=
  ∃ row, store.workItems.find? workItemId = some row ∧ row.item.status = .leased ∧
    row.item.leaseToken = some leaseToken

theorem LeasedUnder.itemStatus_eq {workItemId leaseToken : String}
    (h : LeasedUnder store workItemId leaseToken) :
    itemStatus store workItemId = some .leased := by
  obtain ⟨row, hrow, hstatus, _⟩ := h
  unfold itemStatus
  rw [hrow]
  exact congrArg some hstatus

/-- The item is leased for the attempt, whose row is there. -/
def HeldFor (store : ExecutionStore) (attemptId workItemId : String) (attemptNumber : Nat)
    (leaseToken : String) : Prop :=
  (∃ row, store.workItems.find? workItemId = some row ∧ row.item.status = .leased ∧
    row.item.leaseToken = some leaseToken ∧ row.item.attemptCount = attemptNumber) ∧
  ∃ attempt, store.attempts.find? attemptId = some attempt ∧ attempt.workItemId = workItemId ∧
    attempt.attemptNumber = attemptNumber

section Recorded

variable {record : AttemptOutcomeRecord} {now : Int} {item : WorkItem} {row : WorkItemRow}
  {attempt : AttemptRow}

theorem OutcomeRecorded.heldFor (h : OutcomeRecorded store record now item next row attempt) :
    HeldFor store record.attemptId record.workItemId record.attemptNumber record.leaseToken := by
  obtain ⟨hleased, htoken, hcount⟩ := validateCurrentLease_eq_ok_iff.mp h.lease
  exact ⟨⟨row, h.row_eq, hleased, htoken, hcount⟩,
    ⟨attempt, h.attempt_eq, h.attempt_item, h.attempt_number⟩⟩

theorem OutcomeRecorded.itemStatus_eq
    (h : OutcomeRecorded store record now item next row attempt) :
    itemStatus store record.workItemId = some .leased := by
  obtain ⟨hleased, _⟩ := validateCurrentLease_eq_ok_iff.mp h.lease
  unfold itemStatus
  rw [h.row_eq]
  exact congrArg some hleased

/-- No outcome completes an item. -/
theorem OutcomeRecorded.not_completed
    (h : OutcomeRecorded store record now item next row attempt) :
    itemStatus next record.workItemId ≠ some .completed := by
  have hstatus : itemStatus next record.workItemId = some item.status := by
    unfold itemStatus
    rw [h.next_row]
    rfl
  obtain ⟨hleased, _⟩ := validateCurrentLease_eq_ok_iff.mp h.lease
  have htransition := h.transition
  rw [hstatus]
  unfold transitionWorkItem at htransition
  split at htransition
  · cases htransition
    rw [hleased]
    nofun
  · cases htransition
  · split at htransition
    · cases htransition
    · obtain ⟨_, _, htransition⟩ := bind_eq_ok.mp htransition
      obtain ⟨_, _, htransition⟩ := bind_eq_ok.mp htransition
      cases htransition
      nofun
  · obtain ⟨_, _, htransition⟩ := bind_eq_ok.mp htransition
    obtain ⟨_, _, htransition⟩ := bind_eq_ok.mp htransition
    cases htransition
    nofun

/-- A successful attempt keeps its lease. -/
theorem OutcomeRecorded.leasedUnder
    (h : OutcomeRecorded store record now item next row attempt)
    (hsucceeded : record.outcomeStatus = .succeeded) :
    LeasedUnder next record.workItemId record.leaseToken := by
  obtain ⟨hleased, htoken, _⟩ := validateCurrentLease_eq_ok_iff.mp h.lease
  have htransition := h.transition
  unfold transitionWorkItem at htransition
  rw [hsucceeded] at htransition
  cases htransition
  exact ⟨_, h.next_row, hleased, htoken⟩

/-- An outcome that the state machine takes is recorded while its item is held. -/
theorem recordAttemptOutcome_of_transition (now : Int)
    (hheld : HeldFor store record.attemptId record.workItemId record.attemptNumber
      record.leaseToken)
    (htakes : ∀ current, current.status = .leased →
      ∃ item, transitionWorkItem current record = .ok item) :
    ∃ item next, recordAttemptOutcome store record now = .ok (item, next) := by
  obtain ⟨⟨row, hrow, hleased, htoken, hcount⟩, attempt, hattempt, hitem, hnumber⟩ := hheld
  have hlease : validateCurrentLease row.item record = .ok () :=
    validateCurrentLease_eq_ok_iff.mpr ⟨hleased, htoken, hcount⟩
  obtain ⟨transitioned, htransition⟩ := htakes row.item hleased
  have hany : (store.attempts.rows.any fun attempt =>
      attempt.attemptId = record.attemptId && attempt.workItemId = record.workItemId &&
        attempt.attemptNumber = record.attemptNumber) = true := by
    obtain ⟨hmem, hid⟩ := Table.find?_eq_some_iff.mp hattempt
    apply List.any_eq_true.mpr
    exact ⟨attempt, hmem, by simp [hid, hitem, hnumber]⟩
  unfold recordAttemptOutcome
  rw [hrow]
  dsimp only
  rw [hlease]
  exact ⟨_, _, by rw [htransition]; exact if_pos hany⟩

/-- The outcome of a successful attempt is recorded while its item is held. -/
theorem recordAttemptOutcome_of_heldFor (now : Int)
    (hheld : HeldFor store record.attemptId record.workItemId record.attemptNumber
      record.leaseToken)
    (hsucceeded : record.outcomeStatus = .succeeded) :
    ∃ item next, recordAttemptOutcome store record now = .ok (item, next) := by
  apply recordAttemptOutcome_of_transition now hheld
  intro current _
  unfold transitionWorkItem
  rw [hsucceeded]
  exact ⟨current, rfl⟩

end Recorded

/-- An item is completed exactly under its lease; only its row changes. -/
theorem completeWorkItemAfterDomainApply_eq_ok {workItemId leaseToken : String} {now : Int}
    {item : WorkItem}
    (h : completeWorkItemAfterDomainApply store workItemId leaseToken now = .ok (item, next)) :
    LeasedUnder store workItemId leaseToken ∧ next.attempts = store.attempts ∧
      next.dispatches = store.dispatches ∧ itemStatus next workItemId = some .completed ∧
      ∃ row, next.workItems.find? workItemId = some row ∧ row.item.retryPlan = none := by
  unfold completeWorkItemAfterDomainApply at h
  split at h
  · cases h
  · next row hrow =>
    split at h
    · cases h
    · next hstatus =>
      split at h
      · cases h
      · next htoken =>
        obtain ⟨completed, hcomplete, heq⟩ := bind_eq_ok.mp h
        obtain ⟨_, _, hcompleted⟩ := bind_eq_ok.mp hcomplete
        cases hcompleted
        cases heq
        have hnext : (updateWorkItem store workItemId
            (WorkItemStateMachine.withoutLease row.item .completed none none (by decide))
            (fun _ => none) now).workItems.find? workItemId =
              some (row.setLifecycle
                (WorkItemStateMachine.withoutLease row.item .completed none none (by decide)) none
                now) := find?_updateWorkItem_self hrow
        refine ⟨⟨row, hrow, not_not.mp hstatus, not_not.mp htoken⟩, rfl, rfl, ?_, ?_⟩
        · unfold itemStatus
          rw [hnext]
          rfl
        · exact ⟨_, hnext, rfl⟩

theorem completeWorkItemAfterDomainApply_of_leased {workItemId leaseToken : String} (now : Int)
    (h : LeasedUnder store workItemId leaseToken) :
    ∃ item next, completeWorkItemAfterDomainApply store workItemId leaseToken now =
      .ok (item, next) := by
  obtain ⟨row, hrow, hstatus, htoken⟩ := h
  unfold completeWorkItemAfterDomainApply WorkItemStateMachine.completeLeased
    WorkItemStateMachine.requireLeased
  rw [hrow]
  simp only [hstatus, htoken, ne_eq, not_true_eq_false, if_false]
  exact ⟨_, _, rfl⟩

end CrmBot.ExecutionRuntime
