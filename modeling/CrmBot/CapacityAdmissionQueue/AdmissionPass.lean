import CrmBot.CapacityAdmissionQueue.AdmissionResult
import CrmBot.Python.Text

/-! `CapacityWindowAdmissionPass`: items are selected, leased and started one after
the other while the window has room.

The ports answer from a state of their own, which they may change with every call,
and they may raise. A round of the loop is what the ports answer, and then what the
pass makes of the answer. -/

namespace CrmBot.CapacityAdmissionQueue

open Relational CrmBot.Python CrmBot.ExecutionRuntime FailingFold

/-- `CapacityAdmissionSelectableWorkItem`. -/
structure SelectableWorkItem where
  workItemId : String
  laneKey : LaneKey
  status : ProjectionStatus
  requiredWindowTokens : Nat
  inputTokens : Option Nat
  artifactTokens : Option Nat
  workItemId_ne : workItemId ≠ ""
  status_admissible : status.isAdmissible = true
  required_pos : 0 < requiredWindowTokens
  inputTokens_pos : ∀ tokens ∈ inputTokens, 0 < tokens

/-- `CapacityAdmissionProjectionLease`. -/
structure ProjectionLease where
  workItemId : String
  laneKey : LaneKey
  leasedAt : Int
  workItemId_text : isBlank workItemId = false

/-- `CapacityAdmissionProjectionLeaseResult`; its status is always leased. -/
structure ProjectionLeaseResult where
  workItemId : String
  laneKey : LaneKey
  previousStatus : ProjectionStatus
  eventId : String
  workItemId_text : isBlank workItemId = false
  previousStatus_admissible : previousStatus.isAdmissible = true

/-- `CapacityWindowAdmissionCapacityPreviewResult`. -/
inductive CapacityPreview
  | available (budgetAfterActiveReservations : WindowBudget)
  | unavailable (budgetAfterActiveReservations : WindowBudget) (skippedReason : SkippedReason)

/-- `CapacityWindowAdmissionReservationResult`. -/
inductive ReservationResult
  | reserved (budgetAfter : WindowBudget) (reservation : ReservationSummary)
  | denied (budgetAfter : WindowBudget) (skippedReason : SkippedReason)

/-- `CapacityWindowAdmissionExecutionReference`: either an attempt or a command. -/
inductive ExecutionReference
  | attempt (started : StartedAttemptSummary)
  | command (workItemId executeCommandRef : String)
      (command_text : isBlank executeCommandRef = false)

/-- `CapacityWindowAdmissionPassCommand`. -/
structure PassCommand where
  workflowRunId : String
  phase : String
  operationKey : String
  laneKey : LaneKey
  executionLaneKey : LaneKey
  budget : WindowBudget
  worker : String
  leaseTokenPrefix : String
  leaseExpiresAt : Int
  now : Int
  maxAdmittedItems : Nat
  workflowRunId_text : isBlank workflowRunId = false
  phase_text : isBlank phase = false
  operationKey_text : isBlank operationKey = false
  accountRef_isSome : executionLaneKey.accountRef.isSome = true
  workKind_eq : executionLaneKey.workKind = laneKey.workKind
  provider_eq : executionLaneKey.provider = laneKey.provider
  modelRef_eq : executionLaneKey.modelRef = laneKey.modelRef
  leaseTokenPrefix_text : isBlank leaseTokenPrefix = false
  lease_future : now < leaseExpiresAt
  maxAdmittedItems_pos : 0 < maxAdmittedItems

/-- The ports of the pass, and `str.lower`. -/
structure AdmissionPorts (State : Type) where
  lower : String → String
  selectFirstRetryableFailedFit : State → LaneKey → Nat →
    Except Fault (Option SelectableWorkItem × State)
  selectFirstReadyFit : State → LaneKey → Nat → Except Fault (Option SelectableWorkItem × State)
  leaseDueWorkItemById : State → (workKind workItemId worker leaseToken : String) →
    (leaseExpiresAt now : Int) → Except Fault (Option LeasedWorkItemRecord × State)
  admitProjectionWorkItem : State → ProjectionLease →
    Except Fault (Option ProjectionLeaseResult × State)
  previewCapacityForSelectedWorkItem : State → SelectableWorkItem → LaneKey → WindowBudget → Int →
    Except Fault (CapacityPreview × State)
  reserveCapacityForSelectedWorkItem : State → (attemptId reservationRef : String) →
    SelectableWorkItem → LaneKey → WindowBudget → (now expiresAt : Int) →
      Except Fault (ReservationResult × State)
  startOrAppendExecution : State → SelectableWorkItem → LaneKey → LeasedWorkItemRecord →
    ProjectionLeaseResult → ReservationSummary → Int → Except Fault (ExecutionReference × State)
  hasActiveLeasedWork : State → LaneKey → Int → Except Fault (Bool × State)

section Summaries

/-- `_optional_text`. -/
def optionalScheduleText (payload : Payload) (key : String) : Except Fault (Option String) :=
  match payloadGet payload key with
  | none => .ok none
  | some (.str value) =>
    if isBlank value then
      .error (.valueError ("schedule_payload " ++ key ++ " must be non-empty text"))
    else .ok (some value)
  | some _ => .error (.valueError ("schedule_payload " ++ key ++ " must be non-empty text"))

/-- `_optional_non_negative_int`, for which a truth value is an integer. -/
def optionalScheduleNonNegativeInt (payload : Payload) (key : String) :
    Except Fault (Option Nat) :=
  match payloadGet payload key with
  | none => .ok none
  | some (.int value) =>
    if value < 0 then
      .error (.valueError ("schedule_payload " ++ key ++ " must be non-negative"))
    else .ok (some value.toNat)
  | some (.bool value) => .ok (some value.toNat)
  | some _ => .error (.valueError ("schedule_payload " ++ key ++ " must be int"))

/-- `_text_tuple_from_payload`. -/
def textTupleFromPayload (payload : Payload) (key : String) : Except Fault (List String) :=
  let fault := Fault.valueError ("schedule_payload " ++ key ++ " must contain non-empty text")
  match payloadGet payload key with
  | none => .ok []
  | some (.list items) => items.mapM fun
    | .str value => if isBlank value then .error fault else .ok value
    | _ => .error fault
  | some _ => .error (.valueError ("schedule_payload " ++ key ++ " must be sequence"))

/-- `_dispatch_context_from_schedule_payload`. -/
def dispatchContextFromSchedulePayload (payload : Payload) :
    Except Fault (Option DispatchContextSummary) := do
  let sourceRef ← optionalScheduleText payload "source_document_ref"
  let sourceUnitRef ← optionalScheduleText payload "source_unit_ref"
  let groupRef ← optionalScheduleText payload "group_ref"
  let batchRef ← optionalScheduleText payload "batch_ref"
  let expectedOutputKind ← optionalScheduleText payload "expected_output_kind"
  let roundIndex ← optionalScheduleNonNegativeInt payload "round_index"
  let inputClaimRefs ← textTupleFromPayload payload "source_claim_refs"
  let sourceNodeRefs ← textTupleFromPayload payload "source_node_refs"
  let pairRefs (_ : Unit) : Except Fault (List String) := do
    let left ← optionalScheduleText payload "left_node_ref"
    let right ← optionalScheduleText payload "right_node_ref"
    return left.toList ++ right.toList
  let inputNodeRefs ← if sourceNodeRefs.isEmpty then pairRefs () else .ok sourceNodeRefs
  if sourceRef = none ∧ sourceUnitRef = none ∧ groupRef = none ∧ batchRef = none ∧
      expectedOutputKind = none ∧ roundIndex = none ∧ inputClaimRefs = [] ∧ inputNodeRefs = [] then
    return none
  return some
    { sourceRef, sourceUnitRef, groupRef, batchRef, roundIndex, expectedOutputKind, inputNodeRefs
      inputClaimRefs }

/-- `_selection_kind`. -/
def selectionKind (selected : SelectableWorkItem) : SelectionKind :=
  if selected.status = .retryableFailed then .retryable else .fresh

/-- The input tokens that are reported: the required ones when none are known. -/
def SelectableWorkItem.reportedInputTokens (selected : SelectableWorkItem) : Nat :=
  selected.inputTokens.getD selected.requiredWindowTokens

theorem SelectableWorkItem.reportedInputTokens_pos (selected : SelectableWorkItem) :
    0 < selected.reportedInputTokens := by
  unfold reportedInputTokens
  cases htokens : selected.inputTokens with
  | none => exact selected.required_pos
  | some tokens => exact selected.inputTokens_pos tokens htokens

/-- `_admitted_item_summary`. -/
def admittedItemSummary (selected : SelectableWorkItem) (schedulePayload : Payload) :
    Except Fault AdmittedItemSummary := do
  let lane ← laneSummary selected.laneKey
  let dispatchContext ← dispatchContextFromSchedulePayload schedulePayload
  if htext : isBlank selected.workItemId = false then
    if hrequired : selected.reportedInputTokens ≤ selected.requiredWindowTokens then
      .ok
        { workItemId := selected.workItemId, lane, selectionKind := selectionKind selected
          inputTokens := selected.reportedInputTokens
          artifactTokens := selected.artifactTokens.getD 0
          requiredWindowTokens := selected.requiredWindowTokens, dispatchContext
          workItemId_text := htext, inputTokens_pos := selected.reportedInputTokens_pos
          required_ge := hrequired }
    else .error (.valueError "required_window_tokens must be at least input_tokens")
  else .error (.valueError "work_item_id must be non-empty")

/-- `_projection_lease_summary`. -/
def projectionLeaseSummary (lease : ProjectionLeaseResult) :
    Except Fault ProjectionLeaseSummary := do
  let lane ← laneSummary lease.laneKey
  return {
    workItemId := lease.workItemId, lane, previousStatus := lease.previousStatus
    eventId := lease.eventId, workItemId_text := lease.workItemId_text
    previousStatus_admissible := lease.previousStatus_admissible }

end Summaries

/-! What the ports answer in a round. -/

/-- `SelectCapacityAdmissionWorkItemResult`. -/
inductive Selection
  | selected (item : SelectableWorkItem)
  | capacityExhausted
  | noFittingWorkItem

/-- `LeaseSelectedCapacityAdmissionWorkItemResult`. -/
inductive SelectedLease
  | executionWorkItemNotLeased
  | capacityProjectionNotAdmitted (execution : LeasedWorkItemRecord)
  | leased (execution : LeasedWorkItemRecord) (projection : ProjectionLeaseResult)

inductive RoundAnswer
  | skipped (reason : SkippedReason)
  | conflict (selected : SelectableWorkItem) (execution : LeasedWorkItemRecord)
  | denied (selected : SelectableWorkItem) (execution : LeasedWorkItemRecord)
      (projection : ProjectionLeaseResult) (attempt : StartedAttemptSummary)
      (reason : SkippedReason)
  | appended (selected : SelectableWorkItem) (execution : LeasedWorkItemRecord)
      (projection : ProjectionLeaseResult) (executeCommandRef : String)
      (command_text : isBlank executeCommandRef = false)
  | started (selected : SelectableWorkItem) (execution : LeasedWorkItemRecord)
      (projection : ProjectionLeaseResult) (attempt : StartedAttemptSummary)
      (budgetAfter : WindowBudget) (reservation : ReservationSummary)

variable {State : Type} (ports : AdmissionPorts State) (command : PassCommand)

/-- `SelectCapacityAdmissionWorkItem.execute`. -/
def selectAdmissionWorkItem (state : State) (lane : LaneKey) (budget : WindowBudget) :
    Except Fault (Selection × State) := do
  if budget.admitsAnyWork then
    let (retryableFailed, state) ←
      ports.selectFirstRetryableFailedFit state lane budget.maxRequiredWindowTokens
    match retryableFailed with
    | some item => return (.selected item, state)
    | none =>
      let (ready, state) ← ports.selectFirstReadyFit state lane budget.maxRequiredWindowTokens
      match ready with
      | some item => return (.selected item, state)
      | none => return (.noFittingWorkItem, state)
  else return (.capacityExhausted, state)

/-- The `WorkKind` constructor. -/
def requireWorkKind (value : String) : Except Fault Unit := do
  let stripped := strip value
  refuseWhen stripped.isEmpty "WorkKind.value must be non-empty"
  refuseWhen (' ' ∈ stripped.toList) "WorkKind.value must not contain spaces"
  refuseWhen (stripped ≠ ports.lower stripped) "WorkKind.value must be lowercase"

/-- `_lease_token` and `_reservation_ref`. -/
def roundRef (index : Nat) (workItemId : String) : String :=
  command.leaseTokenPrefix ++ ":" ++ toString (index + 1) ++ ":" ++ workItemId

/-- What the projection is asked after an execution lease. -/
def projectionRequest (selected : SelectableWorkItem)
    (htext : isBlank selected.workItemId = false) : ProjectionLease where
  workItemId := selected.workItemId
  laneKey := selected.laneKey
  leasedAt := command.now
  workItemId_text := htext

/-- `LeaseSelectedCapacityAdmissionWorkItem.execute`. -/
def leaseSelectedWorkItem (index : Nat) (selected : SelectableWorkItem) (state : State) :
    Except Fault (SelectedLease × State) := do
  requireWorkKind ports selected.laneKey.workKind
  let (executionLease, state) ← ports.leaseDueWorkItemById state selected.laneKey.workKind
    selected.workItemId command.worker (roundRef command index selected.workItemId)
    command.leaseExpiresAt command.now
  match executionLease with
  | none => return (.executionWorkItemNotLeased, state)
  | some execution =>
    if htext : isBlank selected.workItemId = false then
      let (projectionLease, state) ←
        ports.admitProjectionWorkItem state (projectionRequest command selected htext)
      match projectionLease with
      | none => return (.capacityProjectionNotAdmitted execution, state)
      | some projection => return (.leased execution projection, state)
    else .error (.valueError "work_item_id must be non-empty")

/-- The reservation that the boundary is told of before it is made. -/
def provisionalReservation (index : Nat) (selected : SelectableWorkItem) :
    Except Fault ReservationSummary := do
  let lane ← laneSummary command.executionLaneKey
  if href : isBlank (roundRef command index selected.workItemId) = false then
    if htext : isBlank selected.workItemId = false then
      .ok
        { reservationRef := roundRef command index selected.workItemId
          workItemId := selected.workItemId, lane, reservedRequests := 1
          reservedTokens := selected.requiredWindowTokens, expiresAt := command.leaseExpiresAt
          reservationRef_text := href, workItemId_text := htext
          reservedRequests_pos := Nat.one_pos, reservedTokens_pos := selected.required_pos }
    else .error (.valueError "work_item_id must be non-empty")
  else .error (.valueError "reservation_ref must be non-empty")

/-- `_selection_skipped_reason`. -/
def selectionSkippedReason (state : State) : Except Fault (SkippedReason × State) := do
  let (hasActiveLeasedWork, state) ← ports.hasActiveLeasedWork state command.laneKey command.now
  return (if hasActiveLeasedWork then .activeLeasedWait else .noFittingWorkItem, state)

/-- The execution of a leased item, and the reservation for a started attempt. -/
def executionAnswer (index : Nat) (budget : WindowBudget) (selected : SelectableWorkItem)
    (execution : LeasedWorkItemRecord) (projection : ProjectionLeaseResult) (state : State) :
    Except Fault (RoundAnswer × State) := do
  let provisional ← provisionalReservation command index selected
  let (reference, state) ← ports.startOrAppendExecution state selected command.executionLaneKey
    execution projection provisional command.now
  match reference with
  | .command _ executeCommandRef htext =>
    return (.appended selected execution projection executeCommandRef htext, state)
  | .attempt attempt =>
    let (reservation, state) ← ports.reserveCapacityForSelectedWorkItem state attempt.attemptId
      (roundRef command index selected.workItemId) selected command.executionLaneKey budget
      command.now command.leaseExpiresAt
    match reservation with
    | .denied _ reason => return (.denied selected execution projection attempt reason, state)
    | .reserved budgetAfter summary =>
      return (.started selected execution projection attempt budgetAfter summary, state)

/-- The rest of a round after an item was selected. -/
def selectedAnswer (index : Nat) (budget : WindowBudget) (selected : SelectableWorkItem)
    (state : State) : Except Fault (RoundAnswer × State) := do
  let (preview, state) ← ports.previewCapacityForSelectedWorkItem state selected
    command.executionLaneKey budget command.now
  match preview with
  | .unavailable _ reason => return (.skipped reason, state)
  | .available _ =>
    let (lease, state) ← leaseSelectedWorkItem ports command index selected state
    match lease with
    | .executionWorkItemNotLeased => return (.skipped .executionLeaseLost, state)
    | .capacityProjectionNotAdmitted execution => return (.conflict selected execution, state)
    | .leased execution projection =>
      executionAnswer ports command index budget selected execution projection state

/-- What the ports answer in one round. -/
def roundAnswer (index : Nat) (budget : WindowBudget) (state : State) :
    Except Fault (RoundAnswer × State) := do
  let (selection, state) ← selectAdmissionWorkItem ports state command.laneKey budget
  match selection with
  | .selected item => selectedAnswer ports command index budget item state
  | .capacityExhausted => return (.skipped .capacityExhausted, state)
  | .noFittingWorkItem =>
    let (reason, state) ← selectionSkippedReason ports command state
    return (.skipped reason, state)

/-! The loop. -/

/-- The local variables of the loop. -/
structure PassProgress (State : Type) where
  state : State
  budget : WindowBudget
  admittedItems : List AdmittedItemSummary
  projectionLeases : List ProjectionLeaseSummary
  capacityReservations : List ReservationSummary
  startedAttempts : List StartedAttemptSummary
  executeCommandRefs : List String

inductive PassOutcome (State : Type)
  | running (progress : PassProgress State)
  | stopped (progress : PassProgress State) (reason : SkippedReason)
  | raised (fault : Fault)

/-- What a round adds for an item with an execute command; the budget stays. -/
def PassProgress.append (progress : PassProgress State) (selected : SelectableWorkItem)
    (execution : LeasedWorkItemRecord) (projection : ProjectionLeaseResult)
    (executeCommandRef : String) : Except Fault (PassProgress State) := do
  let item ← admittedItemSummary selected execution.schedulePayload
  let lease ← projectionLeaseSummary projection
  return {
    progress with
    admittedItems := progress.admittedItems ++ [item]
    projectionLeases := progress.projectionLeases ++ [lease]
    executeCommandRefs := progress.executeCommandRefs ++ [executeCommandRef] }

/-- What a round adds for an item with a started attempt. -/
def PassProgress.start (progress : PassProgress State) (selected : SelectableWorkItem)
    (execution : LeasedWorkItemRecord) (projection : ProjectionLeaseResult)
    (attempt : StartedAttemptSummary) (budgetAfter : WindowBudget)
    (reservation : ReservationSummary) : Except Fault (PassProgress State) := do
  let item ← admittedItemSummary selected execution.schedulePayload
  let lease ← projectionLeaseSummary projection
  return {
    progress with
    budget := budgetAfter
    admittedItems := progress.admittedItems ++ [item]
    projectionLeases := progress.projectionLeases ++ [lease]
    capacityReservations := progress.capacityReservations ++ [reservation]
    startedAttempts := progress.startedAttempts ++ [attempt] }

/-- The loop goes on with the items it has. -/
def PassOutcome.ofExcept : Except Fault (PassProgress State) → PassOutcome State
  | .ok progress => .running progress
  | .error fault => .raised fault

/-- What the pass makes of an answer. -/
def settleAnswer (progress : PassProgress State) : RoundAnswer → PassOutcome State
  | .skipped reason => .stopped progress reason
  | .conflict _ _ => .stopped progress .projectionConflict
  | .denied _ _ _ _ reason => .stopped progress reason
  | .appended selected execution projection executeCommandRef _ =>
    .ofExcept (progress.append selected execution projection executeCommandRef)
  | .started selected execution projection attempt budgetAfter reservation =>
    .ofExcept (progress.start selected execution projection attempt budgetAfter reservation)

/-- One round of the loop. -/
def passRound (index : Nat) (progress : PassProgress State) : PassOutcome State :=
  match roundAnswer ports command index progress.budget progress.state with
  | .error fault => .raised fault
  | .ok (answer, state) => settleAnswer { progress with state := state } answer

/-- The loop after some rounds. -/
def passRounds (start : State) : Nat → PassOutcome State
  | 0 => .running
      { state := start, budget := command.budget, admittedItems := [], projectionLeases := []
        capacityReservations := [], startedAttempts := [], executeCommandRefs := [] }
  | index + 1 =>
    match passRounds start index with
    | .running progress => passRound ports command index progress
    | finished => finished

/-- The arguments of the result in `_admitted_result`. -/
def admittedReport (progress : PassProgress State) (lane : LaneSummary) : PassResult where
  workflowRunId := command.workflowRunId
  phase := command.phase
  operationKey := command.operationKey
  workKind := command.laneKey.workKind
  lane := lane
  admittedItems := progress.admittedItems
  projectionLeases := progress.projectionLeases
  capacityReservations := progress.capacityReservations
  startedAttempts := progress.startedAttempts
  appendedExecuteCommandRefs := progress.executeCommandRefs
  skippedReason := none
  frontendEventSummary :=
    { eventKind := "capacity_admission_pass_completed", workflowRunId := command.workflowRunId
      phase := command.phase, operationKey := command.operationKey
      workKind := command.laneKey.workKind, lane
      admittedCount := progress.admittedItems.length
      startedAttemptCount := progress.startedAttempts.length, skippedReason := none
      workItemIds := progress.admittedItems.map AdmittedItemSummary.workItemId
      attemptIds := progress.startedAttempts.map StartedAttemptSummary.attemptId
      projectionEventIds := progress.projectionLeases.map ProjectionLeaseSummary.eventId
      occurredAt := command.now }
  logEvent := .passCompleted

/-- `_admitted_result`. -/
def admittedResult (progress : PassProgress State) : Except Fault PassResult := do
  let lane ← laneSummary command.laneKey
  (admittedReport command progress lane).validate
  return admittedReport command progress lane

/-- The arguments of the result in `_skipped_result`. -/
def skippedReport (reason : SkippedReason) (lane : LaneSummary) : PassResult where
  workflowRunId := command.workflowRunId
  phase := command.phase
  operationKey := command.operationKey
  workKind := command.laneKey.workKind
  lane := lane
  admittedItems := []
  projectionLeases := []
  capacityReservations := []
  startedAttempts := []
  appendedExecuteCommandRefs := []
  skippedReason := some reason
  frontendEventSummary :=
    { eventKind := "capacity_admission_pass_skipped", workflowRunId := command.workflowRunId
      phase := command.phase, operationKey := command.operationKey
      workKind := command.laneKey.workKind, lane, admittedCount := 0, startedAttemptCount := 0
      skippedReason := some reason, workItemIds := [], attemptIds := [], projectionEventIds := []
      occurredAt := command.now }
  logEvent := .passSkipped

/-- `_skipped_result`. -/
def skippedResult (reason : SkippedReason) : Except Fault PassResult := do
  let lane ← laneSummary command.laneKey
  (skippedReport command reason lane).validate
  return skippedReport command reason lane

/-- The result of a pass that has stopped. -/
def finishPass (progress : PassProgress State) (reason : SkippedReason) :
    Except Fault (PassResult × State) := do
  let result ← if progress.admittedItems.isEmpty then skippedResult command reason
    else admittedResult command progress
  return (result, progress.state)

/-- `CapacityWindowAdmissionPass.execute`. -/
def admissionPass (start : State) : Except Fault (PassResult × State) :=
  match passRounds ports command start command.maxAdmittedItems with
  | .raised fault => .error fault
  | .stopped progress reason => finishPass command progress reason
  | .running progress => finishPass command progress .noFittingWorkItem

/-! The calls of a round, as facts about the ports. -/

/-- The calls up to the lease of the selected item. -/
def LeasesItem (index : Nat) (budget : WindowBudget) (state : State)
    (selected : SelectableWorkItem) (execution : LeasedWorkItemRecord) (leased : State) : Prop :=
  ∃ selecting remaining previewed,
    selectAdmissionWorkItem ports state command.laneKey budget =
        .ok (.selected selected, selecting) ∧
      ports.previewCapacityForSelectedWorkItem selecting selected command.executionLaneKey budget
          command.now = .ok (.available remaining, previewed) ∧
      requireWorkKind ports selected.laneKey.workKind = .ok () ∧
      ports.leaseDueWorkItemById previewed selected.laneKey.workKind selected.workItemId
          command.worker (roundRef command index selected.workItemId) command.leaseExpiresAt
          command.now = .ok (some execution, leased)

/-- The calls of a leased item up to its execution. -/
def Executes (index : Nat) (selected : SelectableWorkItem) (execution : LeasedWorkItemRecord)
    (leased : State) (projection : ProjectionLeaseResult) (reference : ExecutionReference)
    (executed : State) : Prop :=
  ∃ htext admitted provisional,
    ports.admitProjectionWorkItem leased (projectionRequest command selected htext) =
        .ok (some projection, admitted) ∧
      provisionalReservation command index selected = .ok provisional ∧
      ports.startOrAppendExecution admitted selected command.executionLaneKey execution projection
          provisional command.now = .ok (reference, executed)

inductive RoundCalls (index : Nat) (budget : WindowBudget) (state : State) :
    RoundAnswer → State → Prop
  | exhausted {next : State}
      (hselect : selectAdmissionWorkItem ports state command.laneKey budget =
        .ok (.capacityExhausted, next)) :
      RoundCalls index budget state (.skipped .capacityExhausted) next
  | nothingFits {selecting next : State} {reason : SkippedReason}
      (hselect : selectAdmissionWorkItem ports state command.laneKey budget =
        .ok (.noFittingWorkItem, selecting))
      (hreason : selectionSkippedReason ports command selecting = .ok (reason, next)) :
      RoundCalls index budget state (.skipped reason) next
  | unavailable {selected : SelectableWorkItem} {selecting next : State}
      {remaining : WindowBudget} {reason : SkippedReason}
      (hselect : selectAdmissionWorkItem ports state command.laneKey budget =
        .ok (.selected selected, selecting))
      (hpreview : ports.previewCapacityForSelectedWorkItem selecting selected
        command.executionLaneKey budget command.now = .ok (.unavailable remaining reason, next)) :
      RoundCalls index budget state (.skipped reason) next
  | notLeased {selected : SelectableWorkItem} {selecting previewed next : State}
      {remaining : WindowBudget}
      (hselect : selectAdmissionWorkItem ports state command.laneKey budget =
        .ok (.selected selected, selecting))
      (hpreview : ports.previewCapacityForSelectedWorkItem selecting selected
        command.executionLaneKey budget command.now = .ok (.available remaining, previewed))
      (hkind : requireWorkKind ports selected.laneKey.workKind = .ok ())
      (hlease : ports.leaseDueWorkItemById previewed selected.laneKey.workKind selected.workItemId
        command.worker (roundRef command index selected.workItemId) command.leaseExpiresAt
        command.now = .ok (none, next)) :
      RoundCalls index budget state (.skipped .executionLeaseLost) next
  | conflict {selected : SelectableWorkItem} {execution : LeasedWorkItemRecord}
      {leased next : State}
      (hlease : LeasesItem ports command index budget state selected execution leased)
      (htext : isBlank selected.workItemId = false)
      (hadmission : ports.admitProjectionWorkItem leased
          (projectionRequest command selected htext) =
        .ok (none, next)) :
      RoundCalls index budget state (.conflict selected execution) next
  | appended {selected : SelectableWorkItem} {execution : LeasedWorkItemRecord}
      {leased next : State} {projection : ProjectionLeaseResult}
      {workItemId executeCommandRef : String} {htext : isBlank executeCommandRef = false}
      (hlease : LeasesItem ports command index budget state selected execution leased)
      (hexecute : Executes ports command index selected execution leased projection
        (.command workItemId executeCommandRef htext) next) :
      RoundCalls index budget state
        (.appended selected execution projection executeCommandRef htext) next
  | denied {selected : SelectableWorkItem} {execution : LeasedWorkItemRecord}
      {leased executed next : State} {projection : ProjectionLeaseResult}
      {attempt : StartedAttemptSummary} {remaining : WindowBudget} {reason : SkippedReason}
      (hlease : LeasesItem ports command index budget state selected execution leased)
      (hexecute : Executes ports command index selected execution leased projection
        (.attempt attempt) executed)
      (hreserve : ports.reserveCapacityForSelectedWorkItem executed attempt.attemptId
        (roundRef command index selected.workItemId) selected command.executionLaneKey budget
        command.now command.leaseExpiresAt = .ok (.denied remaining reason, next)) :
      RoundCalls index budget state (.denied selected execution projection attempt reason) next
  | started {selected : SelectableWorkItem} {execution : LeasedWorkItemRecord}
      {leased executed next : State} {projection : ProjectionLeaseResult}
      {attempt : StartedAttemptSummary} {budgetAfter : WindowBudget}
      {reservation : ReservationSummary}
      (hlease : LeasesItem ports command index budget state selected execution leased)
      (hexecute : Executes ports command index selected execution leased projection
        (.attempt attempt) executed)
      (hreserve : ports.reserveCapacityForSelectedWorkItem executed attempt.attemptId
        (roundRef command index selected.workItemId) selected command.executionLaneKey budget
        command.now command.leaseExpiresAt = .ok (.reserved budgetAfter reservation, next)) :
      RoundCalls index budget state
        (.started selected execution projection attempt budgetAfter reservation) next

variable {ports command} {index : Nat} {budget : WindowBudget} {state next : State}

theorem leaseSelectedWorkItem_of_leased {selected : SelectableWorkItem}
    {execution : LeasedWorkItemRecord} {leased : State}
    (hkind : requireWorkKind ports selected.laneKey.workKind = .ok ())
    (hlease : ports.leaseDueWorkItemById state selected.laneKey.workKind selected.workItemId
      command.worker (roundRef command index selected.workItemId) command.leaseExpiresAt
      command.now = .ok (some execution, leased))
    (htext : isBlank selected.workItemId = false) {projection : Option ProjectionLeaseResult}
    (hadmission : ports.admitProjectionWorkItem leased (projectionRequest command selected htext) =
      .ok (projection, next)) :
    leaseSelectedWorkItem ports command index selected state =
      .ok (match projection with
        | none => .capacityProjectionNotAdmitted execution
        | some projection => .leased execution projection, next) := by
  unfold leaseSelectedWorkItem
  rw [hkind]
  simp only [bind, Except.bind, hlease, dif_pos htext, hadmission]
  cases projection with
  | none => rfl
  | some projection => rfl

theorem roundAnswer_of_leased {selected : SelectableWorkItem}
    {execution : LeasedWorkItemRecord} {leased : State}
    (hlease : LeasesItem ports command index budget state selected execution leased)
    (htext : isBlank selected.workItemId = false) {projection : Option ProjectionLeaseResult}
    {admitted : State}
    (hadmission : ports.admitProjectionWorkItem leased (projectionRequest command selected htext) =
      .ok (projection, admitted)) :
    roundAnswer ports command index budget state =
      match projection with
      | none => .ok (.conflict selected execution, admitted)
      | some projection =>
        executionAnswer ports command index budget selected execution projection admitted := by
  obtain ⟨selecting, remaining, previewed, hselect, hpreview, hkind, hlease⟩ := hlease
  have hleased := leaseSelectedWorkItem_of_leased hkind hlease htext hadmission
  unfold roundAnswer selectedAnswer
  simp only [bind, Except.bind, hselect, hpreview, hleased]
  cases projection with
  | none => rfl
  | some projection => rfl

theorem roundAnswer_of_calls {answer : RoundAnswer}
    (h : RoundCalls ports command index budget state answer next) :
    roundAnswer ports command index budget state = .ok (answer, next) := by
  cases h with
  | exhausted hselect =>
    unfold roundAnswer
    rw [hselect]
    rfl
  | nothingFits hselect hreason =>
    unfold roundAnswer
    simp only [bind, Except.bind, hselect, hreason]
    rfl
  | unavailable hselect hpreview =>
    unfold roundAnswer selectedAnswer
    simp only [bind, Except.bind, hselect, hpreview]
    rfl
  | notLeased hselect hpreview hkind hlease =>
    unfold roundAnswer selectedAnswer leaseSelectedWorkItem
    simp only [bind, Except.bind, hselect, hpreview, hkind, hlease]
    rfl
  | conflict hlease htext hadmission => exact roundAnswer_of_leased hlease htext hadmission
  | appended hlease hexecute =>
    obtain ⟨htext, admitted, provisional, hadmission, hprovisional, hstart⟩ := hexecute
    rw [roundAnswer_of_leased hlease htext hadmission]
    unfold executionAnswer
    simp only [bind, Except.bind, hprovisional, hstart]
    rfl
  | denied hlease hexecute hreserve =>
    obtain ⟨htext, admitted, provisional, hadmission, hprovisional, hstart⟩ := hexecute
    rw [roundAnswer_of_leased hlease htext hadmission]
    unfold executionAnswer
    simp only [bind, Except.bind, hprovisional, hstart, hreserve]
    rfl
  | started hlease hexecute hreserve =>
    obtain ⟨htext, admitted, provisional, hadmission, hprovisional, hstart⟩ := hexecute
    rw [roundAnswer_of_leased hlease htext hadmission]
    unfold executionAnswer
    simp only [bind, Except.bind, hprovisional, hstart, hreserve]
    rfl

theorem RoundCalls.of_executionAnswer {selected : SelectableWorkItem}
    {execution : LeasedWorkItemRecord} {leased admitted : State}
    {projection : ProjectionLeaseResult} {answer : RoundAnswer}
    (hlease : LeasesItem ports command index budget state selected execution leased)
    (htext : isBlank selected.workItemId = false)
    (hadmission : ports.admitProjectionWorkItem leased (projectionRequest command selected htext) =
      .ok (some projection, admitted))
    (h : executionAnswer ports command index budget selected execution projection admitted =
      .ok (answer, next)) : RoundCalls ports command index budget state answer next := by
  obtain ⟨provisional, hprovisional, h⟩ := bind_eq_ok.mp h
  obtain ⟨⟨reference, executed⟩, hstart, h⟩ := bind_eq_ok.mp h
  have hexecute : Executes ports command index selected execution leased projection reference
      executed := ⟨htext, admitted, provisional, hadmission, hprovisional, hstart⟩
  cases reference with
  | command workItemId executeCommandRef htext =>
    cases h
    exact .appended hlease hexecute
  | attempt attempt =>
    obtain ⟨⟨reservation, reserved⟩, hreserve, h⟩ := bind_eq_ok.mp h
    cases reservation with
    | denied remaining reason =>
      cases h
      exact .denied hlease hexecute hreserve
    | reserved budgetAfter reservation =>
      cases h
      exact .started hlease hexecute hreserve

theorem RoundCalls.of_selectedAnswer {selected : SelectableWorkItem} {selecting : State}
    {answer : RoundAnswer}
    (hselect : selectAdmissionWorkItem ports state command.laneKey budget =
      .ok (.selected selected, selecting))
    (h : selectedAnswer ports command index budget selected selecting = .ok (answer, next)) :
    RoundCalls ports command index budget state answer next := by
  obtain ⟨⟨preview, previewed⟩, hpreview, h⟩ := bind_eq_ok.mp h
  cases preview with
  | unavailable remaining reason =>
    cases h
    exact .unavailable hselect hpreview
  | available remaining =>
    obtain ⟨⟨lease, settled⟩, hlease, h⟩ := bind_eq_ok.mp h
    obtain ⟨_, hkind, hlease⟩ := bind_eq_ok.mp hlease
    obtain ⟨⟨execution, leased⟩, hexecution, hlease⟩ := bind_eq_ok.mp hlease
    cases execution with
    | none =>
      cases hlease
      cases h
      exact .notLeased hselect hpreview hkind hexecution
    | some execution =>
      have hleases : LeasesItem ports command index budget state selected execution leased :=
        ⟨selecting, remaining, previewed, hselect, hpreview, hkind, hexecution⟩
      dsimp only at hlease
      split at hlease
      · next htext =>
        obtain ⟨⟨projection, admitted⟩, hadmission, hlease⟩ := bind_eq_ok.mp hlease
        cases projection with
        | none =>
          cases hlease
          cases h
          exact .conflict hleases htext hadmission
        | some projection =>
          cases hlease
          exact RoundCalls.of_executionAnswer hleases htext hadmission h
      · cases hlease

/-- A round answers exactly what its calls say. -/
theorem roundAnswer_eq_ok_iff {answer : RoundAnswer} :
    roundAnswer ports command index budget state = .ok (answer, next) ↔
      RoundCalls ports command index budget state answer next := by
  refine ⟨?_, roundAnswer_of_calls⟩
  intro h
  obtain ⟨⟨selection, selecting⟩, hselect, h⟩ := bind_eq_ok.mp h
  cases selection with
  | selected item => exact RoundCalls.of_selectedAnswer hselect h
  | capacityExhausted =>
    cases h
    exact .exhausted hselect
  | noFittingWorkItem =>
    obtain ⟨⟨reason, reasoned⟩, hreason, h⟩ := bind_eq_ok.mp h
    cases h
    exact .nothingFits hselect hreason

/-! The rounds of a pass. -/

variable {progress last : PassProgress State} {start : State} {reason : SkippedReason}

/-- A pass that goes on has admitted the item of the answer. -/
def RoundAnswer.admitted : RoundAnswer → Option (SelectableWorkItem × ProjectionLeaseResult)
  | .appended selected _ projection _ _ => some (selected, projection)
  | .started selected _ projection _ _ _ => some (selected, projection)
  | .skipped _ | .conflict _ _ | .denied _ _ _ _ _ => none

theorem PassOutcome.ofExcept_ne_stopped {admitted : Except Fault (PassProgress State)} :
    PassOutcome.ofExcept admitted ≠ .stopped last reason := by
  cases admitted with
  | error fault => nofun
  | ok progress => nofun

theorem settleAnswer_stopped {answer : RoundAnswer}
    (h : settleAnswer progress answer = .stopped last reason) :
    answer.admitted = none ∧ last = progress := by
  cases answer with
  | skipped _ | conflict _ _ | denied _ _ _ _ _ =>
    cases h
    exact ⟨rfl, rfl⟩
  | appended _ _ _ _ _ | started _ _ _ _ _ _ => exact absurd h PassOutcome.ofExcept_ne_stopped

theorem settleAnswer_of_not_admitted {answer : RoundAnswer} (h : answer.admitted = none) :
    ∃ reason, settleAnswer progress answer = .stopped progress reason := by
  cases answer with
  | skipped _ | conflict _ _ | denied _ _ _ _ _ => exact ⟨_, rfl⟩
  | appended _ _ _ _ _ | started _ _ _ _ _ _ => cases h

theorem passRound_of_calls {answer : RoundAnswer}
    (h : RoundCalls ports command index progress.budget progress.state answer next) :
    passRound ports command index progress =
        settleAnswer { progress with state := next } answer := by
  unfold passRound
  rw [roundAnswer_eq_ok_iff.mpr h]

theorem passRound_calls {outcome : PassOutcome State}
    (h : passRound ports command index progress = outcome) :
    (∃ fault, outcome = .raised fault) ∨ ∃ answer next,
      RoundCalls ports command index progress.budget progress.state answer next ∧
        outcome = settleAnswer { progress with state := next } answer := by
  unfold passRound at h
  split at h
  · next fault _ => exact .inl ⟨fault, h.symm⟩
  · next answer next hanswer => exact .inr ⟨answer, next, roundAnswer_eq_ok_iff.mp hanswer, h.symm⟩

theorem passRounds_succ_running {rounds : Nat}
    (h : passRounds ports command start (rounds + 1) = .running last) :
    ∃ progress, passRounds ports command start rounds = .running progress ∧
      passRound ports command rounds progress = .running last := by
  unfold passRounds at h
  split at h
  · next progress hrunning => exact ⟨progress, hrunning, h⟩
  · next hnot => exact absurd h (hnot last)

/-- A pass that has stopped did so in one of its rounds. -/
theorem passRounds_stopped {rounds : Nat}
    (h : passRounds ports command start rounds = .stopped last reason) :
    ∃ index progress, index < rounds ∧
      passRounds ports command start index = .running progress ∧
      passRound ports command index progress = .stopped last reason := by
  induction rounds with
  | zero => cases h
  | succ rounds ih =>
    unfold passRounds at h
    split at h
    · next progress hrunning => exact ⟨rounds, progress, by omega, hrunning, h⟩
    · obtain ⟨index, progress, hindex, hearlier⟩ := ih h
      exact ⟨index, progress, by omega, hearlier⟩

/-- A round that stops the pass is its last one. -/
theorem passRounds_of_stopped {rounds : Nat} (hindex : index < rounds)
    (hrunning : passRounds ports command start index = .running progress)
    (hstopped : passRound ports command index progress = .stopped last reason) :
    passRounds ports command start rounds = .stopped last reason := by
  induction rounds with
  | zero => omega
  | succ rounds ih =>
    rcases Nat.lt_succ_iff_lt_or_eq.mp hindex with hlt | rfl
    · unfold passRounds
      rw [ih hlt]
    · unfold passRounds
      rw [hrunning]
      exact hstopped

/-! What an admission adds, and what is reported of it. -/

/-- What a summary says of the item that was selected. -/
structure Summarises (item : AdmittedItemSummary) (selected : SelectableWorkItem) : Prop where
  workItemId : item.workItemId = selected.workItemId
  lane : item.lane.laneKey = selected.laneKey
  requiredWindowTokens : item.requiredWindowTokens = selected.requiredWindowTokens

theorem admittedItemSummary_summarises {selected : SelectableWorkItem} {payload : Payload}
    {item : AdmittedItemSummary} (h : admittedItemSummary selected payload = .ok item) :
    Summarises item selected := by
  obtain ⟨lane, hlane, h⟩ := bind_eq_ok.mp h
  obtain ⟨_, _, h⟩ := bind_eq_ok.mp h
  split at h
  · split at h
    · cases h
      exact ⟨rfl, laneSummary_eq_ok.mp hlane, rfl⟩
    · cases h
  · cases h

theorem projectionLeaseSummary_names {projection : ProjectionLeaseResult}
    {lease : ProjectionLeaseSummary} (h : projectionLeaseSummary projection = .ok lease) :
    lease.workItemId = projection.workItemId ∧ lease.lane.laneKey = projection.laneKey := by
  obtain ⟨lane, hlane, h⟩ := bind_eq_ok.mp h
  cases h
  exact ⟨rfl, laneSummary_eq_ok.mp hlane⟩

/-- The items and leases after an admission. -/
structure Admits (progress : PassProgress State) (selected : SelectableWorkItem)
    (projection : ProjectionLeaseResult) (last : PassProgress State) : Prop where
  state : last.state = progress.state
  item : ∃ item, Summarises item selected ∧ last.admittedItems = progress.admittedItems ++ [item]
  lease : ∃ lease, (lease.workItemId = projection.workItemId ∧
      lease.lane.laneKey = projection.laneKey) ∧
    last.projectionLeases = progress.projectionLeases ++ [lease]

theorem PassProgress.append_admits {selected : SelectableWorkItem}
    {execution : LeasedWorkItemRecord} {projection : ProjectionLeaseResult}
    {executeCommandRef : String}
    (h : progress.append selected execution projection executeCommandRef = .ok last) :
    Admits progress selected projection last ∧ last.budget = progress.budget ∧
      last.capacityReservations = progress.capacityReservations ∧
      last.startedAttempts = progress.startedAttempts ∧
      last.executeCommandRefs = progress.executeCommandRefs ++ [executeCommandRef] := by
  obtain ⟨item, hitem, h⟩ := bind_eq_ok.mp h
  obtain ⟨lease, hlease, h⟩ := bind_eq_ok.mp h
  cases h
  exact ⟨⟨rfl, ⟨item, admittedItemSummary_summarises hitem, rfl⟩,
    ⟨lease, projectionLeaseSummary_names hlease, rfl⟩⟩, rfl, rfl, rfl, rfl⟩

theorem PassProgress.start_admits {selected : SelectableWorkItem}
    {execution : LeasedWorkItemRecord} {projection : ProjectionLeaseResult}
    {attempt : StartedAttemptSummary} {budgetAfter : WindowBudget}
    {reservation : ReservationSummary}
    (h : progress.start selected execution projection attempt budgetAfter reservation = .ok last) :
    Admits progress selected projection last ∧ last.budget = budgetAfter ∧
      last.capacityReservations = progress.capacityReservations ++ [reservation] ∧
      last.startedAttempts = progress.startedAttempts ++ [attempt] ∧
      last.executeCommandRefs = progress.executeCommandRefs := by
  obtain ⟨item, hitem, h⟩ := bind_eq_ok.mp h
  obtain ⟨lease, hlease, h⟩ := bind_eq_ok.mp h
  cases h
  exact ⟨⟨rfl, ⟨item, admittedItemSummary_summarises hitem, rfl⟩,
    ⟨lease, projectionLeaseSummary_names hlease, rfl⟩⟩, rfl, rfl, rfl, rfl⟩

theorem PassOutcome.ofExcept_eq_running {admitted : Except Fault (PassProgress State)} :
    PassOutcome.ofExcept admitted = .running last ↔ admitted = .ok last := by
  cases admitted with
  | error fault => simp [PassOutcome.ofExcept]
  | ok progress => simp [PassOutcome.ofExcept]

theorem settleAnswer_running {answer : RoundAnswer}
    (h : settleAnswer progress answer = .running last) :
    ∃ selected projection, answer.admitted = some (selected, projection) ∧
      Admits progress selected projection last := by
  cases answer with
  | skipped _ | conflict _ _ | denied _ _ _ _ _ => cases h
  | appended selected execution projection executeCommandRef htext =>
    have hadmits := (PassOutcome.ofExcept_eq_running.mp h)
    exact ⟨selected, projection, rfl, (PassProgress.append_admits hadmits).1⟩
  | started selected execution projection attempt budgetAfter reservation =>
    have hadmits := (PassOutcome.ofExcept_eq_running.mp h)
    exact ⟨selected, projection, rfl, (PassProgress.start_admits hadmits).1⟩

/-- A result reports what the loop has admitted. -/
theorem finishPass_reports {result : PassResult} {final : State}
    (h : finishPass command progress reason = .ok (result, final)) :
    final = progress.state ∧ result.admittedItems = progress.admittedItems ∧
      (progress.admittedItems ≠ [] → result.projectionLeases = progress.projectionLeases) := by
  unfold finishPass at h
  split at h
  · next hempty =>
    have hnil := List.isEmpty_iff.mp hempty
    obtain ⟨_, hreported, h⟩ := bind_eq_ok.mp h
    obtain ⟨_, _, hreported⟩ := bind_eq_ok.mp hreported
    obtain ⟨_, _, hreported⟩ := bind_eq_ok.mp hreported
    cases hreported
    cases h
    exact ⟨rfl, hnil.symm, fun hne => absurd hnil hne⟩
  · obtain ⟨_, hreported, h⟩ := bind_eq_ok.mp h
    obtain ⟨_, _, hreported⟩ := bind_eq_ok.mp hreported
    obtain ⟨_, _, hreported⟩ := bind_eq_ok.mp hreported
    cases hreported
    cases h
    exact ⟨rfl, rfl, fun _ => rfl⟩

end CrmBot.CapacityAdmissionQueue
