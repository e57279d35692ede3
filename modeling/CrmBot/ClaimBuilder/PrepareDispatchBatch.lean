import CrmBot.ClaimBuilder.CapacityWindowWakeup
import CrmBot.ExecutionRuntime.ExecutionStore
import CrmBot.Library.Fold

/-! `_execute_direct_execution_queue_prepare`: the claim-builder prepare handler.

A prepare reads the capacity windows once, walks over the peeked due items and
leases, starts and reserves each item that fits a window. It is one
transaction: on a fault nothing it did remains. -/

namespace CrmBot.ClaimBuilder

open Relational CrmBot.Python CrmBot.ExecutionRuntime CrmBot.LlmRuntime CrmBot.WorkflowRuntime

/-- `_DirectCapacityWindow`. -/
structure DirectCapacityWindow where
  capacity : ProviderAccountCapacity
  remainingMinuteRequests : Nat
  remainingMinuteTokens : Nat
  remainingDailyRequests : Nat
  remainingDailyTokens : Nat
  unavailableUntil : Option Int
  capacityObservation : Option CapacityObservation
  deriving DecidableEq

namespace DirectCapacityWindow

def maxRequiredWindowTokens (window : DirectCapacityWindow) : Nat :=
  min window.remainingMinuteTokens window.remainingDailyTokens

def availableNow (window : DirectCapacityWindow) (now : Int) : Bool :=
  window.unavailableUntil.all fun closed => decide (closed ≤ now)

def fits (window : DirectCapacityWindow) (requiredWindowTokens : Nat) (now : Int) : Bool :=
  window.availableNow now && decide (0 < window.remainingMinuteRequests) &&
    decide (0 < window.remainingDailyRequests) &&
    decide (requiredWindowTokens ≤ window.maxRequiredWindowTokens)

/-- `max(0, remaining - required)` is the truncated subtraction. -/
def reserveLocally (window : DirectCapacityWindow) (requiredWindowTokens : Nat) :
    DirectCapacityWindow :=
  { window with
    remainingMinuteRequests := window.remainingMinuteRequests - 1
    remainingMinuteTokens := window.remainingMinuteTokens - requiredWindowTokens
    remainingDailyRequests := window.remainingDailyRequests - 1
    remainingDailyTokens := window.remainingDailyTokens - requiredWindowTokens }

end DirectCapacityWindow

/-- The tables a prepare reads and writes. -/
structure DispatchState where
  execution : ExecutionStore
  reservations : Table RouteReservation.attemptId
  observations : Table CapacityObservation.observationId
  commandLog : CommandLog

/-! Capacity windows -/

/-- `_observation_requires_fail_closed_until_reset`, given a reset in the future. -/
def requiresFailClosedUntilReset (observation : CapacityObservation)
    (remainingRequests remainingTokens : Option Nat) : Bool :=
  remainingRequests = some 0 || remainingTokens = some 0 ||
    (observation.outcomeClass ≠ "succeeded" &&
      (remainingRequests.isNone || remainingTokens.isNone))

/-- `_window_unavailable_until`: the earlier of the future resets of the limits
that the observation closes. -/
def windowUnavailableUntil (observation : CapacityObservation) (occurredAt : Int) : Option Int :=
  let minute := observation.minuteResetAt.filter fun reset => decide (occurredAt < reset) &&
    requiresFailClosedUntilReset observation observation.remainingMinuteRequests
      observation.remainingMinuteTokens
  let daily := observation.dailyResetAt.filter fun reset => decide (occurredAt < reset) &&
    requiresFailClosedUntilReset observation observation.remainingDailyRequests
      observation.remainingDailyTokens
  match minute, daily with
  | some first, some second => some (min first second)
  | first, second => first.or second

/-- `_capacity_after_latest_observation`: the planned capacity is kept as it is;
only a failure can close the window. -/
def observedUnavailableUntil (observation : Option CapacityObservation) (occurredAt : Int) :
    Option Int :=
  observation.bind fun latest =>
    if latest.outcomeClass ≠ "succeeded" then windowUnavailableUntil latest occurredAt else none

/-- The window of one listed capacity. -/
def directCapacityWindow (state : DispatchState) (occurredAt : Int)
    (capacity : ProviderAccountCapacity) : DirectCapacityWindow :=
  let observation := latestObservation state.observations capacity.route
  let requests := activeReservedRequests state.reservations capacity.route occurredAt
  let tokens := activeReservedTokens state.reservations capacity.route occurredAt
  { capacity := capacity
    remainingMinuteRequests := capacity.remainingMinuteRequests - requests
    remainingMinuteTokens := capacity.remainingMinuteTokens - tokens
    remainingDailyRequests := capacity.remainingDailyRequests - requests
    remainingDailyTokens := capacity.remainingDailyTokens - tokens
    unavailableUntil := observedUnavailableUntil observation occurredAt
    capacityObservation := observation }

/-- `_direct_capacity_windows`. -/
def directCapacityWindows (state : DispatchState) (payload : Payload) (activeModelRef : String)
    (occurredAt : Int) : Except Fault (List DirectCapacityWindow) := do
  return (← capacitiesForDirectPrepare payload activeModelRef).map
    (directCapacityWindow state occurredAt)

/-- `_first_closed_capacity_window_wakeup_at` and `_first_budget_window_wakeup_at`,
which are the same function. -/
def firstWindowWakeupAt (windows : List DirectCapacityWindow) (now : Int) : Option Int :=
  (windows.filterMap fun window =>
    window.unavailableUntil.filter fun closed => decide (now < closed)).min?

/-- `_first_unavailable_capacity_observation`. -/
def firstUnavailableCapacityObservation (windows : List DirectCapacityWindow) (now : Int) :
    Option CapacityObservation :=
  let candidates := windows.filterMap fun window =>
    match window.unavailableUntil, window.capacityObservation with
    | some closed, some observation => if now < closed then some (closed, observation) else none
    | _, _ => none
  (candidates.minOn? Prod.fst).map Prod.snd

/-! The loop -/

structure StartedAttempt where
  attemptId : String
  workItemId : String
  attemptNumber : Nat
  dispatchPayload : Payload
  deriving DecidableEq

/-- The batch that is being prepared: the tables it writes, the windows with what
it reserved locally, and the attempts it started. -/
structure BatchProgress where
  execution : ExecutionStore
  reservations : Table RouteReservation.attemptId
  windows : List DirectCapacityWindow
  started : List StartedAttempt

/-- What a prepare takes from its command and its surroundings. -/
structure BatchContext where
  workflowRunId : String
  occurredAt : Int
  scheduledWorkItemCount : Nat
  profile : TaskCapacityProfile
  catalog : RouteCatalog
  locked : String → Bool

/-- The duration of a lease. -/
def leaseDuration : Int := 90 * microsPerSecond

def BatchContext.leaseExpiresAt (context : BatchContext) : Int := context.occurredAt + leaseDuration

/-- The worker of every claim-builder lease. -/
def claimBuilderDispatchWorker : String := "knowledge-workbench-claim-builder-dispatch"

/-- The lease token of an item, which is also the id of its attempt. -/
def claimBuilderAttemptId (workflowRunId : String) (position : Nat) (workItemId : String) :
    String :=
  "claim-builder-dispatch:" ++ workflowRunId ++ ":" ++ toString position ++ ":" ++ workItemId

/-- `LlmCapacityAllocationSlot.to_payload`. -/
def allocationPayload (route : RouteKey) (slotIndex : Nat) : Payload :=
  Payload.ofEntries
    [("provider", .str route.provider), ("account_ref", .str route.accountRef),
      ("model_ref", .str route.modelRef), ("slot_index", .int slotIndex)]

/-- `LlmModelExecutionSettings.to_provider_options`. -/
def providerOptions (settings : ModelExecutionSettings) : Payload :=
  if settings.reasoningEnabled then
    match settings.reasoningEffort with
    | none => Payload.ofEntries [("reasoning_enabled", .bool true)]
    | some effort =>
      Payload.ofEntries [("reasoning_enabled", .bool true), ("reasoning_effort", .str effort)]
  else Payload.ofEntries [("reasoning_enabled", .bool false)]

/-- `_build_dispatch_record` for an item leased under the token. -/
def buildDispatchRecord (leased : LeasedWorkItemRecord) (leaseToken : String) (route : RouteKey)
    (slotIndex : Nat) (settings : ModelExecutionSettings) : DispatchRow :=
  { attemptId := leaseToken
    workItemId := leased.workItem.workItemId
    attemptNumber := leased.workItem.attemptCount
    leaseToken := leaseToken
    workerRef := claimBuilderDispatchWorker
    schedulePayload := leased.schedulePayload
    llmAllocationPayload := allocationPayload route slotIndex
    dispatchPayload := Payload.ofEntries
      [("work_item_id", .str leased.workItem.workItemId),
        ("schedule_payload", .dict leased.schedulePayload),
        ("llm_allocation", .dict (allocationPayload route slotIndex)),
        ("llm_execution_settings", .dict (providerOptions settings))] }

/-- `_first_capacity_window_index_that_fits`, with the window at the index. -/
def firstCapacityWindowThatFits (windows : List DirectCapacityWindow) (requiredWindowTokens : Nat)
    (now : Int) : Option (Nat × DirectCapacityWindow) :=
  (windows.findIdx? fun window => window.fits requiredWindowTokens now).bind fun index =>
    windows[index]?.map fun window => (index, window)

/-- The reservation that `_reserve_direct_capacity` stores. -/
def directReservation (context : BatchContext) (capacity : ProviderAccountCapacity)
    (attemptId : String) (requiredWindowTokens : Nat) (hpos : 0 < requiredWindowTokens) :
    RouteReservation :=
  { attemptId := attemptId
    route := capacity.route
    reservedRequests := 1
    reservedTokens := requiredWindowTokens
    actualTokens := none
    status := .active
    expiresAt := context.leaseExpiresAt
    createdAt := context.occurredAt
    finalizedAt := none
    reserved_pos := ⟨Nat.one_pos, hpos⟩
    expires_after := by
      unfold BatchContext.leaseExpiresAt leaseDuration microsPerSecond
      omega
    finalized_iff := active_not_finalized }

/-- The loop body after a window was selected for the item. -/
def dispatchDueRecord (context : BatchContext) (progress : BatchProgress)
    (record : DueWorkItemRecord) (index : Nat) (window : DirectCapacityWindow) :
    Except Fault BatchProgress := do
  let position := progress.started.length
  let token := claimBuilderAttemptId context.workflowRunId position record.workItem.workItemId
  let (leased?, execution) ← leaseDueWorkItemById progress.execution context.locked
    claimBuilderSectionWorkKind record.workItem.workItemId claimBuilderDispatchWorker token
    context.leaseExpiresAt context.occurredAt
  match leased? with
  | none => return progress
  | some leased =>
    let settings ← context.catalog.executionSettingsForModelRef window.capacity.route.modelRef
    let dispatch := buildDispatchRecord leased token window.capacity.route position settings
    let execution ← saveStartedDispatchAttempt execution dispatch context.occurredAt
    let required := requiredWindowTokensForDueRecord record.schedulePayload context.profile
    return {
      execution := execution
      reservations := reserve progress.reservations
        (directReservation context window.capacity token required
          (requiredWindowTokensForDueRecord_pos _ _))
      windows := progress.windows.set index (window.reserveLocally required)
      started := progress.started ++
        [{ attemptId := dispatch.attemptId, workItemId := dispatch.workItemId
           attemptNumber := dispatch.attemptNumber, dispatchPayload := dispatch.dispatchPayload }] }

/-- One pass through the loop over the due records. -/
def prepareDueRecord (context : BatchContext) (progress : BatchProgress)
    (record : DueWorkItemRecord) : Except Fault BatchProgress :=
  -- the source breaks out of the loop here, and every later pass would come here again
  if context.scheduledWorkItemCount ≤ progress.started.length then .ok progress
  else match firstCapacityWindowThatFits progress.windows
      (requiredWindowTokensForDueRecord record.schedulePayload context.profile)
      context.occurredAt with
  | none => .ok progress
  | some (index, window) => dispatchDueRecord context progress record index window

def prepareDueRecords (context : BatchContext) (progress : BatchProgress)
    (records : List DueWorkItemRecord) : Except Fault BatchProgress :=
  records.foldlM (prepareDueRecord context) progress

/-! The events of the started attempts -/

/-- A mapping within the dispatch payload of a started attempt. -/
def dispatchMapping (dispatchPayload : Payload) (key : String) : Except Fault Payload :=
  match dispatchPayload.get key with
  | some (.dict mapping) => .ok mapping
  | _ => .error (.valueError ("dispatch attempt " ++ key ++ " must be mapping"))

/-- The payload of one event of `_claim_builder_dispatch_attempt_prepared_events`. -/
def dispatchAttemptPreparedPayload (context : BatchContext) (attempt : StartedAttempt) :
    Except Fault Payload := do
  let schedulePayload ← dispatchMapping attempt.dispatchPayload "schedule_payload"
  let allocation ← dispatchMapping attempt.dispatchPayload "llm_allocation"
  let sourceDocumentRef ← payloadText schedulePayload "source_document_ref" none
  let sourceUnitRef ← payloadText schedulePayload "source_unit_ref" none
  let provider ← payloadText allocation "provider" none
  let accountRef ← payloadText allocation "account_ref" none
  let modelRef ← payloadText allocation "model_ref" none
  return Payload.ofEntries
    [("workflow_run_id", .str context.workflowRunId),
      ("source_document_ref", .str sourceDocumentRef), ("source_unit_ref", .str sourceUnitRef),
      ("work_item_id", .str attempt.workItemId), ("work_kind", .str claimBuilderSectionWorkKind),
      ("dispatch_attempt_id", .str attempt.attemptId),
      ("attempt_number", .int attempt.attemptNumber), ("attempt_state", .str "leased"),
      ("provider", .str provider), ("account_ref", .str accountRef), ("model_ref", .str modelRef),
      ("lease_expires_at", .str (isoformat context.leaseExpiresAt))]

/-- The payloads of `_claim_builder_dispatch_attempt_prepared_events`: one attempt
that does not name its sources refuses them all. -/
def dispatchAttemptPreparedPayloads (context : BatchContext) (attempts : List StartedAttempt) :
    Except Fault (List Payload) :=
  attempts.mapM (dispatchAttemptPreparedPayload context)

/-! The commands a prepare appends -/

/-- `_rescheduled_prepare_dispatch_batch_command`. -/
def rescheduledPrepareCommand (command : WorkflowCommand) (runAfter occurredAt : Int)
    (reason : String) : WorkflowCommand :=
  { command with
    commandId := command.commandId ++ ":rescheduled:" ++ reason ++ ":" ++ isoformat runAfter
    idempotencyKey :=
      command.idempotencyKey ++ ":rescheduled:" ++ reason ++ ":" ++ isoformat runAfter
    status := .pending, runAfter := runAfter, createdAt := occurredAt, updatedAt := occurredAt }

def executeClaimBuilderSectionKey (workflowRunId attemptId : String) : String :=
  "execute-claim-builder-section:" ++ workflowRunId ++ ":" ++ attemptId

/-- The keys that an execute command copies from its prepare command. -/
def executeCopiedKeys : List String :=
  ["source_document_ref", "scheduled_work_item_count", "active_model_ref", "retry_plan",
    "selected_retry_plan", "claim_builder_retry_plan"]

def copyPresent (source target : Payload) (key : String) : Payload :=
  match payloadGet source key with
  | none => target
  | some value => target.set key value

/-- The payload of the execute command of an attempt. -/
def executeClaimBuilderSectionPayload (prepare : WorkflowCommand) (workflowRunId : String)
    (attempt : StartedAttempt) : Except Fault Payload := do
  let own := Payload.ofEntries
    [("workflow_run_id", .str workflowRunId), ("work_kind", .str claimBuilderSectionWorkKind),
      ("dispatch_attempt_id", .str attempt.attemptId), ("work_item_id", .str attempt.workItemId),
      ("claim_builder_prepare_command_id", .str prepare.commandId),
      ("claim_builder_prepare_idempotency_key", .str prepare.idempotencyKey)]
  let copied := executeCopiedKeys.foldl (copyPresent prepare.payload) own
  match payloadGet prepare.payload "llm_dispatch_preparation" with
  | none => return copied
  | some (.dict preparation) => return copied.set "llm_dispatch_preparation" (.dict preparation)
  | some _ => .error (.valueError "llm_dispatch_preparation must be mapping")

/-- One command of `_execute_claim_builder_section_commands`. -/
def executeClaimBuilderSectionCommand (prepare : WorkflowCommand) (workflowRunId : String)
    (occurredAt : Int) (attempt : StartedAttempt) : Except Fault WorkflowCommand := do
  let payload ← executeClaimBuilderSectionPayload prepare workflowRunId attempt
  let key := executeClaimBuilderSectionKey workflowRunId attempt.attemptId
  return {
    commandId := "workflow-command:" ++ key, commandType := executeClaimBuilderSection
    workflowRunId := workflowRunId, idempotencyKey := key, payload := payload, status := .pending
    runAfter := occurredAt, createdAt := occurredAt, updatedAt := occurredAt
    causationEventId := none, correlationId := none, attemptCount := 0 }

/-- Appends one command after another. -/
def appendPendingCommands (log : CommandLog) (commands : List WorkflowCommand) :
    Except Fault CommandLog :=
  commands.foldlM (fun log command => Prod.snd <$> appendPendingCommand log command) log

/-! The handler -/

/-- The batch context of a prepare command. `_execution_occurred_at` is the time
for which the command was scheduled. -/
def batchContext (command : WorkflowCommand) (scheduledWorkItemCount : Nat)
    (profile : TaskCapacityProfile) (catalog : RouteCatalog) (locked : String → Bool) :
    BatchContext :=
  { workflowRunId := command.workflowRunId, occurredAt := command.runAfter
    scheduledWorkItemCount := scheduledWorkItemCount, profile := profile, catalog := catalog
    locked := locked }

/-- How far a prepare came: every window is closed until some time, or the due
items were walked. -/
inductive BatchOutcome
  | closed (wakeupAt : Int)
  | walked (due : List DueWorkItemRecord) (progress : BatchProgress)

def BatchOutcome.started : BatchOutcome → List StartedAttempt
  | .closed _ => []
  | .walked _ progress => progress.started

/-- The batch before any due item was visited. -/
def initialProgress (state : DispatchState) (windows : List DirectCapacityWindow) : BatchProgress :=
  { execution := state.execution, reservations := state.reservations, windows := windows
    started := [] }

/-- The handler from the capacity windows to the end of the loop. -/
def walkDueItems (state : DispatchState) (context : BatchContext)
    (windows : List DirectCapacityWindow) : Except Fault BatchOutcome :=
  match firstWindowWakeupAt windows context.occurredAt,
      windows.any fun window => window.availableNow context.occurredAt with
  | some wakeupAt, false => .ok (.closed wakeupAt)
  | _, _ => do
    let due := peekDueWorkItems state.execution claimBuilderSectionWorkKind
      context.scheduledWorkItemCount
    return .walked due (← prepareDueRecords context (initialProgress state windows) due)

/-- `_validate_workflow_command` and the check of the payload's run id. -/
def validatePrepareCommand (command : WorkflowCommand) : Except Fault Unit := do
  if command.commandType ≠ prepareClaimBuilderDispatchBatch then
    .error (.valueError "workflow_command command_type must be PrepareClaimBuilderDispatchBatch")
  else if command.status ≠ .pending then
    .error (.valueError "workflow_command status must be PENDING")
  else
    let runId ← payloadText command.payload "workflow_run_id" (some command.workflowRunId)
    if runId ≠ command.workflowRunId then
      .error (.valueError "payload workflow_run_id must match workflow command")
    else .ok ()

/-- What the handler reads from its command before it looks at any table but
those of the capacity windows. -/
def readPrepareCommand (catalog : RouteCatalog) (locked : String → Bool) (state : DispatchState)
    (command : WorkflowCommand) : Except Fault (BatchContext × List DirectCapacityWindow) := do
  validatePrepareCommand command
  let count ← payloadPositiveInt command.payload "scheduled_work_item_count"
  let profile ← profileFromDispatchPreparation command.payload
  let activeModelRef ← activeModelRefFromPayload command.payload
  let windows ← directCapacityWindows state command.payload activeModelRef command.runAfter
  return (batchContext command count profile catalog locked, windows)

/-- The handler up to the end of the loop. -/
def prepareBatch (catalog : RouteCatalog) (locked : String → Bool) (state : DispatchState)
    (command : WorkflowCommand) : Except Fault (BatchContext × BatchOutcome) := do
  let (context, windows) ← readPrepareCommand catalog locked state command
  return (context, ← walkDueItems state context windows)

structure PrepareResult where
  started : List StartedAttempt
  appendedNextCommandCount : Nat
  deriving DecidableEq

/-- The commands appended when no due item was dispatched. -/
def appendPrepareWakeup (command : WorkflowCommand) (occurredAt : Int)
    (windows : List DirectCapacityWindow) (log : CommandLog) : Except Fault (Nat × CommandLog) :=
  match firstWindowWakeupAt windows occurredAt with
  | some wakeupAt => do
    let (_, log) ← appendPendingCommand log
      (rescheduledPrepareCommand command wakeupAt occurredAt "capacity_window_budget_reset")
    return (1, log)
  | none => match firstUnavailableCapacityObservation windows occurredAt with
    | none => .ok (0, log)
    | some observation => appendCapacityWindowPrepareWakeup log command command.workflowRunId
        prepareClaimBuilderDispatchBatch observation occurredAt

/-- The handler after the loop: the attempts are announced, the next commands are
appended and the prepare command is completed. -/
def finishPrepare (state : DispatchState) (command : WorkflowCommand) (context : BatchContext) :
    BatchOutcome → Except Fault (PrepareResult × DispatchState)
  | .closed wakeupAt => do
    let (_, log) ← appendPendingCommand state.commandLog
      (rescheduledPrepareCommand command wakeupAt context.occurredAt "capacity_window_unavailable")
    let log ← markCommandCompleted log command.commandId context.occurredAt
    return ({ started := [], appendedNextCommandCount := 1 }, { state with commandLog := log })
  | .walked due batch => do
    let (count, log) ←
      if due ≠ [] ∧ batch.started = [] then
        appendPrepareWakeup command context.occurredAt batch.windows state.commandLog
      else .ok (0, state.commandLog)
    -- the outbox is no table of the model: what counts here is that an event can be refused
    let _ ← dispatchAttemptPreparedPayloads context batch.started
    let commands ← batch.started.mapM
      (executeClaimBuilderSectionCommand command context.workflowRunId context.occurredAt)
    let log ← appendPendingCommands log commands
    let log ← markCommandCompleted log command.commandId context.occurredAt
    return ({ started := batch.started, appendedNextCommandCount := count + commands.length },
      { state with
        execution := batch.execution, reservations := batch.reservations, commandLog := log })

/-- `HandlePrepareClaimBuilderDispatchBatchCommandHandler.execute`. -/
def handlePrepareDispatchBatch (catalog : RouteCatalog) (locked : String → Bool)
    (state : DispatchState) (command : WorkflowCommand) :
    Except Fault (PrepareResult × DispatchState) := do
  let (context, outcome) ← prepareBatch catalog locked state command
  finishPrepare state command context outcome

end CrmBot.ClaimBuilder
