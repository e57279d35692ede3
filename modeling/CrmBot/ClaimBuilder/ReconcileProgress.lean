import CrmBot.ClaimBuilder.DispatchPayload
import CrmBot.Library.Fold
import CrmBot.WorkflowRuntime.AppendAgain

/-! `HandleReconcileClaimBuilderProgressCommand`: what follows a finished attempt.

The handler decides from the counts of the work items and of the retry actions
whether the next batch is prepared, and appends the command that does it. The
SHA-256 digest is a parameter. -/

namespace CrmBot.ClaimBuilder

open Relational CrmBot.Python CrmBot.ExecutionRuntime CrmBot.WorkflowRuntime FailingFold

structure WorkItemProgressSummary where
  readyCount : Nat
  leasedCount : Nat
  deferredCount : Nat
  retryableFailedCount : Nat
  completedCount : Nat
  terminalFailedCount : Nat
  cancelledCount : Nat
  splitSupersededCount : Nat
  userActionRequiredCount : Nat
  totalCount : Nat
  nextDueAt : Option Int
  dueDeferredCount : Nat
  dueRetryableFailedCount : Nat
  total_eq : readyCount + leasedCount + deferredCount + retryableFailedCount + completedCount +
    terminalFailedCount + cancelledCount + splitSupersededCount + userActionRequiredCount =
      totalCount
  dueDeferred_le : dueDeferredCount ≤ deferredCount
  dueRetryable_le : dueRetryableFailedCount ≤ retryableFailedCount

namespace WorkItemProgressSummary

def dueWaitingCount (summary : WorkItemProgressSummary) : Nat :=
  summary.readyCount + summary.retryableFailedCount

def terminalCoverageCount (summary : WorkItemProgressSummary) : Nat :=
  summary.completedCount + summary.terminalFailedCount + summary.cancelledCount +
    summary.splitSupersededCount + summary.userActionRequiredCount

/-- The property of the source is constant. -/
def hasFutureWaitingWork (_ : WorkItemProgressSummary) : Bool := false

def toPayload (summary : WorkItemProgressSummary) : Payload :=
  Payload.ofEntries
    [("ready_count", .int summary.readyCount), ("leased_count", .int summary.leasedCount),
      ("deferred_count", .int summary.deferredCount),
      ("retryable_failed_count", .int summary.retryableFailedCount),
      ("completed_count", .int summary.completedCount),
      ("terminal_failed_count", .int summary.terminalFailedCount),
      ("cancelled_count", .int summary.cancelledCount),
      ("split_superseded_count", .int summary.splitSupersededCount),
      ("user_action_required_count", .int summary.userActionRequiredCount),
      ("total_count", .int summary.totalCount), ("next_due_at", .none),
      ("due_deferred_count", .int summary.dueDeferredCount),
      ("due_retryable_failed_count", .int summary.dueRetryableFailedCount)]

end WorkItemProgressSummary

/-- The counts of retry actions, and the plans of their records. -/
structure WorkItemRetryActionSummary where
  retrySameRouteCount : Nat
  retryEmptyClaimsCheckModelCount : Nat
  retryFallbackModelCount : Nat
  retryLargerOutputLimitRouteCount : Nat
  retryLargerInputModelCount : Nat
  splitRequiredCount : Nat
  nextRunAfter : Option Int
  recordPlans : List (Option WorkItemRetryPlan)

/-- `_selected_retry_plan`. No plan has the third value. -/
def selectedRetryPlan (retry : WorkItemRetryActionSummary) : Option String :=
  if 0 < retry.retryLargerInputModelCount then some "retry_larger_input_limit_route"
  else if 0 < retry.retryLargerOutputLimitRouteCount then some "retry_larger_output_limit_route"
  else if retry.recordPlans.any fun plan =>
      plan.map WorkItemRetryPlan.value = some "DAILY_LIMIT_retry_daily_fallback_route" then
    some "DAILY_LIMIT_retry_daily_fallback_route"
  else if 0 < retry.retryEmptyClaimsCheckModelCount then some "retry_validation_check_route"
  else if 0 < retry.retryFallbackModelCount then some "retry_daily_fallback_route"
  else if 0 < retry.retrySameRouteCount then some "retry_same_route"
  else none

inductive ProgressDecision
  | prepareNextBatchNow
  | prepareNextBatchLater
  | sectionExtractionDrained
  | splitRequired
  | progressBlocked
  deriving DecidableEq, Repr

def ProgressDecision.value : ProgressDecision → String
  | .prepareNextBatchNow => "PREPARE_NEXT_BATCH_NOW"
  | .prepareNextBatchLater => "PREPARE_NEXT_BATCH_LATER"
  | .sectionExtractionDrained => "CLAIM_BUILDER_SECTION_EXTRACTION_DRAINED"
  | .splitRequired => "CLAIM_BUILDER_SPLIT_REQUIRED"
  | .progressBlocked => "CLAIM_BUILDER_PROGRESS_BLOCKED"

def ProgressDecision.prepares (decision : ProgressDecision) : Prop :=
  decision = .prepareNextBatchNow ∨ decision = .prepareNextBatchLater

/-- `_decide`. -/
def decideProgress (summary : WorkItemProgressSummary) (retry : WorkItemRetryActionSummary)
    (now : Int) : ProgressDecision :=
  if 0 < retry.splitRequiredCount then .splitRequired
  else if (selectedRetryPlan retry).isSome ∧ (∃ runAfter ∈ retry.nextRunAfter, now < runAfter) then
    .prepareNextBatchLater
  else if 0 < summary.dueWaitingCount then .prepareNextBatchNow
  else if summary.hasFutureWaitingWork ∧ summary.nextDueAt.isSome then .prepareNextBatchLater
  else if 0 < summary.totalCount ∧ summary.totalCount ≤ summary.terminalCoverageCount then
    .sectionExtractionDrained
  else .progressBlocked

/-- `_all_sections_extracted_success`. -/
def allSectionsExtractedSuccess (summary : WorkItemProgressSummary) : Bool :=
  0 < summary.totalCount && summary.totalCount ≤ summary.completedCount

/-! The next command. -/

/-- `_optional_payload_text`. -/
def optionalPayloadText (payload : Payload) (key : String) : Except Fault (Option String) := do
  let found ← firstPayloadText payload [key]
  return found.map Prod.snd

/-- `digest[:16]` of the hexadecimal digest. -/
def shortDigest (sha256Hexdigest : String → String) (material : String) : String :=
  String.ofList ((sha256Hexdigest material).toList.take 16)

/-- `_prepare_command_causation_scope`. -/
def prepareCommandCausationScope (sha256Hexdigest : String → String) (command : WorkflowCommand) :
    Except Fault String := do
  let originCommandId ← optionalPayloadText command.payload "claim_builder_prepare_command_id"
  let originKey ← optionalPayloadText command.payload "claim_builder_prepare_idempotency_key"
  let material := match originCommandId, originKey with
    | some commandId, some key => commandId ++ ":" ++ key
    | some commandId, none => commandId
    | none, _ => "legacy-reconcile:" ++ command.commandId
  return "cause:" ++ shortDigest sha256Hexdigest material

/-- The causation enters the key only without a retry plan. -/
def causationScope (sha256Hexdigest : String → String) (command : WorkflowCommand)
    (plan : Option String) : Except Fault (Option String) :=
  match plan with
  | some _ => .ok none
  | none => (prepareCommandCausationScope sha256Hexdigest command).map some

/-- `_prepare_command_suffix_scope`. -/
def prepareCommandSuffixScope (plan : Option String) (scheduledWorkItemCount : Nat) : String :=
  plan.getD "default" ++ ":scheduled:" ++ toString scheduledWorkItemCount

/-- `_prepare_command_idempotency_suffix`. -/
def prepareCommandIdempotencySuffix (front scope : String) (causation : Option String) : String :=
  front ++ ":" ++ scope ++ (causation.map (":" ++ ·)).getD ""

/-- The three names under which a payload carries the selected plan. -/
def planEntries (plan : Option String) : List (String × PyValue) :=
  match plan with
  | none => []
  | some plan =>
    [("selected_retry_plan", .str plan), ("claim_builder_retry_plan", .str plan),
      ("retry_plan", .str plan)]

/-- The dispatch preparation of the reconcile command, which it may lack. -/
def copiedPreparation (command : WorkflowCommand) : Except Fault (List (String × PyValue)) :=
  match payloadGet command.payload "llm_dispatch_preparation" with
  | none => .ok []
  | some (.dict entries) => .ok [("llm_dispatch_preparation", .dict entries)]
  | some _ => .error (.valueError "llm_dispatch_preparation must be mapping")

/-- A pending command whose id is built from its key. -/
def pendingCommand (commandType workflowRunId idempotencyKey : String) (payload : Payload)
    (runAfter occurredAt : Int) : WorkflowCommand where
  commandId := "workflow-command:" ++ idempotencyKey
  commandType := commandType
  workflowRunId := workflowRunId
  idempotencyKey := idempotencyKey
  payload := payload
  status := .pending
  runAfter := runAfter
  createdAt := occurredAt
  updatedAt := occurredAt
  causationEventId := none
  correlationId := none
  attemptCount := 0

/-- `_prepare_dispatch_batch_command`. -/
def prepareDispatchBatchCommand (command : WorkflowCommand) (workflowRunId : String)
    (summary : WorkItemProgressSummary) (plan : Option String) (runAfter occurredAt : Int)
    (suffix : String) : Except Fault WorkflowCommand := do
  let preparation ← copiedPreparation command
  return pendingCommand prepareClaimBuilderDispatchBatch workflowRunId
    ("prepare-claim-builder-dispatch-batch:" ++ workflowRunId ++ ":" ++ suffix)
    (Payload.ofEntries ([("workflow_run_id", .str workflowRunId),
      ("work_kind", .str claimBuilderSectionWorkKind),
      ("scheduled_work_item_count", .int summary.totalCount)] ++ planEntries plan ++ preparation))
    runAfter occurredAt

def workflowRunFront : String := "knowledge-extraction:"

/-- `_source_document_ref`. -/
def sourceDocumentRef (command : WorkflowCommand) (workflowRunId : String) :
    Except Fault String := do
  match ← optionalPayloadText command.payload "source_document_ref" with
  | some value => return value
  | none =>
    if workflowRunFront.toList.isPrefixOf workflowRunId.toList then
      let ref := String.ofList (workflowRunId.toList.drop workflowRunFront.length)
      if isBlank ref then .error (.valueError "source_document_ref must be non-empty")
      else return ref
    else .error (.valueError "workflow_run_id must include source document ref")

def generateDraftClaimEmbeddings : String := "GenerateDraftClaimEmbeddings"

/-- `_generate_draft_claim_embeddings_command`. -/
def generateDraftClaimEmbeddingsCommand (command : WorkflowCommand) (workflowRunId : String)
    (summary : WorkItemProgressSummary) (occurredAt : Int) : Except Fault WorkflowCommand := do
  let ref ← sourceDocumentRef command workflowRunId
  return pendingCommand generateDraftClaimEmbeddings workflowRunId
    ("generate-draft-claim-embeddings:" ++ workflowRunId)
    (Payload.ofEntries
      [("workflow_run_id", .str workflowRunId), ("source_document_ref", .str ref),
        ("work_kind", .str claimBuilderSectionWorkKind), ("summary", .dict summary.toPayload)])
    occurredAt occurredAt

/-! `build_claim_builder_capacity_drain_trigger_command` -/

def triggerClaimBuilderCapacityDrain : String := "TriggerClaimBuilderCapacityDrain"

/-- `_mapping_text`. -/
def mappingText (window : Payload) (key : String) : Except Fault String :=
  match window.get key with
  | some (.str value) =>
    if isBlank value then .error (.valueError ("capacity account must include " ++ key))
    else .ok value
  | _ => .error (.valueError ("capacity account must include " ++ key))

/-- The windows of the active model, or all of them without an active model. -/
def activeWindows (preparation : Payload) (items : List PyValue) : List Payload :=
  items.filterMap fun
    | .dict window => match Payload.get preparation "active_model_ref" with
      | some (.str activeModelRef) =>
        if Payload.get window "model_ref" = some (.str activeModelRef) then some window else none
      | _ => some window
    | _ => none

/-- `_first_capacity_window`: provider, model and account. -/
def firstCapacityWindow (preparation : Payload) : Except Fault (String × String × String) :=
  match preparation.get "account_capacities" with
  | some (.list items) =>
    match activeWindows preparation items with
    | [] => .error (.valueError "llm_dispatch_preparation must include account capacity")
    | window :: _ => do
      let provider ← mappingText window "provider"
      let modelRef ← mappingText window "model_ref"
      let accountRef ← mappingText window "account_ref"
      return (provider, modelRef, accountRef)
  | _ => .error (.valueError "llm_dispatch_preparation account_capacities must be sequence")

/-- `build_claim_builder_capacity_drain_trigger_command` for a source document, with
the entries of its context payload. -/
def buildCapacityDrainTriggerCommand (workflowRunId ref : String) (preparation : Payload)
    (maxItems : Nat) (contextPayload : List (String × PyValue)) (runAfter occurredAt : Int) :
    Except Fault WorkflowCommand := do
  let (provider, modelRef, accountRef) ← firstCapacityWindow preparation
  return pendingCommand triggerClaimBuilderCapacityDrain workflowRunId
    ("trigger-claim-builder-capacity-drain:" ++ workflowRunId ++ ":" ++ ref ++ ":" ++ provider ++
      ":" ++ modelRef ++ ":" ++ accountRef)
    (Payload.ofEntries ([("workflow_run_id", .str workflowRunId), ("provider", .str provider),
      ("model_ref", .str modelRef), ("account_ref", .str accountRef),
      ("worker_ref", .str "claim-builder-capacity-drain"), ("max_items", .int maxItems),
      ("llm_dispatch_preparation", .dict preparation), ("source_document_ref", .str ref)] ++
      contextPayload))
    runAfter occurredAt

/-- `_capacity_drain_trigger_command`. -/
def capacityDrainTriggerCommand (command : WorkflowCommand) (workflowRunId : String)
    (decision : ProgressDecision) (summary : WorkItemProgressSummary) (plan : Option String)
    (runAfter occurredAt : Int) : Except Fault WorkflowCommand :=
  match command.payload.get "llm_dispatch_preparation" with
  | some (.dict preparation) => do
    let ref ← sourceDocumentRef command workflowRunId
    buildCapacityDrainTriggerCommand workflowRunId ref preparation (max 1 summary.totalCount)
      ([("trigger", .str "claim_builder_progress_reconcile"),
        ("reconcile_command_id", .str command.commandId),
        ("reconcile_decision", .str decision.value),
        ("scheduled_work_item_count", .int summary.totalCount)] ++ planEntries plan)
      runAfter occurredAt
  | _ => .error (.valueError "llm_dispatch_preparation must be mapping")

/-! The handler. -/

/-- How the handler is set up: whether the capacity queue owns the dispatch of
claim-builder work. -/
structure ReconcileSetting where
  sha256Hexdigest : String → String
  capacityQueueOwnsDispatch : Bool

/-- When a delayed batch is due. -/
def nextBatchDueAt (summary : WorkItemProgressSummary) (retry : WorkItemRetryActionSummary)
    (message : String) : Except Fault Int :=
  match retry.nextRunAfter.or summary.nextDueAt with
  | some dueAt => .ok dueAt
  | none => .error (.valueError message)

/-- `_capacity_drain_trigger_run_after` for the two decisions that prepare. -/
def capacityDrainTriggerRunAfter (decision : ProgressDecision) (summary : WorkItemProgressSummary)
    (retry : WorkItemRetryActionSummary) (occurredAt : Int) : Except Fault Int :=
  if decision = .prepareNextBatchNow then .ok occurredAt
  else nextBatchDueAt summary retry "next_due_at is required for delayed capacity drain"

/-- `_next_command`. -/
def nextCommand (setting : ReconcileSetting) (command : WorkflowCommand) (workflowRunId : String)
    (decision : ProgressDecision) (summary : WorkItemProgressSummary)
    (retry : WorkItemRetryActionSummary) (occurredAt : Int) :
    Except Fault (Option WorkflowCommand) :=
  let plan := selectedRetryPlan retry
  if setting.capacityQueueOwnsDispatch = true ∧
      (decision = .prepareNextBatchNow ∨ decision = .prepareNextBatchLater) then do
    let runAfter ← capacityDrainTriggerRunAfter decision summary retry occurredAt
    let next ← capacityDrainTriggerCommand command workflowRunId decision summary plan runAfter
      occurredAt
    return some next
  else do
    let causation ← causationScope setting.sha256Hexdigest command plan
    let scope := prepareCommandSuffixScope plan summary.totalCount
    match decision with
    | .prepareNextBatchNow =>
      (prepareDispatchBatchCommand command workflowRunId summary plan occurredAt occurredAt
        (prepareCommandIdempotencySuffix "now" scope causation)).map some
    | .prepareNextBatchLater =>
      let dueAt ← nextBatchDueAt summary retry
        "next_due_at is required for delayed prepare decision"
      (prepareDispatchBatchCommand command workflowRunId summary plan dueAt occurredAt
        (prepareCommandIdempotencySuffix "later" (scope ++ ":" ++ isoformat dueAt)
          causation)).map some
    | .sectionExtractionDrained =>
      if allSectionsExtractedSuccess summary then
        (generateDraftClaimEmbeddingsCommand command workflowRunId summary occurredAt).map some
      else return none
    | .splitRequired | .progressBlocked => return none

/-- The run that the command is about, once the command is accepted. -/
def reconciledRun (command : WorkflowCommand) : Except Fault String := do
  if command.commandType ≠ reconcileClaimBuilderProgress then
    .error (.valueError "workflow_command command_type must be ReconcileClaimBuilderProgress")
  else if command.status ≠ .pending then
    .error (.valueError "workflow_command status must be PENDING")
  else
    let workflowRunId ← payloadText command.payload "workflow_run_id" (some command.workflowRunId)
    if workflowRunId ≠ command.workflowRunId then
      .error (.valueError "payload workflow_run_id must match workflow command")
    else return workflowRunId

def appendNext (log : CommandLog) (next : Option WorkflowCommand) : Except Fault CommandLog :=
  match next with
  | none => .ok log
  | some command => (appendCommandObject log command.toObject).map Prod.snd

/-- `execute`: the decision and the log. -/
def handleReconcileClaimBuilderProgress (setting : ReconcileSetting) (log : CommandLog)
    (command : WorkflowCommand) (summary : WorkItemProgressSummary)
    (retry : WorkItemRetryActionSummary) : Except Fault (ProgressDecision × CommandLog) := do
  let workflowRunId ← reconciledRun command
  let decision := decideProgress summary retry command.updatedAt
  let next ← nextCommand setting command workflowRunId decision summary retry command.updatedAt
  let log ← appendNext log next
  let log ← markCommandCompleted log command.commandId command.updatedAt
  return (decision, log)

end CrmBot.ClaimBuilder
