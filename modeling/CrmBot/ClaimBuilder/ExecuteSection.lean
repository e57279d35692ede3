import CrmBot.ClaimBuilder.DispatchPayload
import CrmBot.ClaimBuilder.ExecuteAttempt
import CrmBot.WorkflowRuntime.CommandLog

/-! `HandleExecuteClaimBuilderSectionCommandHandler`: a section is executed, its
valid claims are persisted and its work item is completed.

The execution comes through a port. The port either works in the transaction of
the handler (`for_connection`) or opens transactions of its own
(`_TransactionalExecutePreparedLlmDispatchAttempt`). -/

namespace CrmBot.ClaimBuilder

open Relational CrmBot.Python CrmBot.ExecutionRuntime CrmBot.LlmRuntime CrmBot.WorkflowRuntime
open FailingFold

/-! Draft claims -/

/-- `ValidatedDraftClaimObservationCandidate`. -/
structure DraftClaimCandidate where
  workflowRunId : String
  stageRunId : String
  promptId : String
  promptVersion : String
  sourceDocumentRef : Option String
  sourceUnitRef : String
  sourceUnitOrdinal : Option Int
  workItemId : String
  dispatchAttemptId : String
  claimIndex : Nat
  provider : String
  modelRef : String
  claim : ValidatedClaimBuilderClaim
  validationDecision : String
  sourceUnitOrdinal_nonneg : ∀ ordinal ∈ sourceUnitOrdinal, 0 ≤ ordinal

/-- The rows of one observation: the claim, its questions and its provenance. -/
structure DraftClaimRow where
  observationRef : String
  sourceUnitRef : String
  claim : String
  granularity : DraftClaimGranularity
  exclusionScope : String
  evidenceBlock : String
  possibleQuestions : List String
  workflowRunId : String
  stageRunId : String
  workItemId : String
  workItemAttemptId : String
  promptId : String
  promptVersion : String
  claimIndex : Nat
  createdAt : Int
  deriving DecidableEq

abbrev DraftClaims := Table DraftClaimRow.observationRef

/-- What `_observation_ref` digests. -/
def observationText (candidate : DraftClaimCandidate) : String :=
  candidate.workflowRunId ++ ":" ++ candidate.sourceUnitRef ++ ":" ++ candidate.workItemId ++ ":" ++
    candidate.dispatchAttemptId ++ ":" ++
      (toString candidate.claimIndex ++ ":" ++ candidate.claim.claim)

/-- `_observation_ref`. -/
def observationRef (sha256 : String → String) (candidate : DraftClaimCandidate) : String :=
  "draft-claim-observation:" ++ sha256 (observationText candidate)

def draftClaimRow (sha256 : String → String) (createdAt : Int) (candidate : DraftClaimCandidate) :
    DraftClaimRow where
  observationRef := observationRef sha256 candidate
  sourceUnitRef := candidate.sourceUnitRef
  claim := candidate.claim.claim
  granularity := candidate.claim.granularity
  exclusionScope := candidate.claim.exclusionScope
  evidenceBlock := candidate.claim.evidenceBlock
  possibleQuestions := candidate.claim.possibleQuestions
  workflowRunId := candidate.workflowRunId
  stageRunId := candidate.stageRunId
  workItemId := candidate.workItemId
  workItemAttemptId := candidate.dispatchAttemptId
  promptId := candidate.promptId
  promptVersion := candidate.promptVersion
  claimIndex := candidate.claimIndex
  createdAt := createdAt

/-- `_persist_candidate`: every column of a known observation is overwritten. -/
def persistCandidate (sha256 : String → String) (createdAt : Int) (drafts : DraftClaims)
    (candidate : DraftClaimCandidate) : DraftClaims :=
  let row := draftClaimRow sha256 createdAt candidate
  drafts.upsert row (fun old => { row with observationRef := old.observationRef }) fun _ => rfl

/-- `persist_validated_claims`. -/
def persistCandidates (sha256 : String → String) (createdAt : Int) (drafts : DraftClaims)
    (candidates : List DraftClaimCandidate) : DraftClaims :=
  candidates.foldl (persistCandidate sha256 createdAt) drafts

/-! The candidates -/

/-- A text that must equal the one of the command. -/
def requireProvenance (provenance : Payload) (key expected : String) : Except Fault Unit := do
  let value ← requireMappingText provenance key
  if value = expected then .ok ()
  else .error (.valueError ("claim_builder_provenance " ++ key ++ " must match " ++ key))

/-- `_claim_builder_provenance`: stage run, prompt and prompt version. -/
def requiredProvenance (schedulePayload : Payload)
    (workflowRunId sourceUnitRef workItemId : String) : Except Fault (String × String × String) :=
  match schedulePayload.get "claim_builder_provenance" with
  | some (.dict provenance) => do
    requireProvenance provenance "workflow_run_id" workflowRunId
    requireProvenance provenance "source_unit_ref" sourceUnitRef
    requireProvenance provenance "work_item_id" workItemId
    let stageRunId ← requireMappingText provenance "stage_run_id"
    let promptId ← requireMappingText provenance "prompt_id"
    let promptVersion ← requireMappingText provenance "prompt_version"
    return (stageRunId, promptId, promptVersion)
  | _ => .error (.valueError "schedule_payload claim_builder_provenance must be mapping")

/-- `_validation_decision_text`. -/
def validationDecisionText (metadata : Option ValidationMetadata) : Except Fault String :=
  match metadata with
  | none =>
    .error (.valueError "validation_metadata is required for draft claim persistence")
  | some metadata => match metadata.get "validation_decision" with
    | some (.json (.str value)) =>
      if isBlank value then .error (.valueError "validation_decision must be non-empty")
      else .ok value
    | _ => .error (.valueError "validation_decision must be non-empty")

/-- What the candidates of an execution have in common. -/
structure CandidateContext where
  workflowRunId : String
  stageRunId : String
  promptId : String
  promptVersion : String
  sourceDocumentRef : Option String
  sourceUnitRef : String
  sourceUnitOrdinal : Option Int
  workItemId : String
  dispatchAttemptId : String
  provider : String
  modelRef : String
  validationDecision : String
  sourceUnitOrdinal_nonneg : ∀ ordinal ∈ sourceUnitOrdinal, 0 ≤ ordinal

/-- `_draft_claim_candidates` up to the loop over the claims. -/
def candidateContext (dispatchPayload : Payload) (metadata : Option ValidationMetadata)
    (workflowRunId dispatchAttemptId workItemId : String) : Except Fault CandidateContext := do
  let schedulePayload ← dispatchSchedulePayload dispatchPayload
  let allocation ← allocationMapping dispatchPayload
  let provider ← requireMappingText allocation "provider"
  let modelRef ← requireMappingText allocation "model_ref"
  let unitRef ← sourceUnitRef dispatchPayload
  let (stageRunId, promptId, promptVersion) ← requiredProvenance schedulePayload workflowRunId
    unitRef workItemId
  let validationDecision ← validationDecisionText metadata
  let sourceDocumentRef ← optionalMappingText schedulePayload "source_document_ref"
  let sourceUnitOrdinal ← optionalMappingInt schedulePayload "source_unit_ordinal"
  if h : ∀ ordinal ∈ sourceUnitOrdinal, 0 ≤ ordinal then
    return {
      workflowRunId, stageRunId, promptId, promptVersion, sourceDocumentRef
      sourceUnitRef := unitRef, sourceUnitOrdinal, workItemId, dispatchAttemptId, provider
      modelRef, validationDecision, sourceUnitOrdinal_nonneg := h }
  else .error (.valueError "source_unit_ordinal must be >= 0")

def CandidateContext.candidate (context : CandidateContext) (claimIndex : Nat)
    (claim : ValidatedClaimBuilderClaim) : DraftClaimCandidate where
  workflowRunId := context.workflowRunId
  stageRunId := context.stageRunId
  promptId := context.promptId
  promptVersion := context.promptVersion
  sourceDocumentRef := context.sourceDocumentRef
  sourceUnitRef := context.sourceUnitRef
  sourceUnitOrdinal := context.sourceUnitOrdinal
  workItemId := context.workItemId
  dispatchAttemptId := context.dispatchAttemptId
  claimIndex := claimIndex
  provider := context.provider
  modelRef := context.modelRef
  claim := claim
  validationDecision := context.validationDecision
  sourceUnitOrdinal_nonneg := context.sourceUnitOrdinal_nonneg

def CandidateContext.candidates (context : CandidateContext)
    (claims : List ValidatedClaimBuilderClaim) : List DraftClaimCandidate :=
  claims.mapIdx context.candidate

/-! Reading the metadata -/

/-- `_should_persist_claims`. -/
def shouldPersistClaims (metadata : Option ValidationMetadata) : Bool :=
  match metadata with
  | none => false
  | some metadata =>
    metadata.get "claim_builder_attempt_next_action_kind" =
        some (.json (.str ClaimBuilderAttemptNextActionKind.persistValidClaims.value)) &&
      metadata.get "claim_builder_should_persist_claims" = some (.json (.bool true))

/-- `_validated_claims_from_metadata`: a list is no tuple. -/
def validatedClaimsFromMetadata (metadata : Option ValidationMetadata) :
    List ValidatedClaimBuilderClaim :=
  match metadata.bind fun metadata => metadata.get "_validated_claims" with
  | some (.claims claims) => claims
  | _ => []

/-- `_should_mark_work_item_completed`. -/
def shouldMarkWorkItemCompleted (metadata : Option ValidationMetadata) : Bool :=
  match metadata with
  | none => false
  | some metadata =>
    metadata.get "claim_builder_should_mark_work_item_completed" = some (.json (.bool true))

/-- The metadata of an error of the provider. -/
def providerRetryEntries (outcomeKind : ClaimBuilderAttemptOutcomeKind)
    (actionKind : ClaimBuilderAttemptNextActionKind) (errorKind : String)
    (strategy : Option String) (retryRecommended : Bool) : ValidationMetadata :=
  [("claim_builder_attempt_outcome_kind", .json (.str outcomeKind.value)),
    ("claim_builder_attempt_next_action_kind", .json (.str actionKind.value)),
    ("claim_builder_attempt_next_action_reason", .json (.str errorKind)),
    ("claim_builder_attempt_next_model_strategy", .json (textOrNone strategy)),
    ("claim_builder_should_persist_claims", .json (.bool false)),
    ("claim_builder_should_mark_work_item_completed", .json (.bool false)),
    ("claim_builder_requires_source_split", .json (.bool false)),
    ("claim_builder_next_run_after", .json .none),
    ("validation_decision", .json .none),
    ("validation_failure_reason", .json .none),
    ("validated_claim_count", .json (.int 0)),
    ("next_model_strategy", .json (textOrNone strategy)),
    ("retry_recommended", .json (.bool retryRecommended))]

/-- `_provider_retry_metadata`. -/
def providerRetryMetadata (errorKind : Option String) : Option ValidationMetadata :=
  let sameModel := ClaimBuilderNextModelStrategy.sameModel.value
  match errorKind with
  | some "minute_limit" => some (providerRetryEntries .retrySameRoute .deferUntilCapacityReset
      "minute_limit" (some sameModel) true)
  | some "daily_limit" => some (providerRetryEntries .retryFallbackModel .retryFallbackModel
      "daily_limit" (some "DAILY_LIMIT_FALLBACK_MODEL_REQUIRED") true)
  | some "request_too_large" => some (providerRetryEntries .retryLargerInputLimitModel
      .retryLargerInputLimitModel "request_too_large"
      (some ClaimBuilderNextModelStrategy.largerInputLimitModelRequired.value) true)
  | some "output_too_large" => some (providerRetryEntries .retryLargerOutputLimitModel
      .retryLargerOutputLimitModel "output_too_large"
      (some ClaimBuilderNextModelStrategy.largerOutputLimitModelRequired.value) true)
  | some "auth_error" => some (providerRetryEntries .terminalInvalid .terminalFailure "auth_error"
      none false)
  | some other =>
    if other ∈ ["invalid_output", "validation_failed", "empty_output", "network_error",
        "unknown"] then
      some (providerRetryEntries .retrySameRoute .retrySameRoute other (some sameModel) true)
    else none
  | none => none

/-- `_attempt_action_metadata`. -/
def attemptActionMetadata (result : ExecuteAttemptResult) : Option ValidationMetadata :=
  result.validationMetadata.or (providerRetryMetadata result.llmResult.errorKind)

/-! The handler -/

structure SectionSettings where
  loads : JsonLoads
  sha256 : String → String
  /-- The port opens transactions of its own. -/
  ownTransaction : Bool

structure SectionState where
  store : ExecutionStore
  drafts : DraftClaims

/-- The ids in a valid command. -/
structure SectionCommand where
  workflowRunId : String
  dispatchAttemptId : String
  workItemId : String
  deriving DecidableEq

/-- `_validate_workflow_command` and the payload of the command. -/
def sectionCommand (command : WorkflowCommand) : Except Fault SectionCommand := do
  if command.commandType ≠ executeClaimBuilderSection then
    .error (.valueError "workflow_command command_type must be ExecuteClaimBuilderSection")
  else if command.status ≠ .pending then
    .error (.valueError "workflow_command status must be PENDING")
  else do
    let workflowRunId ← payloadText command.payload "workflow_run_id" (some command.workflowRunId)
    if workflowRunId ≠ command.workflowRunId then
      .error (.valueError "payload workflow_run_id must match workflow command")
    else do
      let dispatchAttemptId ← payloadText command.payload "dispatch_attempt_id" none
      let workItemId ← payloadText command.payload "work_item_id" none
      return { workflowRunId, dispatchAttemptId, workItemId }

/-- `_persist_validated_draft_claims`. -/
def persistValidatedDraftClaims (sha256 : String → String) (createdAt : Int) (drafts : DraftClaims)
    (command : SectionCommand) (result : ExecuteAttemptResult) : Except Fault DraftClaims :=
  if ¬ shouldPersistClaims result.validationMetadata then .ok drafts
  else match validatedClaimsFromMetadata result.validationMetadata with
    | [] => .ok drafts
    | claims => do
      let context ← candidateContext result.dispatch.dispatchPayload result.validationMetadata
        command.workflowRunId command.dispatchAttemptId command.workItemId
      return persistCandidates sha256 createdAt drafts (context.candidates claims)

/-- Where the handler is aborted, by a crash or by an error of the statements
that are not modelled here. -/
inductive AbortPoint
  | afterOutcome
  | afterPersist
  | afterComplete
  deriving DecidableEq

/-- One execution of the command: what the provider answers, the times, and
where the handler is aborted. -/
structure SectionExecution where
  executeDispatch : ExecuteDispatch
  recordedAt : Int
  createdAt : Int
  completedAt : Int
  abort : Option AbortPoint

/-- The completion of the item. -/
def completeSection (store : ExecutionStore) (command : SectionCommand)
    (result : ExecuteAttemptResult) (completedAt : Int) : Except Fault ExecutionStore :=
  if shouldMarkWorkItemCompleted (attemptActionMetadata result) then
    (completeWorkItemAfterDomainApply store command.workItemId result.dispatch.leaseToken
      completedAt).map Prod.snd
  else .ok store

/-- The handler after the port has answered: the store the port leaves, and the
drafts, where the handler gets to its end. -/
def applySectionResult (sha256 : String → String) (execution : SectionExecution)
    (command : SectionCommand) (store : ExecutionStore) (drafts : DraftClaims)
    (result : ExecuteAttemptResult) : ExecutionStore × Option DraftClaims :=
  if result.dispatch.workItemId ≠ command.workItemId ∨ execution.abort = some .afterOutcome then
    (store, none)
  else match persistValidatedDraftClaims sha256 execution.createdAt drafts command result with
    | .error _ => (store, none)
    | .ok persisted =>
      if execution.abort = some .afterPersist then (store, none)
      else match completeSection store command result execution.completedAt with
        | .error _ => (store, none)
        | .ok completed =>
          (completed, if execution.abort = some .afterComplete then none else some persisted)

/-- What is committed. Without an end of the handler its transaction is rolled
back, and with it the work of a port that has no transactions of its own. -/
def commitSection (ownTransaction : Bool) (state : SectionState)
    (ending : ExecutionStore × Option DraftClaims) : SectionState :=
  match ending.2 with
  | some drafts => { store := ending.1, drafts }
  | none => if ownTransaction then { state with store := ending.1 } else state

/-- The handler from the call of the port on. -/
def runSection (settings : SectionSettings) (state : SectionState) (command : SectionCommand)
    (execution : SectionExecution) : SectionState :=
  match executePreparedLlmDispatchAttempt settings.loads execution.executeDispatch state.store
      command.dispatchAttemptId execution.recordedAt with
  | .error _ => state
  | .ok (result, store) =>
    commitSection settings.ownTransaction state
      (applySectionResult settings.sha256 execution command store state.drafts result)

/-- `HandleExecuteClaimBuilderSectionCommandHandler.execute`. -/
def handleExecuteClaimBuilderSection (settings : SectionSettings) (state : SectionState)
    (command : WorkflowCommand) (execution : SectionExecution) : SectionState :=
  match sectionCommand command with
  | .error _ => state
  | .ok sectionIds => runSection settings state sectionIds execution

/-! What an execution leaves in the store. -/

variable {settings : SectionSettings} {state : SectionState} {command : SectionCommand}
  {execution : SectionExecution}

/-- The store before the handler, after the outcome, or after the completion. -/
theorem store_applySectionResult (sha256 : String → String) (execution : SectionExecution)
    (command : SectionCommand) (store : ExecutionStore) (drafts : DraftClaims)
    (result : ExecuteAttemptResult) :
    (applySectionResult sha256 execution command store drafts result).1 = store ∨
      result.dispatch.workItemId = command.workItemId ∧
        ∃ item, completeWorkItemAfterDomainApply store command.workItemId
          result.dispatch.leaseToken execution.completedAt =
            .ok (item, (applySectionResult sha256 execution command store drafts result).1) := by
  unfold applySectionResult
  split
  · exact .inl rfl
  · next hgoes =>
    split
    · exact .inl rfl
    · split
      · exact .inl rfl
      · cases hcomplete : completeSection store command result execution.completedAt with
        | error fault => exact .inl rfl
        | ok completed =>
          unfold completeSection at hcomplete
          split at hcomplete
          · obtain ⟨⟨item, next⟩, hdone, hnext⟩ := map_eq_ok.mp hcomplete
            cases hnext
            exact .inr ⟨not_not.mp (not_or.mp hgoes).1, item, hdone⟩
          · cases hcomplete
            exact .inl rfl

theorem store_runSection :
    (runSection settings state command execution).store = state.store ∨
      ∃ result store, executePreparedLlmDispatchAttempt settings.loads execution.executeDispatch
          state.store command.dispatchAttemptId execution.recordedAt = .ok (result, store) ∧
        ((runSection settings state command execution).store = store ∨
          result.dispatch.workItemId = command.workItemId ∧
            ∃ item, completeWorkItemAfterDomainApply store command.workItemId
              result.dispatch.leaseToken execution.completedAt =
                .ok (item, (runSection settings state command execution).store)) := by
  unfold runSection
  split
  · exact .inl rfl
  · next result store hexecute =>
    have hending := store_applySectionResult settings.sha256 execution command store state.drafts
      result
    unfold commitSection
    split
    · exact .inr ⟨result, store, hexecute, hending⟩
    · split
      · exact .inr ⟨result, store, hexecute, hending⟩
      · exact .inl rfl

/-! One section, leased and ready to be executed. -/

def skyDispatchPayload : Payload :=
  [("attempt_id", .str "attempt"),
    ("llm_allocation", .dict [("account_ref", .str "account"), ("model_ref", .str "model"),
      ("provider", .str "groq")]),
    ("llm_execution_settings", .dict []),
    ("schedule_payload", .dict [
      ("claim_builder_provenance", .dict [("prompt_id", .str "prompt"),
        ("prompt_version", .str "1"), ("source_unit_ref", .str "unit"),
        ("stage_run_id", .str "stage"), ("work_item_id", .str "item"),
        ("workflow_run_id", .str "run")]),
      ("provider_messages", .list [.dict [("content", .str "The sky is blue."),
        ("role", .str "user")]]),
      ("source_unit_ref", .str "unit"), ("workflow_run_id", .str "run")]),
    ("work_item_id", .str "item")]

def skyItem : WorkItem where
  workItemId := "item"
  workKind := claimBuilderSectionWorkKind
  status := .leased
  attemptCount := 1
  leasedBy := some "worker"
  leaseToken := some "token"
  leaseExpiresAt := some 90
  lastErrorKind := none
  retryPlan := none
  workItemId_ne := Eq.refl false
  lease_shape := by simp [LeaseShape]

def skySection : SectionState where
  store :=
    { workItems :=
        ⟨[{ item := skyItem, createdAt := 0, updatedAt := 0, updated_ge := epoch_le_epoch }],
          List.nodup_singleton _⟩
      schedules := .empty
      attempts :=
        ⟨⟨[{ attemptId := "attempt", workItemId := "item", attemptNumber := 1, startedAt := 0
             finishedAt := none, outcomeStatus := none, errorKind := none
             validationMetadata := none, llmOutputPayload := none }], List.nodup_singleton _⟩,
          List.nodup_singleton _⟩
      dispatches :=
        ⟨⟨[{ attemptId := "attempt", workItemId := "item", attemptNumber := 1
             leaseToken := "token", workerRef := "worker", schedulePayload := []
             llmAllocationPayload := [], dispatchPayload := skyDispatchPayload }],
            List.nodup_singleton _⟩, List.nodup_singleton _⟩ }
  drafts := .empty

def skyCommand : WorkflowCommand where
  commandId := "workflow-command:execute"
  commandType := executeClaimBuilderSection
  workflowRunId := "run"
  idempotencyKey := "execute"
  payload := [("dispatch_attempt_id", .str "attempt"), ("work_item_id", .str "item"),
    ("workflow_run_id", .str "run")]
  status := .pending
  runAfter := 0
  createdAt := 0
  updatedAt := 0
  causationEventId := none
  correlationId := none
  attemptCount := 0

def skyIds : SectionCommand := ⟨"run", "attempt", "item"⟩

/-- The text of an answer with one claim. -/
def skyAnswer : String :=
  "\x7b\"claims\":[\x7b\"claim\":\"The sky is blue\",\"granularity\":\"atomic\"," ++
    "\"possible_questions\":[],\"exclusion_scope\":\"\"\x7d]\x7d"

def skyClaims : PyValue :=
  .dict [("claims", .list [.dict [("claim", .str "The sky is blue"), ("exclusion_scope", .str ""),
    ("granularity", .str "atomic"), ("possible_questions", .list [])]])]

/-- A decoder that knows this text. -/
def skyLoads : JsonLoads := fun text => if text = skyAnswer then some skyClaims else none

end CrmBot.ClaimBuilder
