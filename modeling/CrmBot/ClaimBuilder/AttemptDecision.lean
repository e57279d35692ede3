import CrmBot.ClaimBuilder.OutputValidation
import CrmBot.Library.Fold
import CrmBot.LlmRuntime.GroqResponse

/-! `ClaimBuilderLlmDispatchOutputValidator`: from the output of a dispatch to a
decision, and from the decision to the next action. -/

namespace CrmBot.ClaimBuilder

open CrmBot.Python CrmBot.LlmRuntime FailingFold

/-! `ClaimBuilderAttemptDecisionPolicy` -/

inductive ClaimBuilderAttemptOutcomeKind
  | validClaims
  | validEmpty
  | retrySameRoute
  | retryEmptyClaimsCheckModel
  | retryFallbackModel
  | retryLargerInputLimitModel
  | retryLargerOutputLimitModel
  | terminalInvalid
  deriving DecidableEq, Repr

def ClaimBuilderAttemptOutcomeKind.value : ClaimBuilderAttemptOutcomeKind → String
  | .validClaims => "VALID_CLAIMS"
  | .validEmpty => "VALID_EMPTY"
  | .retrySameRoute => "RETRY_SAME_ROUTE"
  | .retryEmptyClaimsCheckModel => "RETRY_EMPTY_CLAIMS_CHECK_MODEL"
  | .retryFallbackModel => "RETRY_FALLBACK_MODEL"
  | .retryLargerInputLimitModel => "RETRY_LARGER_INPUT_LIMIT_MODEL"
  | .retryLargerOutputLimitModel => "RETRY_LARGER_OUTPUT_LIMIT_MODEL"
  | .terminalInvalid => "TERMINAL_INVALID"

inductive ClaimBuilderNextModelStrategy
  | sameModel
  | emptyClaimsCheckModelRequired
  | fallbackModelRequired
  | largerInputLimitModelRequired
  | largerOutputLimitModelRequired
  deriving DecidableEq, Repr

def ClaimBuilderNextModelStrategy.value : ClaimBuilderNextModelStrategy → String
  | .sameModel => "SAME_MODEL"
  | .emptyClaimsCheckModelRequired => "EMPTY_CLAIMS_CHECK_MODEL_REQUIRED"
  | .fallbackModelRequired => "FALLBACK_MODEL_REQUIRED"
  | .largerInputLimitModelRequired => "LARGER_INPUT_LIMIT_MODEL_REQUIRED"
  | .largerOutputLimitModelRequired => "LARGER_OUTPUT_LIMIT_MODEL_REQUIRED"

structure DecideClaimBuilderAttemptOutcomeCommand where
  workflowRunId : String
  workItemId : String
  dispatchAttemptId : String
  attemptNumber : Nat
  provider : String
  modelRef : String
  outputPayload : PyValue
  rawOutputText : Option String
  sourceUnitText : String
  isOutputTruncated : Bool
  validationResult : Option ClaimBuilderOutputValidationResult
  attemptNumber_pos : 0 < attemptNumber

/-- Claims and a failure exclude each other, as the constructor demands. -/
def DecisionShape (outcomeKind : ClaimBuilderAttemptOutcomeKind)
    (claims : List ValidatedClaimBuilderClaim)
    (failureReason : Option ClaimBuilderOutputValidationFailureReason) (retryRecommended : Bool) :
    Prop :=
  match outcomeKind with
  | .validClaims => claims ≠ [] ∧ failureReason = none ∧ retryRecommended = false
  | .validEmpty => claims = [] ∧ failureReason = none ∧ retryRecommended = false
  | _ => claims = [] ∧ failureReason.isSome = true

structure ClaimBuilderAttemptDecision where
  outcomeKind : ClaimBuilderAttemptOutcomeKind
  validationDecision : Option ClaimBuilderOutputValidationDecision
  validationFailureReason : Option ClaimBuilderOutputValidationFailureReason
  claims : List ValidatedClaimBuilderClaim
  nextModelStrategy : Option ClaimBuilderNextModelStrategy
  retryRecommended : Bool
  shape : DecisionShape outcomeKind claims validationFailureReason retryRecommended

/-- The outcome kind of a validation decision. -/
def outcomeKindOf : ClaimBuilderOutputValidationDecision → ClaimBuilderAttemptOutcomeKind
  | .validClaims => .validClaims
  | .validEmpty => .validEmpty
  | .retrySameRoute => .retrySameRoute
  | .retryEmptyClaimsCheckModel => .retryEmptyClaimsCheckModel
  | .retryFallbackModel => .retryFallbackModel
  | .retryLargerOutputLimitModel => .retryLargerOutputLimitModel
  | .terminalInvalid => .terminalInvalid

/-- The model asked for after a validation decision. -/
def nextModelStrategyOf :
    ClaimBuilderOutputValidationDecision → Option ClaimBuilderNextModelStrategy
  | .validClaims | .validEmpty | .terminalInvalid => none
  | .retrySameRoute => some .sameModel
  | .retryEmptyClaimsCheckModel => some .emptyClaimsCheckModelRequired
  | .retryFallbackModel => some .fallbackModelRequired
  | .retryLargerOutputLimitModel => some .largerOutputLimitModelRequired

/-- `_decision_from_validation`. -/
def decisionFromValidation (result : ClaimBuilderOutputValidationResult) :
    ClaimBuilderAttemptDecision where
  outcomeKind := outcomeKindOf result.decision
  validationDecision := some result.decision
  validationFailureReason := result.failureReason
  claims := result.claims
  nextModelStrategy := nextModelStrategyOf result.decision
  retryRecommended := (nextModelStrategyOf result.decision).isSome
  shape := by
    obtain ⟨decision, claims, failureReason, shape⟩ := result
    cases decision with
    | validClaims | validEmpty => exact ⟨shape.1, shape.2, rfl⟩
    | retrySameRoute | retryEmptyClaimsCheckModel | retryFallbackModel
    | retryLargerOutputLimitModel | terminalInvalid => exact shape

/-- `_raw_output_missing`. -/
def rawOutputMissing (rawOutputText : Option String) : Bool := rawOutputText.all isBlank

def truncatedDecision : ClaimBuilderAttemptDecision where
  outcomeKind := .retryLargerOutputLimitModel
  validationDecision := some .retryLargerOutputLimitModel
  validationFailureReason := some .truncatedJsonRetryRequired
  claims := []
  nextModelStrategy := some .largerOutputLimitModelRequired
  retryRecommended := true
  shape := ⟨rfl, rfl⟩

def missingOutputDecision : ClaimBuilderAttemptDecision where
  outcomeKind := .retrySameRoute
  validationDecision := some .retrySameRoute
  validationFailureReason := some .outputNotObject
  claims := []
  nextModelStrategy := some .sameModel
  retryRecommended := true
  shape := ⟨rfl, rfl⟩

/-- `ClaimBuilderAttemptDecisionPolicy.decide`. -/
def decideAttemptOutcome (command : DecideClaimBuilderAttemptOutcomeCommand) :
    ClaimBuilderAttemptDecision :=
  if command.isOutputTruncated then truncatedDecision
  else if rawOutputMissing command.rawOutputText ∧ command.outputPayload = .none then
    missingOutputDecision
  else match command.validationResult with
    | none => missingOutputDecision
    | some result => decisionFromValidation result

/-! `ClaimBuilderAttemptNextActionPolicy` -/

inductive ClaimBuilderAttemptNextActionKind
  | persistValidClaims
  | acceptValidEmpty
  | retrySameRoute
  | retryEmptyClaimsCheckModel
  | retryFallbackModel
  | retryLargerOutputLimitModel
  | retryLargerInputLimitModel
  | splitWorkPayload
  | deferUntilCapacityReset
  | pauseForDailyLimitReset
  | requestUserLowQualityContinueOrWait
  | terminalFailure
  deriving DecidableEq, Repr

def ClaimBuilderAttemptNextActionKind.value : ClaimBuilderAttemptNextActionKind → String
  | .persistValidClaims => "PERSIST_VALID_CLAIMS"
  | .acceptValidEmpty => "ACCEPT_VALID_EMPTY"
  | .retrySameRoute => "RETRY_SAME_ROUTE"
  | .retryEmptyClaimsCheckModel => "RETRY_EMPTY_CLAIMS_CHECK_MODEL"
  | .retryFallbackModel => "RETRY_FALLBACK_MODEL"
  | .retryLargerOutputLimitModel => "RETRY_LARGER_OUTPUT_LIMIT_MODEL"
  | .retryLargerInputLimitModel => "RETRY_LARGER_INPUT_LIMIT_MODEL"
  | .splitWorkPayload => "SPLIT_WORK_PAYLOAD"
  | .deferUntilCapacityReset => "DEFER_UNTIL_CAPACITY_RESET"
  | .pauseForDailyLimitReset => "PAUSE_FOR_DAILY_LIMIT_RESET"
  | .requestUserLowQualityContinueOrWait => "REQUEST_USER_LOW_QUALITY_CONTINUE_OR_WAIT"
  | .terminalFailure => "TERMINAL_FAILURE"

/-- The action; only valid claims are persisted, and only a valid answer
completes the item. -/
structure ClaimBuilderAttemptNextAction where
  kind : ClaimBuilderAttemptNextActionKind
  reason : String
  nextModelStrategy : Option ClaimBuilderNextModelStrategy
  runAfter : Option Int
  requiresSourceSplit : Bool
  shouldPersistClaims : Bool
  shouldMarkWorkItemCompleted : Bool
  persists_iff : shouldPersistClaims = true ↔ kind = .persistValidClaims
  marks_iff : shouldMarkWorkItemCompleted = true ↔
    kind = .persistValidClaims ∨ kind = .acceptValidEmpty

/-- `_reason`. -/
def actionReason (decision : ClaimBuilderAttemptDecision) (fallback : String) : String :=
  match decision.validationFailureReason, decision.validationDecision with
  | some reason, _ => reason.value
  | none, some validation => validation.value
  | none, none => fallback

/-- `_retry_action`. -/
def retryAction (kind : ClaimBuilderAttemptNextActionKind) (decision : ClaimBuilderAttemptDecision)
    (fallbackReason : String)
    (hkind : kind ≠ .persistValidClaims ∧ kind ≠ .acceptValidEmpty) :
    ClaimBuilderAttemptNextAction where
  kind := kind
  reason := actionReason decision fallbackReason
  nextModelStrategy := decision.nextModelStrategy
  runAfter := none
  requiresSourceSplit := false
  shouldPersistClaims := false
  shouldMarkWorkItemCompleted := false
  persists_iff := iff_of_false nofun hkind.1
  marks_iff := iff_of_false nofun (not_or.mpr hkind)

/-- `ClaimBuilderAttemptNextActionPolicy.decide_next_action`. -/
def decideNextAction (decision : ClaimBuilderAttemptDecision) : ClaimBuilderAttemptNextAction :=
  match decision.outcomeKind with
  | .validClaims =>
    { kind := .persistValidClaims, reason := "valid_claims", nextModelStrategy := none
      runAfter := none, requiresSourceSplit := false, shouldPersistClaims := true
      shouldMarkWorkItemCompleted := true, persists_iff := by decide, marks_iff := by decide }
  | .validEmpty =>
    { kind := .acceptValidEmpty, reason := "valid_empty", nextModelStrategy := none
      runAfter := none, requiresSourceSplit := false, shouldPersistClaims := false
      shouldMarkWorkItemCompleted := true, persists_iff := by decide, marks_iff := by decide }
  | .retrySameRoute => retryAction .retrySameRoute decision "retry_same_route" (by decide)
  | .retryEmptyClaimsCheckModel =>
    retryAction .retryEmptyClaimsCheckModel decision "retry_empty_claims_check_model" (by decide)
  | .retryLargerInputLimitModel =>
    retryAction .retryLargerInputLimitModel decision "retry_larger_input_limit_model" (by decide)
  | .retryFallbackModel =>
    retryAction .retryFallbackModel decision "retry_fallback_model" (by decide)
  | .retryLargerOutputLimitModel =>
    retryAction .retryLargerOutputLimitModel decision "retry_larger_output_limit_model"
      (by decide)
  | .terminalInvalid =>
    { kind := .terminalFailure, reason := actionReason decision "terminal_invalid"
      nextModelStrategy := none, runAfter := none, requiresSourceSplit := false
      shouldPersistClaims := false, shouldMarkWorkItemCompleted := false
      persists_iff := by decide, marks_iff := by decide }

/-! Metadata -/

/-- A value of the metadata: JSON, or the tuple of the claims. -/
inductive MetadataValue
  | json (value : PyValue)
  | claims (claims : List ValidatedClaimBuilderClaim)
  deriving DecidableEq

abbrev ValidationMetadata := List (String × MetadataValue)

/-- `metadata.get(key)`. -/
def ValidationMetadata.get (metadata : ValidationMetadata) (key : String) : Option MetadataValue :=
  (metadata.find? fun entry => entry.1 = key).map Prod.snd

def textOrNone (value : Option String) : PyValue :=
  match value with
  | some text => .str text
  | none => .none

/-- `_decision_metadata`. -/
def decisionMetadata (decision : ClaimBuilderAttemptDecision)
    (nextAction : ClaimBuilderAttemptNextAction) : ValidationMetadata :=
  [("claim_builder_attempt_outcome_kind", .json (.str decision.outcomeKind.value)),
    ("claim_builder_attempt_next_action_kind", .json (.str nextAction.kind.value)),
    ("claim_builder_attempt_next_action_reason", .json (.str nextAction.reason)),
    ("claim_builder_attempt_next_model_strategy",
      .json (textOrNone (nextAction.nextModelStrategy.map ClaimBuilderNextModelStrategy.value))),
    ("claim_builder_should_persist_claims", .json (.bool nextAction.shouldPersistClaims)),
    ("claim_builder_should_mark_work_item_completed",
      .json (.bool nextAction.shouldMarkWorkItemCompleted)),
    ("claim_builder_requires_source_split", .json (.bool nextAction.requiresSourceSplit)),
    ("claim_builder_next_run_after", .json (textOrNone (nextAction.runAfter.map isoformat))),
    ("validation_decision",
      .json (textOrNone
        (decision.validationDecision.map ClaimBuilderOutputValidationDecision.value))),
    ("validation_failure_reason",
      .json (textOrNone
        (decision.validationFailureReason.map ClaimBuilderOutputValidationFailureReason.value))),
    ("validated_claim_count", .json (.int decision.claims.length)),
    ("next_model_strategy",
      .json (textOrNone (decision.nextModelStrategy.map ClaimBuilderNextModelStrategy.value))),
    ("retry_recommended", .json (.bool decision.retryRecommended)),
    ("_validated_claims", .claims decision.claims)]

/-- `LlmDispatchOutputValidationResult`. -/
structure LlmDispatchOutputValidationResult where
  status : LlmDispatchExecutionStatus
  errorKind : Option String
  metadata : ValidationMetadata
  errorKind_iff : errorKind.isSome = true ↔ status ≠ .succeeded

/-- `_decision_to_dispatch_result`. -/
def decisionToDispatchResult (decision : ClaimBuilderAttemptDecision)
    (nextAction : ClaimBuilderAttemptNextAction) : LlmDispatchOutputValidationResult :=
  let metadata := decisionMetadata decision nextAction
  match decision.outcomeKind with
  | .validClaims | .validEmpty =>
    { status := .succeeded, errorKind := none, metadata
      errorKind_iff := succeeded_without_error }
  | .terminalInvalid =>
    { status := .terminalFailed, errorKind := some "claim_builder_output_validation_failed"
      metadata, errorKind_iff := by decide }
  | _ =>
    { status := .retryableFailed, errorKind := some "claim_builder_output_validation_failed"
      metadata, errorKind_iff := by decide }

/-! What the validator reads of a dispatch payload. -/

/-- `_require_mapping_text`. -/
def requireMappingText (payload : Payload) (key : String) : Except Fault String :=
  match payload.get key with
  | some (.str value) =>
    if isBlank value then .error (.valueError (key ++ " must be non-empty text")) else .ok value
  | _ => .error (.valueError (key ++ " must be non-empty text"))

/-- `_optional_mapping_text`. -/
def optionalMappingText (payload : Payload) (key : String) : Except Fault (Option String) :=
  match payloadGet payload key with
  | none => .ok none
  | some (.str value) =>
    if isBlank value then .error (.valueError (key ++ " must be non-empty text when provided"))
    else .ok (some value)
  | some _ => .error (.valueError (key ++ " must be non-empty text when provided"))

/-- `_optional_mapping_int`, which takes a boolean for an integer. -/
def optionalMappingInt (payload : Payload) (key : String) : Except Fault (Option Int) :=
  match payloadGet payload key with
  | none => .ok none
  | some value => match intValue? (some value) with
    | some number => .ok (some number)
    | none => .error (.valueError (key ++ " must be int when provided"))

/-- `_dispatch_schedule_payload`. -/
def dispatchSchedulePayload (dispatchPayload : Payload) : Except Fault Payload :=
  match dispatchPayload.get "schedule_payload" with
  | some (.dict schedulePayload) => .ok schedulePayload
  | _ => .error (.valueError "dispatch payload schedule_payload must be mapping")

/-- `_allocation_mapping`. -/
def allocationMapping (dispatchPayload : Payload) : Except Fault Payload :=
  match dispatchPayload.get "llm_allocation" with
  | some (.dict allocation) => .ok allocation
  | _ => .error (.valueError "dispatch payload llm_allocation must be mapping")

/-- A text of the payload, else the given one. -/
def payloadTextOr (payload : Payload) (key fallback : String) : String :=
  match payload.get key with
  | some (.str value) => if isBlank value then fallback else value
  | _ => fallback

/-- A text of the payload, else the error. -/
def textOrFault (payload : Payload) (key message : String) : Except Fault String :=
  match payload.get key with
  | some (.str value) => if isBlank value then .error (.valueError message) else .ok value
  | _ => .error (.valueError message)

/-- `_dispatch_workflow_run_id`. -/
def dispatchWorkflowRunId (dispatchPayload : Payload) : Except Fault String := do
  let schedulePayload ← dispatchSchedulePayload dispatchPayload
  return payloadTextOr schedulePayload "workflow_run_id" "unknown-workflow-run"

/-- `_dispatch_work_item_id`. -/
def dispatchWorkItemId (dispatchPayload : Payload) : Except Fault String :=
  textOrFault dispatchPayload "work_item_id" "dispatch payload work_item_id must be non-empty"

/-- `_dispatch_attempt_id`. -/
def dispatchAttemptId (dispatchPayload : Payload) : String :=
  payloadTextOr dispatchPayload "attempt_id" "unknown-dispatch-attempt"

/-- `_dispatch_provider`. -/
def dispatchProvider (dispatchPayload : Payload) : Except Fault String := do
  let allocation ← allocationMapping dispatchPayload
  textOrFault allocation "provider" "llm_allocation provider must be non-empty"

/-- `_dispatch_model_ref`. -/
def dispatchModelRef (dispatchPayload : Payload) : Except Fault String := do
  let allocation ← allocationMapping dispatchPayload
  textOrFault allocation "model_ref" "llm_allocation model_ref must be non-empty"

/-- The content of a message of the given role. -/
def messageContent? (role : Option String) : PyValue → Option String
  | .dict message =>
    match Payload.get message "content" with
    | some (.str content) =>
      if role.all fun role => Payload.get message "role" = some (.str role) then some content
      else none
    | _ => none
  | _ => none

/-- `_source_user_message_content`. -/
def sourceUserMessageContent (dispatchPayload : Payload) : String :=
  match dispatchPayload.get "schedule_payload" with
  | some (.dict schedulePayload) => match Payload.get schedulePayload "provider_messages" with
    | some (.list messages) => (messages.findSome? (messageContent? (some "user"))).getD ""
    | _ => ""
  | _ => ""

/-- `_source_text_from_user_message`, where it is not blank. -/
def sourceTextFromUserMessage? (content : String) : Option String :=
  match afterEmptyLine? content.toList with
  | some text => if isBlank (String.ofList text) then none else some (String.ofList text)
  | none => none

/-- `provider_messages`, which must be a list. -/
def providerMessagesOf (schedulePayload : Payload) : Except Fault (List PyValue) :=
  match schedulePayload.get "provider_messages" with
  | some (.list messages) => .ok messages
  | _ => .error (.valueError "schedule_payload provider_messages must be list")

/-- `_source_unit_text`. -/
def sourceUnitText (dispatchPayload : Payload) : Except Fault String := do
  let schedulePayload ← dispatchSchedulePayload dispatchPayload
  let messages ← providerMessagesOf schedulePayload
  match messages.findSome? fun message =>
      (messageContent? (some "user") message).bind sourceTextFromUserMessage? with
  | some text => .ok text
  | none => .error (.valueError "source_unit_text missing from claim builder dispatch payload")

/-- `_source_context_text`. -/
def sourceContextText (dispatchPayload : Payload) : Except Fault String :=
  let fullUserMessage := sourceUserMessageContent dispatchPayload
  if isBlank fullUserMessage then sourceUnitText dispatchPayload else .ok fullUserMessage

/-- The reference in a line of a message. -/
def sourceUnitRefOfLine? (line : List Char) : Option String :=
  match afterPrefix? "source_unit_ref:".toList line with
  | some text =>
    let value := strip (String.ofList text)
    if value = "" then none else some value
  | none => none

/-- `_source_unit_ref`. -/
def sourceUnitRef (dispatchPayload : Payload) : Except Fault String := do
  let schedulePayload ← dispatchSchedulePayload dispatchPayload
  match ← optionalMappingText schedulePayload "source_unit_ref" with
  | some direct => .ok direct
  | none => do
    let messages ← providerMessagesOf schedulePayload
    match messages.findSome? fun message =>
        (messageContent? none message).bind fun content =>
          (splitlines content).findSome? sourceUnitRefOfLine? with
    | some value => .ok value
    | none => .error (.valueError "source_unit_ref missing from claim builder dispatch payload")

/-! `ClaimBuilderLlmDispatchOutputValidator` -/

/-- `json.loads`, where it does not raise `JSONDecodeError`. -/
abbrev JsonLoads := String → Option PyValue

/-- `_raw_output_text`. -/
def rawOutputText (outputPayload : Option Payload) : Option String :=
  match outputPayload.bind fun payload => payload.get "raw_text" with
  | some (.str text) => some text
  | _ => none

/-- `_decoded_claim_builder_output`. All decoded values are JSON. -/
def decodedClaimBuilderOutput (loads : JsonLoads) (outputPayload : Option Payload) :
    Except ClaimBuilderOutputValidationResult PyValue :=
  match outputPayload with
  | none => .error (retrySameRouteResult .outputNotObject)
  | some payload => match payload.get "raw_text" with
    | some (.str text) => match loads text with
      | some decoded => .ok decoded
      | none => .error (retrySameRouteResult .invalidJsonRetryRequired)
    | _ => .ok (.dict payload)

/-- `_is_output_truncated`: the first flag that is a boolean, else the reason. -/
def isOutputTruncated (outputPayload : Option Payload) : Bool :=
  match outputPayload with
  | none => false
  | some payload =>
    let flag? (key : String) : Option Bool :=
      match payload.get key with
      | some (.bool value) => some value
      | _ => none
    match ["output_truncated", "is_truncated", "truncated"].findSome? flag? with
    | some value => value
    | none => decide (payload.get "finish_reason" = some (.str "length"))

/-- The validation of a decoded output, with the value that was decoded. -/
def validateDecoded (loads : JsonLoads) (dispatchPayload : Payload)
    (outputPayload : Option Payload) (attemptNumber : Nat) :
    Except Fault (PyValue × ClaimBuilderOutputValidationResult) :=
  match decodedClaimBuilderOutput loads outputPayload with
  | .error result => .ok (.none, result)
  | .ok decoded => do
    let sourceText ← sourceContextText dispatchPayload
    let unitRef ← sourceUnitRef dispatchPayload
    if h : isBlank unitRef = false then
      return (decoded, validateOutput
        { outputPayload := decoded, sourceUnitText := sourceText, sourceUnitRef := unitRef
          emptyClaimsAttemptCount := attemptNumber - 1, sourceUnitRef_ne := h })
    else .error (.valueError "source_unit_ref must be non-empty")

/-- `ClaimBuilderLlmDispatchOutputValidator.validate` up to the decision. -/
def decideDispatch (loads : JsonLoads) (dispatchPayload : Payload) (outputPayload : Option Payload)
    (attemptNumber : Nat) : Except Fault ClaimBuilderAttemptDecision := do
  let (decoded, result) ← validateDecoded loads dispatchPayload outputPayload attemptNumber
  let workflowRunId ← dispatchWorkflowRunId dispatchPayload
  let workItemId ← dispatchWorkItemId dispatchPayload
  let provider ← dispatchProvider dispatchPayload
  let modelRef ← dispatchModelRef dispatchPayload
  let sourceText ← sourceContextText dispatchPayload
  if h : 0 < attemptNumber then
    return decideAttemptOutcome
      { workflowRunId, workItemId, dispatchAttemptId := dispatchAttemptId dispatchPayload
        attemptNumber, provider, modelRef, outputPayload := decoded
        rawOutputText := rawOutputText outputPayload, sourceUnitText := sourceText
        isOutputTruncated := isOutputTruncated outputPayload, validationResult := some result
        attemptNumber_pos := h }
  else .error (.valueError "attempt_number must be > 0")

/-- `ClaimBuilderLlmDispatchOutputValidator.validate` of a succeeded dispatch. -/
def validateDispatchOutput (loads : JsonLoads) (dispatchPayload : Payload)
    (outputPayload : Option Payload) (attemptNumber : Nat) :
    Except Fault LlmDispatchOutputValidationResult := do
  let decision ← decideDispatch loads dispatchPayload outputPayload attemptNumber
  return decisionToDispatchResult decision (decideNextAction decision)

/-! What a decision may be. -/

/-- The outcomes of an output that is not taken for truncated. -/
def ClaimBuilderAttemptOutcomeKind.IsOrdinary : ClaimBuilderAttemptOutcomeKind → Prop
  | .validClaims | .validEmpty | .retrySameRoute | .retryEmptyClaimsCheckModel => True
  | .retryFallbackModel | .retryLargerInputLimitModel | .retryLargerOutputLimitModel
  | .terminalInvalid => False

theorem outcomeKindOf_isOrdinary {decision : ClaimBuilderOutputValidationDecision}
    (h : decision.IsReachable) : (outcomeKindOf decision).IsOrdinary := by
  cases decision with
  | validClaims | validEmpty | retrySameRoute | retryEmptyClaimsCheckModel => trivial
  | retryFallbackModel | retryLargerOutputLimitModel | terminalInvalid => exact h.elim

theorem decideAttemptOutcome_isOrdinary {command : DecideClaimBuilderAttemptOutcomeCommand}
    (htruncated : command.isOutputTruncated = false)
    (hresult : ∀ result ∈ command.validationResult, result.decision.IsReachable) :
    (decideAttemptOutcome command).outcomeKind.IsOrdinary := by
  unfold decideAttemptOutcome
  rw [htruncated, if_neg Bool.false_ne_true]
  split
  · trivial
  · split
    · trivial
    · next result heq => exact outcomeKindOf_isOrdinary (hresult result heq)

theorem decodedClaimBuilderOutput_error {loads : JsonLoads} {outputPayload : Option Payload}
    {result : ClaimBuilderOutputValidationResult}
    (h : decodedClaimBuilderOutput loads outputPayload = .error result) :
    result.decision = .retrySameRoute := by
  unfold decodedClaimBuilderOutput at h
  split at h
  · cases h
    rfl
  · split at h
    · split at h
      · cases h
      · cases h
        rfl
    · cases h

variable {loads : JsonLoads} {dispatchPayload : Payload} {outputPayload : Option Payload}
  {attemptNumber : Nat}

theorem validateDecoded_isReachable {decoded : PyValue}
    {result : ClaimBuilderOutputValidationResult}
    (h : validateDecoded loads dispatchPayload outputPayload attemptNumber =
      .ok (decoded, result)) : result.decision.IsReachable := by
  unfold validateDecoded at h
  split at h
  · next failed hfailed =>
    cases h
    rw [decodedClaimBuilderOutput_error hfailed]
    trivial
  · obtain ⟨sourceText, _, h⟩ := bind_eq_ok.mp h
    obtain ⟨unitRef, _, h⟩ := bind_eq_ok.mp h
    split at h
    · cases h
      exact validateOutput_isReachable _
    · cases h

/-- The command a decision is made from, and the result of the validation in it. -/
theorem decideDispatch_eq_ok {decision : ClaimBuilderAttemptDecision}
    (h : decideDispatch loads dispatchPayload outputPayload attemptNumber = .ok decision) :
    ∃ (result : ClaimBuilderOutputValidationResult)
      (command : DecideClaimBuilderAttemptOutcomeCommand),
      validateDecoded loads dispatchPayload outputPayload attemptNumber =
          .ok (command.outputPayload, result) ∧
        decision = decideAttemptOutcome command ∧
        command.isOutputTruncated = isOutputTruncated outputPayload ∧
        command.validationResult = some result := by
  unfold decideDispatch at h
  obtain ⟨⟨decoded, result⟩, hvalidated, h⟩ := bind_eq_ok.mp h
  obtain ⟨workflowRunId, _, h⟩ := bind_eq_ok.mp h
  obtain ⟨workItemId, _, h⟩ := bind_eq_ok.mp h
  obtain ⟨provider, _, h⟩ := bind_eq_ok.mp h
  obtain ⟨modelRef, _, h⟩ := bind_eq_ok.mp h
  obtain ⟨sourceText, _, h⟩ := bind_eq_ok.mp h
  split at h
  · cases h
    exact ⟨result, _, hvalidated, rfl, rfl, rfl⟩
  · cases h

/-- An output that is not taken for truncated has an ordinary outcome. -/
theorem decideDispatch_isOrdinary {decision : ClaimBuilderAttemptDecision}
    (htruncated : isOutputTruncated outputPayload = false)
    (h : decideDispatch loads dispatchPayload outputPayload attemptNumber = .ok decision) :
    decision.outcomeKind.IsOrdinary := by
  obtain ⟨result, command, hvalidated, rfl, hflag, hresult⟩ := decideDispatch_eq_ok h
  apply decideAttemptOutcome_isOrdinary (hflag.trans htruncated)
  intro other hother
  rw [hresult] at hother
  cases hother
  exact validateDecoded_isReachable hvalidated

/-- The claims of a decision are not empty exactly when they are valid. -/
theorem ClaimBuilderAttemptDecision.claims_ne_nil_iff (decision : ClaimBuilderAttemptDecision) :
    decision.claims ≠ [] ↔ decision.outcomeKind = .validClaims := by
  obtain ⟨outcomeKind, _, _, claims, _, _, shape⟩ := decision
  cases outcomeKind with
  | validClaims => exact iff_of_true shape.1 rfl
  | validEmpty | retrySameRoute | retryEmptyClaimsCheckModel | retryFallbackModel
  | retryLargerInputLimitModel | retryLargerOutputLimitModel | terminalInvalid =>
    exact iff_of_false (not_not.mpr shape.1) nofun

/-! The entries of the metadata. -/

variable (decision : ClaimBuilderAttemptDecision) (nextAction : ClaimBuilderAttemptNextAction)

@[simp] theorem get_nextActionKind_decisionMetadata :
    (decisionMetadata decision nextAction).get "claim_builder_attempt_next_action_kind" =
      some (.json (.str nextAction.kind.value)) := rfl

@[simp] theorem get_shouldPersist_decisionMetadata :
    (decisionMetadata decision nextAction).get "claim_builder_should_persist_claims" =
      some (.json (.bool nextAction.shouldPersistClaims)) := rfl

@[simp] theorem get_shouldMark_decisionMetadata :
    (decisionMetadata decision nextAction).get "claim_builder_should_mark_work_item_completed" =
      some (.json (.bool nextAction.shouldMarkWorkItemCompleted)) := rfl

@[simp] theorem get_validatedClaims_decisionMetadata :
    (decisionMetadata decision nextAction).get "_validated_claims" =
      some (.claims decision.claims) := rfl

end CrmBot.ClaimBuilder
