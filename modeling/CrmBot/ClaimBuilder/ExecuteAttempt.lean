import CrmBot.ClaimBuilder.AttemptDecision
import CrmBot.ExecutionRuntime.RecordedOutcome

/-! `ExecutePreparedLlmDispatchAttempt`: a dispatch is sent once, and its outcome
is read back when it is executed again. -/

namespace CrmBot.ClaimBuilder

open Relational CrmBot.Python CrmBot.ExecutionRuntime CrmBot.LlmRuntime FailingFold

/-- `ExecutePreparedLlmDispatchAttemptResult` -/
structure ExecuteAttemptResult where
  dispatch : DispatchForExecution
  llmResult : LlmDispatchExecutionResult
  workItem : WorkItem
  validationMetadata : Option ValidationMetadata

/-- `_map_status`. -/
def mapStatus : LlmDispatchExecutionStatus → AttemptOutcomeStatus
  | .succeeded => .succeeded
  | .retryableFailed => .retryableFailed
  | .terminalFailed => .terminalFailed

/-- `_map_recorded_outcome_status`. -/
def mapRecordedOutcomeStatus : AttemptOutcomeStatus → LlmDispatchExecutionStatus
  | .succeeded => .succeeded
  | .retryableFailed => .retryableFailed
  | .terminalFailed => .terminalFailed

theorem mapStatus_eq_succeeded_iff {status : LlmDispatchExecutionStatus} :
    mapStatus status = .succeeded ↔ status = .succeeded := by
  cases status <;> decide

theorem mapRecordedOutcomeStatus_eq_succeeded_iff {status : AttemptOutcomeStatus} :
    mapRecordedOutcomeStatus status = .succeeded ↔ status = .succeeded := by
  cases status <;> decide

/-! The metadata that is recorded. -/

/-- `json.loads(json.dumps(value))`, where `value` can be dumped: a claim cannot,
the empty tuple can. -/
def MetadataValue.recordable : MetadataValue → Option PyValue
  | .json value => some value
  | .claims [] => some (.list [])
  | .claims (_ :: _) => none

/-- `key.startswith("_")`. -/
def isPrivateKey (key : String) : Bool := key.toList.head? = some '_'

/-- The entries that are kept. -/
def recordableEntries (metadata : ValidationMetadata) : List (String × PyValue) :=
  metadata.filterMap fun entry =>
    if isPrivateKey entry.1 then none else entry.2.recordable.map fun value => (entry.1, value)

/-- `_recordable_validation_metadata`. -/
def recordableValidationMetadata (metadata : Option ValidationMetadata) : Option Payload :=
  metadata.map fun metadata => Payload.ofEntries (recordableEntries metadata)

/-- Recorded metadata as it is given back. -/
def recordedMetadata (payload : Payload) : ValidationMetadata :=
  payload.map fun entry => (entry.1, .json entry.2)

/-! Recorded outcomes. -/

/-- `_llm_result_from_recorded_outcome`. -/
def llmResultFromRecordedOutcome (recorded : RecordedAttemptOutcome) :
    Except Fault LlmDispatchExecutionResult :=
  if recorded.errorKind.any isBlank then .error (.valueError "error_kind must be non-empty")
  else .ok {
    status := mapRecordedOutcomeStatus recorded.outcomeStatus
    finishedAt := recorded.finishedAt
    outputPayload :=
      if mapRecordedOutcomeStatus recorded.outcomeStatus = .succeeded then
        some [("already_recorded", .bool true)]
      else none
    errorKind := recorded.errorKind
    outputPayload_of_succeeded := fun h => by rw [if_pos h]; rfl
    errorKind_iff := by rw [recorded.errorKind_iff, Ne, Ne,
      mapRecordedOutcomeStatus_eq_succeeded_iff] }

/-! New outcomes. -/

/-- `_effective_llm_result` of a validated output. -/
def effectiveLlmResult (provider : LlmDispatchExecutionResult)
    (hsucceeded : provider.status = .succeeded) (validation : LlmDispatchOutputValidationResult) :
    LlmDispatchExecutionResult where
  status := validation.status
  finishedAt := provider.finishedAt
  outputPayload := provider.outputPayload
  errorKind := validation.errorKind
  outputPayload_of_succeeded := fun _ => provider.outputPayload_of_succeeded hsucceeded
  errorKind_iff := validation.errorKind_iff

/-- `_validate_output_if_requested` and `_effective_llm_result`: only the output
of a succeeded call is validated. -/
def validatedLlmResult (loads : JsonLoads) (dispatch : DispatchForExecution)
    (provider : LlmDispatchExecutionResult) :
    Except Fault (LlmDispatchExecutionResult × Option ValidationMetadata) :=
  if h : provider.status = .succeeded then do
    let validation ← validateDispatchOutput loads dispatch.dispatchPayload provider.outputPayload
      dispatch.attemptNumber
    return (effectiveLlmResult provider h validation, some validation.metadata)
  else .ok (provider, none)

/-- The retry plans of the next actions that have one. -/
def retryPlanOfNextAction : List (ClaimBuilderAttemptNextActionKind × WorkItemRetryPlan) :=
  [(.retrySameRoute, .retrySameRoute),
    (.retryEmptyClaimsCheckModel, .retryValidationCheckRoute),
    (.retryFallbackModel, .retryDailyFallbackRoute),
    (.retryLargerOutputLimitModel, .retryLargerOutputLimitRoute),
    (.retryLargerInputLimitModel, .retryLargerInputLimitRoute),
    (.deferUntilCapacityReset, .waitNearestAdmissionWindow),
    (.pauseForDailyLimitReset, .waitDailyAdmissionReset),
    (.splitWorkPayload, .splitWorkPayload),
    (.terminalFailure, .terminal)]

/-- `_retry_plan_from_validation_metadata`. -/
def retryPlanFromValidationMetadata (metadata : Option ValidationMetadata) :
    Option WorkItemRetryPlan :=
  match metadata.bind fun metadata => metadata.get "claim_builder_attempt_next_action_kind" with
  | some (.json (.str kind)) =>
    (retryPlanOfNextAction.find? fun entry => entry.1.value = kind).map Prod.snd
  | _ => none

/-- The plan after an error of the provider. -/
def retryPlanOfErrorKind (errorKind : Option String) : WorkItemRetryPlan :=
  if errorKind = some "request_too_large" then .retryLargerInputLimitRoute
  else if errorKind = some "output_too_large" then .retryLargerOutputLimitRoute
  else if errorKind = some "daily_limit" then .retryDailyFallbackRoute
  else if errorKind = some "minute_limit" then .waitNearestAdmissionWindow
  else .retrySameRoute

/-- `_retry_plan_for_result`. -/
def retryPlanForResult (result : LlmDispatchExecutionResult)
    (metadata : Option ValidationMetadata) : Option WorkItemRetryPlan :=
  match result.status with
  | .succeeded | .terminalFailed => none
  | .retryableFailed =>
    some ((retryPlanFromValidationMetadata metadata).getD (retryPlanOfErrorKind result.errorKind))

theorem isSome_retryPlanForResult_iff (result : LlmDispatchExecutionResult)
    (metadata : Option ValidationMetadata) :
    (retryPlanForResult result metadata).isSome = true ↔
      mapStatus result.status = .retryableFailed := by
  unfold retryPlanForResult
  cases result.status with
  | succeeded | terminalFailed => exact iff_of_false nofun nofun
  | retryableFailed => exact iff_of_true rfl rfl

/-- The record of a result. -/
def outcomeRecord (dispatch : DispatchForExecution) (provider result : LlmDispatchExecutionResult)
    (metadata : Option ValidationMetadata) : AttemptOutcomeRecord where
  attemptId := dispatch.attemptId
  workItemId := dispatch.workItemId
  attemptNumber := dispatch.attemptNumber
  leaseToken := dispatch.leaseToken
  finishedAt := result.finishedAt
  outcomeStatus := mapStatus result.status
  errorKind := result.errorKind
  retryPlan := retryPlanForResult result metadata
  validationMetadata := recordableValidationMetadata metadata
  llmOutputPayload := provider.outputPayload
  errorKind_iff := by rw [result.errorKind_iff, Ne, Ne, mapStatus_eq_succeeded_iff]
  retryPlan_iff := isSome_retryPlanForResult_iff result metadata

/-- The checks of `LlmDispatchExecutionInput`. -/
def requireDispatchKeys (dispatchPayload : Payload) : Except Fault Unit :=
  match ["llm_allocation", "llm_execution_settings", "schedule_payload", "work_item_id"].filter
      fun key => (dispatchPayload.get key).isNone with
  | [] => .ok ()
  | missing => .error (.valueError
      ("dispatch_payload missing required keys: " ++ String.intercalate ", " missing))

/-- The provider call of a dispatch, which may raise. -/
abbrev ExecuteDispatch := DispatchForExecution → Except Fault LlmDispatchExecutionResult

/-- The execution of an attempt for which nothing is recorded. -/
def executeUnrecorded (loads : JsonLoads) (executeDispatch : ExecuteDispatch)
    (store : ExecutionStore) (dispatch : DispatchForExecution) (now : Int) :
    Except Fault (ExecuteAttemptResult × ExecutionStore) := do
  requireDispatchKeys dispatch.dispatchPayload
  let provider ← executeDispatch dispatch
  let (llmResult, metadata) ← validatedLlmResult loads dispatch provider
  let (workItem, next) ← recordAttemptOutcome store
    (outcomeRecord dispatch provider llmResult metadata) now
  return ({ dispatch, llmResult, workItem, validationMetadata := metadata }, next)

/-- What a recorded attempt answers. -/
def recordedResult (dispatch : DispatchForExecution) (recorded : RecordedAttemptOutcome) :
    Except Fault ExecuteAttemptResult := do
  let llmResult ← llmResultFromRecordedOutcome recorded
  return {
    dispatch, llmResult, workItem := recorded.workItem
    validationMetadata := recorded.validationMetadata.map recordedMetadata }

/-- `ExecutePreparedLlmDispatchAttempt.execute`. -/
def executePreparedLlmDispatchAttempt (loads : JsonLoads) (executeDispatch : ExecuteDispatch)
    (store : ExecutionStore) (attemptId : String) (now : Int) :
    Except Fault (ExecuteAttemptResult × ExecutionStore) := do
  match ← getDispatchForExecution store attemptId with
  | none => .error (.valueError "dispatch attempt not found")
  | some dispatch => match ← getRecordedAttemptOutcome store dispatch.attemptId with
    | some recorded => do
      let result ← recordedResult dispatch recorded
      return (result, store)
    | none => executeUnrecorded loads executeDispatch store dispatch now

/-! What an execution does. -/

variable {loads : JsonLoads} {executeDispatch : ExecuteDispatch} {store next : ExecutionStore}
  {attemptId : String} {now : Int} {dispatch : DispatchForExecution}
  {result : ExecuteAttemptResult}

/-- Either the recorded outcome is answered, or a new one is recorded. -/
theorem executePreparedLlmDispatchAttempt_cases
    (h : executePreparedLlmDispatchAttempt loads executeDispatch store attemptId now =
      .ok (result, next)) :
    ∃ dispatch, getDispatchForExecution store attemptId = .ok (some dispatch) ∧
      dispatch.attemptId = attemptId ∧
      ((∃ recorded, getRecordedAttemptOutcome store attemptId = .ok (some recorded) ∧
          recordedResult dispatch recorded = .ok result ∧ next = store) ∨
        (getRecordedAttemptOutcome store attemptId = .ok none ∧
          executeUnrecorded loads executeDispatch store dispatch now = .ok (result, next))) := by
  unfold executePreparedLlmDispatchAttempt at h
  obtain ⟨found, hfound, h⟩ := bind_eq_ok.mp h
  cases found with
  | none => cases h
  | some dispatch =>
    obtain ⟨_, _, _, _, hid, _⟩ := getDispatchForExecution_eq_some hfound
    refine ⟨dispatch, hfound, hid, ?_⟩
    dsimp only at h
    rw [hid] at h
    obtain ⟨recorded?, hrecorded, h⟩ := bind_eq_ok.mp h
    cases recorded? with
    | none => exact .inr ⟨hrecorded, h⟩
    | some recorded =>
      obtain ⟨answer, hanswer, h⟩ := bind_eq_ok.mp h
      cases h
      exact .inl ⟨recorded, hrecorded, hanswer, rfl⟩

/-- A new outcome is the validated answer of the provider. -/
theorem executeUnrecorded_eq_ok
    (h : executeUnrecorded loads executeDispatch store dispatch now = .ok (result, next)) :
    ∃ provider row attempt, executeDispatch dispatch = .ok provider ∧ result.dispatch = dispatch ∧
      validatedLlmResult loads dispatch provider =
        .ok (result.llmResult, result.validationMetadata) ∧
      OutcomeRecorded store
        (outcomeRecord dispatch provider result.llmResult result.validationMetadata) now
        result.workItem next row attempt := by
  unfold executeUnrecorded at h
  obtain ⟨_, _, h⟩ := bind_eq_ok.mp h
  obtain ⟨provider, hprovider, h⟩ := bind_eq_ok.mp h
  obtain ⟨⟨llmResult, metadata⟩, hvalidated, h⟩ := bind_eq_ok.mp h
  obtain ⟨⟨workItem, after⟩, hrecord, h⟩ := bind_eq_ok.mp h
  obtain ⟨row, attempt, hrecorded⟩ := outcomeRecorded_of_recordAttemptOutcome hrecord
  cases h
  exact ⟨provider, row, attempt, hprovider, rfl, hvalidated, hrecorded⟩

theorem metadata_decisionToDispatchResult (decision : ClaimBuilderAttemptDecision)
    (nextAction : ClaimBuilderAttemptNextAction) :
    (decisionToDispatchResult decision nextAction).metadata =
      decisionMetadata decision nextAction := by
  unfold decisionToDispatchResult
  dsimp only
  split
  · rfl
  · rfl
  · rfl
  · rfl

/-- The answer of a succeeded call is judged by the decision on its output. -/
theorem validatedLlmResult_of_succeeded {provider llmResult : LlmDispatchExecutionResult}
    {metadata : Option ValidationMetadata} (hsucceeded : provider.status = .succeeded)
    (h : validatedLlmResult loads dispatch provider = .ok (llmResult, metadata)) :
    ∃ decision, decideDispatch loads dispatch.dispatchPayload provider.outputPayload
        dispatch.attemptNumber = .ok decision ∧
      llmResult.status = (decisionToDispatchResult decision (decideNextAction decision)).status ∧
      metadata = some (decisionMetadata decision (decideNextAction decision)) := by
  unfold validatedLlmResult at h
  rw [dif_pos hsucceeded] at h
  obtain ⟨validation, hvalidation, h⟩ := bind_eq_ok.mp h
  unfold validateDispatchOutput at hvalidation
  obtain ⟨decision, hdecision, hresult⟩ := bind_eq_ok.mp hvalidation
  cases h
  cases hresult
  exact ⟨decision, hdecision, rfl, congrArg some (metadata_decisionToDispatchResult _ _)⟩

/-- The plan that is kept is the plan of the result. -/
theorem retryPlan_of_outcomeRecorded {provider llmResult : LlmDispatchExecutionResult}
    {metadata : Option ValidationMetadata} {item : WorkItem} {row : WorkItemRow}
    {attempt : AttemptRow}
    (h : OutcomeRecorded store (outcomeRecord dispatch provider llmResult metadata) now item next
      row attempt) (hretry : llmResult.status = .retryableFailed) :
    item.status = .retryableFailed ∧ item.retryPlan = retryPlanForResult llmResult metadata := by
  have htransition := h.transition
  unfold transitionWorkItem at htransition
  have houtcome : (outcomeRecord dispatch provider llmResult metadata).outcomeStatus =
      .retryableFailed := congrArg mapStatus hretry
  rw [houtcome] at htransition
  split at htransition
  · next heq => cases heq
  · cases htransition
  · split at htransition
    · cases htransition
    · next plan hplan =>
      obtain ⟨_, _, hitem⟩ := bind_eq_ok.mp htransition
      obtain ⟨_, _, hitem⟩ := bind_eq_ok.mp hitem
      cases hitem
      exact ⟨rfl, hplan.symm⟩
  · next heq _ => cases heq

end CrmBot.ClaimBuilder
