import CrmBot.ClaimBuilder.ExecuteSection

/-! Responses that the provider cut off.

Their `finish_reason` is "length". The mapper does not read it, so a response
that was cut off is judged by its text alone. -/

namespace CrmBot.ClaimBuilder

open Relational CrmBot.Python CrmBot.ExecutionRuntime CrmBot.LlmRuntime CrmBot.WorkflowRuntime
open FailingFold

/-- A successful response whose first choice was cut off. -/
structure TruncatedResponse extends GroqProviderHttpResponse where
  success : toGroqProviderHttpResponse.isSuccess = true
  truncated : finishReason body = some (.str "length")

/-- The provider call of `GroqDispatchExecutor`: the route is parsed from the
dispatch payload. A payload that cannot be parsed is answered without a call. -/
def groqExecuteDispatch (parseRoute : DispatchForExecution → Option DispatchedRoute)
    (startedAt observedAt : Int) (response : GroqProviderHttpResponse) : ExecuteDispatch :=
  fun dispatch => match parseRoute dispatch with
    | some route => .ok (groqDispatchResult route observedAt response)
    | none => .ok (terminalInvalidDispatchPayload startedAt)

def attemptOutcome (store : ExecutionStore) (attemptId : String) : Option AttemptOutcomeStatus :=
  (store.attempts.find? attemptId).bind AttemptRow.outcomeStatus

/-- The attempt ended as one whose output was cut off: terminally, or with a retry
on a larger output or a split. -/
def TreatedAsTruncated (store : ExecutionStore) (attemptId : String) : Prop :=
  attemptOutcome store attemptId = some .terminalFailed ∨
    (attemptOutcome store attemptId = some .retryableFailed ∧
      ∃ attempt row, store.attempts.find? attemptId = some attempt ∧
        store.workItems.find? attempt.workItemId = some row ∧
        (row.item.retryPlan = some .retryLargerOutputLimitRoute ∨
          row.item.retryPlan = some .splitWorkPayload))

/-- A response that was cut off is refused. -/
structure TruncationRefused (state : SectionState) (command : SectionCommand) : Prop where
  notAccepted : attemptOutcome state.store command.dispatchAttemptId ≠ some .succeeded
  notCompleted : itemStatus state.store command.workItemId ≠ some .completed
  treated : TreatedAsTruncated state.store command.dispatchAttemptId

/-! The output has no trace of the reason. -/

theorem isOutputTruncated_groqOutputPayload (route : DispatchedRoute) (rawText : String)
    (usage : Option TokenUsage) :
    isOutputTruncated (some (groqOutputPayload route rawText usage)) = false := by
  have hnone : ∀ key ∈ ["output_truncated", "is_truncated", "truncated", "finish_reason"],
      (groqOutputPayload route rawText usage).get key = none := by
    intro key hkey
    apply get_groqOutputPayload_eq_none
    intro hmem
    revert key
    decide
  have hflag := hnone "output_truncated" (by decide)
  have hcut := hnone "is_truncated" (by decide)
  have htruncated := hnone "truncated" (by decide)
  have hreason := hnone "finish_reason" (by decide)
  simp [isOutputTruncated, hflag, hcut, htruncated, hreason]

/-- The verdict of an ordinary outcome: the answer is accepted, or asked for again
on the same route or from the check model. -/
theorem ordinary_verdict {decision : ClaimBuilderAttemptDecision}
    (hordinary : decision.outcomeKind.IsOrdinary) {llmResult : LlmDispatchExecutionResult}
    (hstatus : llmResult.status =
      (decisionToDispatchResult decision (decideNextAction decision)).status) :
    llmResult.status = .succeeded ∨ llmResult.status = .retryableFailed ∧
      (retryPlanForResult llmResult (some (decisionMetadata decision (decideNextAction decision))) =
          some .retrySameRoute ∨
        retryPlanForResult llmResult
          (some (decisionMetadata decision (decideNextAction decision))) =
            some .retryValidationCheckRoute) := by
  unfold decisionToDispatchResult at hstatus
  unfold retryPlanForResult retryPlanFromValidationMetadata decideNextAction
  cases hkind : decision.outcomeKind with
  | validClaims | validEmpty =>
    rw [hkind] at hstatus
    exact .inl hstatus
  | retrySameRoute =>
    rw [hkind] at hstatus
    rw [hstatus]
    exact .inr ⟨rfl, .inl rfl⟩
  | retryEmptyClaimsCheckModel =>
    rw [hkind] at hstatus
    rw [hstatus]
    exact .inr ⟨rfl, .inr rfl⟩
  | retryFallbackModel | retryLargerInputLimitModel | retryLargerOutputLimitModel
  | terminalInvalid =>
    rw [hkind] at hordinary
    exact hordinary.elim

variable {loads : JsonLoads} {store next : ExecutionStore} {dispatch : DispatchForExecution}
  {parseRoute : DispatchForExecution → Option DispatchedRoute} {route : DispatchedRoute}
  {startedAt observedAt now : Int} {result : ExecuteAttemptResult}

/-- The verdict on a response that was cut off is an ordinary one. -/
theorem truncated_verdict (response : TruncatedResponse) {provider : LlmDispatchExecutionResult}
    (hroute : parseRoute dispatch = some route)
    (hprovider : groqExecuteDispatch parseRoute startedAt observedAt
      response.toGroqProviderHttpResponse dispatch = .ok provider)
    (hvalidated : validatedLlmResult loads dispatch provider =
      .ok (result.llmResult, result.validationMetadata)) :
    result.llmResult.status = .succeeded ∨ result.llmResult.status = .retryableFailed ∧
      (retryPlanForResult result.llmResult result.validationMetadata = some .retrySameRoute ∨
        retryPlanForResult result.llmResult result.validationMetadata =
          some .retryValidationCheckRoute) := by
  unfold groqExecuteDispatch at hprovider
  rw [hroute] at hprovider
  obtain rfl := Except.ok.inj hprovider
  obtain ⟨hsucceeded, _, hpayload⟩ :=
    groqDispatchResult_of_isSuccess route observedAt response.success
  obtain ⟨decision, hdecision, hstatus, hmetadata⟩ :=
    validatedLlmResult_of_succeeded hsucceeded hvalidated
  rw [hmetadata]
  apply ordinary_verdict _ hstatus
  apply decideDispatch_isOrdinary _ hdecision
  rw [hpayload]
  exact isOutputTruncated_groqOutputPayload _ _ _

/-- The store after a new outcome of such a response. -/
theorem not_treated_of_executeUnrecorded (response : TruncatedResponse)
    (hroute : parseRoute dispatch = some route)
    (h : executeUnrecorded loads
      (groqExecuteDispatch parseRoute startedAt observedAt response.toGroqProviderHttpResponse)
      store dispatch now = .ok (result, next)) :
    ¬ TreatedAsTruncated next dispatch.attemptId ∧
      (attemptOutcome next dispatch.attemptId = some .succeeded ∨
        itemStatus next dispatch.workItemId = some .retryableFailed) := by
  obtain ⟨provider, row, attempt, hprovider, _, hvalidated, hrecorded⟩ := executeUnrecorded_eq_ok h
  have houtcome : attemptOutcome next dispatch.attemptId =
      some (mapStatus result.llmResult.status) := by
    have hattempt := hrecorded.next_attempt
    change next.attempts.find? dispatch.attemptId = _ at hattempt
    unfold attemptOutcome
    rw [hattempt]
    rfl
  rcases truncated_verdict response hroute hprovider hvalidated with hsucceeded | ⟨hretry, hplan⟩
  · rw [hsucceeded] at houtcome
    refine ⟨?_, .inl houtcome⟩
    rintro (hterminal | ⟨hretryable, _⟩)
    · rw [houtcome] at hterminal
      cases hterminal
    · rw [houtcome] at hretryable
      cases hretryable
  · rw [hretry] at houtcome
    obtain ⟨hstatus, hitem⟩ := retryPlan_of_outcomeRecorded hrecorded hretry
    have hrow : next.workItems.find? dispatch.workItemId =
        some (row.setLifecycle result.workItem result.workItem.retryPlan now) := hrecorded.next_row
    refine ⟨?_, .inr ?_⟩
    · rintro (hterminal | ⟨_, found, kept, hfound, hkept, hlarger⟩)
      · rw [houtcome] at hterminal
        cases hterminal
      · have hattempt : next.attempts.find? dispatch.attemptId = some (attempt.withOutcome _) :=
          hrecorded.next_attempt
        rw [hattempt] at hfound
        cases hfound
        have hsame : (attempt.withOutcome (outcomeRecord dispatch provider result.llmResult
            result.validationMetadata)).workItemId = dispatch.workItemId := hrecorded.attempt_item
        rw [hsame, hrow] at hkept
        cases hkept
        change result.workItem.retryPlan = _ ∨ result.workItem.retryPlan = _ at hlarger
        rw [hitem] at hlarger
        rcases hplan with hsame | hcheck
        · rw [hsame] at hlarger
          rcases hlarger with heq | heq <;> cases heq
        · rw [hcheck] at hlarger
          rcases hlarger with heq | heq <;> cases heq
    · unfold itemStatus
      rw [hrow]
      exact congrArg some hstatus

/-- A completion changes nothing about the outcome, and an item that is to be
retried is not completed. -/
theorem not_treated_of_complete {attemptId workItemId leaseToken : String} {item : WorkItem}
    (hended : attemptOutcome store attemptId = some .succeeded ∨
      itemStatus store workItemId = some .retryableFailed)
    (h : completeWorkItemAfterDomainApply store workItemId leaseToken now = .ok (item, next)) :
    ¬ TreatedAsTruncated next attemptId := by
  obtain ⟨hleased, hattempts, _, _, _⟩ := completeWorkItemAfterDomainApply_eq_ok h
  have houtcome : attemptOutcome next attemptId = attemptOutcome store attemptId := by
    unfold attemptOutcome
    rw [hattempts]
  rcases hended with hsucceeded | hretryable
  · rintro (hterminal | ⟨hretry, _⟩)
    · rw [houtcome, hsucceeded] at hterminal
      cases hterminal
    · rw [houtcome, hsucceeded] at hretry
      cases hretry
  · rw [hleased.itemStatus_eq] at hretryable
    cases hretryable

/-- No response that was cut off is ever refused. The provider has given it, so the dispatch
payload was parsed. -/
theorem truncated_not_refused (settings : SectionSettings) (state : SectionState)
    {command : WorkflowCommand} {ids : SectionCommand} (hcommand : sectionCommand command = .ok ids)
    (hopen : attemptOutcome state.store ids.dispatchAttemptId = none)
    (response : TruncatedResponse) (parseRoute : DispatchForExecution → Option DispatchedRoute)
    (hparsed : ∀ dispatch, dispatch.attemptId = ids.dispatchAttemptId →
      (parseRoute dispatch).isSome = true)
    (startedAt observedAt : Int) (execution : SectionExecution) :
    ¬ TruncationRefused
      (handleExecuteClaimBuilderSection settings state command
        { execution with
          executeDispatch := groqExecuteDispatch parseRoute startedAt observedAt
            response.toGroqProviderHttpResponse })
      ids := by
  have hunrecorded : getRecordedAttemptOutcome state.store ids.dispatchAttemptId = .ok none := by
    apply getRecordedAttemptOutcome_of_open
    intro attempt hattempt
    unfold attemptOutcome at hopen
    rwa [hattempt] at hopen
  have hkept : ¬ TreatedAsTruncated state.store ids.dispatchAttemptId := by
    rintro (hterminal | ⟨hretry, _⟩)
    · rw [hopen] at hterminal
      cases hterminal
    · rw [hopen] at hretry
      cases hretry
  intro hrefused
  have htreated := hrefused.treated
  unfold handleExecuteClaimBuilderSection at htreated
  rw [hcommand] at htreated
  rcases store_runSection with hsame | ⟨result, store, hexecute, hending⟩
  · dsimp only at htreated
    rw [hsame] at htreated
    exact hkept htreated
  · obtain ⟨dispatch, _, hid, hcases⟩ := executePreparedLlmDispatchAttempt_cases hexecute
    rcases hcases with ⟨_, hrecorded, _⟩ | ⟨_, hnew⟩
    · rw [hunrecorded] at hrecorded
      cases hrecorded
    · obtain ⟨route, hroute⟩ := Option.isSome_iff_exists.mp (hparsed dispatch hid)
      obtain ⟨hnot, hended⟩ := not_treated_of_executeUnrecorded response hroute hnew
      obtain ⟨_, _, _, _, hdispatch, _⟩ := executeUnrecorded_eq_ok hnew
      rw [hid] at hnot hended
      rcases hending with hstore | ⟨hitem, item, hcomplete⟩
      · dsimp only at htreated
        rw [hstore] at htreated
        exact hnot htreated
      · rw [hdispatch] at hitem
        rw [hitem] at hended
        exact not_treated_of_complete hended hcomplete htreated

/-- An answer that was cut off after its last bracket. -/
def skyResponse : TruncatedResponse where
  statusCode := 200
  unavailableUntil := none
  body := [("choices", .list [.dict [("finish_reason", .str "length"),
    ("message", .dict [("content", .str skyAnswer)])]])]
  statusCode_ge := by decide
  success := by decide
  truncated := by decide

def skyExecution : SectionExecution where
  executeDispatch := groqExecuteDispatch (fun _ => some ⟨"groq", "model", "account"⟩) 9 10
    skyResponse.toGroqProviderHttpResponse
  recordedAt := 11
  createdAt := 12
  completedAt := 13
  abort := none

def skySettings : SectionSettings where
  loads := skyLoads
  sha256 := id
  ownTransaction := false

theorem truncated_not_refused_sky :
    ¬ TruncationRefused (handleExecuteClaimBuilderSection skySettings skySection skyCommand
      skyExecution) skyIds :=
  truncated_not_refused skySettings skySection (by decide) (by decide) skyResponse
    (fun _ => some ⟨"groq", "model", "account"⟩) (fun _ _ => rfl) 9 10 skyExecution

/-- The answer is accepted, its claim is kept and the item is completed. -/
theorem skyResponse_accepted :
    attemptOutcome (handleExecuteClaimBuilderSection skySettings skySection skyCommand
        skyExecution).store "attempt" = some .succeeded ∧
      itemStatus (handleExecuteClaimBuilderSection skySettings skySection skyCommand
        skyExecution).store "item" = some .completed ∧
      (handleExecuteClaimBuilderSection skySettings skySection skyCommand
        skyExecution).drafts.rows.map DraftClaimRow.claim = ["The sky is blue"] ∧
      ¬ TruncationRefused (handleExecuteClaimBuilderSection skySettings skySection skyCommand
        skyExecution) skyIds := by
  have hrun : attemptOutcome (handleExecuteClaimBuilderSection skySettings skySection
        skyCommand skyExecution).store "attempt" = some .succeeded ∧
      itemStatus (handleExecuteClaimBuilderSection skySettings skySection skyCommand
        skyExecution).store "item" = some .completed ∧
      (handleExecuteClaimBuilderSection skySettings skySection skyCommand
        skyExecution).drafts.rows.map DraftClaimRow.claim = ["The sky is blue"] := by
    decide +kernel
  obtain ⟨houtcome, hstatus, hclaims⟩ := hrun
  refine ⟨houtcome, hstatus, hclaims, ?_⟩
  intro hrefused
  exact hrefused.notAccepted houtcome

end CrmBot.ClaimBuilder
