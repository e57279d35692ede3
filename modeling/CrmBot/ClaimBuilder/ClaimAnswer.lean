import CrmBot.ClaimBuilder.ClaimReplay

/-! Executions that record a new outcome. -/

namespace CrmBot.ClaimBuilder

open Relational CrmBot.Python CrmBot.ExecutionRuntime CrmBot.LlmRuntime CrmBot.WorkflowRuntime
open FailingFold

section NewOutcome

variable {loads : JsonLoads} {dispatch : DispatchForExecution}
  {provider llmResult : LlmDispatchExecutionResult} {metadata : Option ValidationMetadata}

/-- The metadata of an answer is that of a decision, if there is any. -/
theorem metadata_of_validated
    (h : validatedLlmResult loads dispatch provider = .ok (llmResult, metadata)) :
    metadata = none ∨ (provider.status = .succeeded ∧ ∃ decision,
      decideDispatch loads dispatch.dispatchPayload provider.outputPayload
        dispatch.attemptNumber = .ok decision ∧
      llmResult.status = (decisionToDispatchResult decision (decideNextAction decision)).status ∧
      metadata = some (metadataOf decision)) := by
  by_cases hsucceeded : provider.status = .succeeded
  · exact .inr ⟨hsucceeded, validatedLlmResult_of_succeeded hsucceeded h⟩
  · unfold validatedLlmResult at h
    rw [dif_neg hsucceeded] at h
    cases h
    exact .inl rfl

theorem status_of_marks {decision : ClaimBuilderAttemptDecision}
    (hmarks : shouldMarkWorkItemCompleted (some (metadataOf decision)) = true) :
    (decisionToDispatchResult decision (decideNextAction decision)).status = .succeeded := by
  unfold decisionToDispatchResult
  rcases shouldMark_metadataOf.mp hmarks with hkind | hkind
  · rw [hkind]
  · rw [hkind]

/-- An answer that does not complete the item persists nothing. -/
theorem persist_of_not_marks {sha256 : String → String} {createdAt : Int} {drafts : DraftClaims}
    {ids : SectionCommand} {result : ExecuteAttemptResult}
    (hvalidated : validatedLlmResult loads dispatch provider =
      .ok (result.llmResult, result.validationMetadata))
    (hmarks : shouldMarkWorkItemCompleted result.validationMetadata = false) :
    persistValidatedDraftClaims sha256 createdAt drafts ids result = .ok drafts := by
  apply persist_of_no_claims
  rcases metadata_of_validated hvalidated with hnone | ⟨_, decision, _, _, hmetadata⟩
  · rw [hnone]
    rfl
  · rw [hmetadata, validatedClaims_metadataOf]
    by_contra hclaims
    have hmarked : shouldMarkWorkItemCompleted (some (metadataOf decision)) = true :=
      shouldMark_metadataOf.mpr (.inl (decision.claims_ne_nil_iff.mp hclaims))
    rw [hmetadata, hmarked] at hmarks
    cases hmarks

/-- What is persisted are the claims of the decision, where their references do
not collide. -/
theorem showsClaims_persisted_iff {sha256 : String → String} {createdAt : Int}
    {drafts persisted : DraftClaims} {ids : SectionCommand} {result : ExecuteAttemptResult}
    {decision : ClaimBuilderAttemptDecision}
    (hmetadata : result.validationMetadata = some (metadataOf decision))
    (hpersist : persistValidatedDraftClaims sha256 createdAt drafts ids result = .ok persisted)
    (hnone : ShowsClaims drafts ids.dispatchAttemptId []) :
    ShowsClaims persisted ids.dispatchAttemptId decision.claims ↔
      ∀ context, decision.outcomeKind = .validClaims →
        candidateContext result.dispatch.dispatchPayload (some (metadataOf decision))
          ids.workflowRunId ids.dispatchAttemptId ids.workItemId = .ok context →
        DistinctRefs sha256 context decision.claims := by
  by_cases hvalid : decision.outcomeKind = .validClaims
  · rw [persist_of_claims hmetadata hvalid] at hpersist
    obtain ⟨context, hcontext, rfl⟩ := map_eq_ok.mp hpersist
    have hid := candidateContext_dispatchAttemptId hcontext
    rw [← hid] at hnone
    constructor
    · intro hshown other _ hother
      rw [hcontext] at hother
      cases hother
      rw [← hid] at hshown
      exact distinctRefs_of_showsClaims decision.claims hnone hshown
    · intro hdistinct
      rw [← hid]
      exact showsClaims_of_distinctRefs decision.claims hnone (hdistinct context hvalid hcontext)
  · have hempty : decision.claims = [] := by
      by_contra hne
      exact hvalid (decision.claims_ne_nil_iff.mp hne)
    rw [persist_of_no_claims (by rw [hmetadata, validatedClaims_metadataOf, hempty])] at hpersist
    cases hpersist
    rw [hempty]
    exact iff_of_true hnone fun _ hclaims => absurd hclaims hvalid

/-- Where the claims have a context, their outcome is recorded. -/
theorem executeUnrecorded_of_completesFromAnswer {settings : SectionSettings}
    {executeDispatch : ExecuteDispatch} {store : ExecutionStore} {ids : SectionCommand}
    {decision : ClaimBuilderAttemptDecision} {context : CandidateContext} (now : Int)
    (h : CompletesFromAnswer settings executeDispatch store ids dispatch provider decision
      context) :
    ∃ result next, executeUnrecorded settings.loads executeDispatch store dispatch now =
      .ok (result, next) := by
  have hvalidated : ∃ llmResult, llmResult.status = .succeeded ∧
      validatedLlmResult settings.loads dispatch provider =
        .ok (llmResult, some (metadataOf decision)) := by
    have hmarks : shouldMarkWorkItemCompleted (some (metadataOf decision)) = true :=
      shouldMark_metadataOf.mpr (.inl h.validClaims)
    unfold validatedLlmResult validateDispatchOutput
    rw [dif_pos h.succeeded, h.decision_eq]
    refine ⟨effectiveLlmResult provider h.succeeded (decisionToDispatchResult decision
      (decideNextAction decision)), status_of_marks hmarks, ?_⟩
    simp only [bind, Except.bind, pure, Except.pure, metadata_decisionToDispatchResult]
  obtain ⟨llmResult, hsucceeded, hvalidated⟩ := hvalidated
  have hrecord : (outcomeRecord dispatch provider llmResult
      (some (metadataOf decision))).outcomeStatus = .succeeded := congrArg mapStatus hsucceeded
  obtain ⟨item, next, hnext⟩ := recordAttemptOutcome_of_heldFor now h.held hrecord
  unfold executeUnrecorded
  simp only [bind, Except.bind]
  rw [h.keys, h.answer]
  dsimp only
  rw [hvalidated]
  dsimp only
  rw [hnext]
  exact ⟨_, _, rfl⟩

end NewOutcome

section NewOutcomeStep

variable {settings : SectionSettings} {ids : SectionCommand} {state : SectionState}
  {execution : SectionExecution} {dispatch : DispatchForExecution}
  {result : ExecuteAttemptResult} {store : ExecutionStore}

theorem requireDispatchKeys_of_executeUnrecorded {loads : JsonLoads}
    {executeDispatch : ExecuteDispatch} {before : ExecutionStore} {now : Int}
    (h : executeUnrecorded loads executeDispatch before dispatch now = .ok (result, store)) :
    requireDispatchKeys dispatch.dispatchPayload = .ok () := by
  unfold executeUnrecorded at h
  obtain ⟨_, hkeys, _⟩ := bind_eq_ok.mp h
  exact hkeys

theorem not_completesFromRecord
    (hopen : getRecordedAttemptOutcome state.store ids.dispatchAttemptId = .ok none)
    (other : DispatchForExecution) (recorded : RecordedAttemptOutcome) :
    ¬ CompletesFromRecord state.store ids other recorded := by
  intro hcompletes
  have hrecorded := hcompletes.recorded_eq
  rw [hopen] at hrecorded
  cases hrecorded

variable (hdispatch : getDispatchForExecution state.store ids.dispatchAttemptId =
    .ok (some dispatch))
  (hnew : executeUnrecorded settings.loads execution.executeDispatch state.store dispatch
    execution.recordedAt = .ok (result, store))

include hdispatch hnew

/-- The outcome alone completes nothing. -/
theorem claimsKept_of_outcome (hkept : ClaimsKept settings.loads ids.dispatchAttemptId state) :
    ClaimsKept settings.loads ids.dispatchAttemptId { store, drafts := state.drafts } ∧
      ShowsClaims state.drafts ids.dispatchAttemptId [] := by
  obtain ⟨provider, item, attempt, _, _, _, hrecorded⟩ := executeUnrecorded_eq_ok hnew
  obtain ⟨row, _, hrow, _, _, hrowItem, _⟩ := getDispatchForExecution_eq_some hdispatch
  have hleased : itemStatus state.store dispatch.workItemId = some .leased :=
    hrecorded.itemStatus_eq
  have hnot : itemStatus store dispatch.workItemId ≠ some .completed := hrecorded.not_completed
  rw [hrowItem] at hleased hnot
  have hnone := hkept.noDrafts hrow hleased
  have hrowAfter : store.dispatches.find? ids.dispatchAttemptId = some row := by
    rw [hrecorded.dispatches_eq]
    exact hrow
  refine ⟨⟨?_, fun _ => hnone⟩, hnone⟩
  intro hdone
  exact absurd ((itemCompleted_iff hrowAfter).mp hdone) hnot

/-- The claims of a new outcome are those of the decision on the answer. -/
theorem recordedClaims_of_outcome {provider : LlmDispatchExecutionResult}
    (hprovider : execution.executeDispatch dispatch = .ok provider)
    {decision : ClaimBuilderAttemptDecision}
    (hdecision : decideDispatch settings.loads dispatch.dispatchPayload provider.outputPayload
      dispatch.attemptNumber = .ok decision) :
    recordedClaims settings.loads store ids.dispatchAttemptId = decision.claims := by
  obtain ⟨answered, item, attempt, hanswered, _, _, hrecorded⟩ := executeUnrecorded_eq_ok hnew
  rw [hprovider] at hanswered
  cases hanswered
  obtain ⟨row, _, hrow, _, hid, _, hnumber, _, hpayload⟩ :=
    getDispatchForExecution_eq_some hdispatch
  have hattempt : store.attempts.find? dispatch.attemptId =
      some (attempt.withOutcome (outcomeRecord dispatch provider result.llmResult
        result.validationMetadata)) := hrecorded.next_attempt
  rw [hid] at hattempt
  have hread : decideDispatch settings.loads row.dispatchPayload
      (attempt.withOutcome (outcomeRecord dispatch provider result.llmResult
        result.validationMetadata)).llmOutputPayload row.attemptNumber = .ok decision := by
    rw [← hpayload, ← hnumber]
    exact hdecision
  unfold recordedClaims
  rw [hrecorded.dispatches_eq, hrow, hattempt]
  dsimp only
  rw [hread]

/-- The handler does complete an item with valid claims. -/
theorem completes_of_completesFromAnswer {other : DispatchForExecution}
    {provider : LlmDispatchExecutionResult} {decision : ClaimBuilderAttemptDecision}
    {context : CandidateContext}
    (hanswer : CompletesFromAnswer settings execution.executeDispatch state.store ids other provider
      decision context)
    (habort : execution.abort = none ∨ execution.abort = some .afterComplete) :
    (applySectionResult settings.sha256 execution ids store state.drafts result).1 ≠ store := by
  intro hstore
  have hother := hanswer.dispatch_eq
  rw [hdispatch] at hother
  cases hother
  obtain ⟨answered, item, attempt, hprovider, hsame, hvalidated, hrecorded⟩ :=
    executeUnrecorded_eq_ok hnew
  rw [hanswer.answer] at hprovider
  cases hprovider
  obtain ⟨judged, hjudged, hstatus, hmetadata⟩ :=
    validatedLlmResult_of_succeeded hanswer.succeeded hvalidated
  rw [hanswer.decision_eq] at hjudged
  cases hjudged
  have hmarks : shouldMarkWorkItemCompleted (some (metadataOf decision)) = true :=
    shouldMark_metadataOf.mpr (.inl hanswer.validClaims)
  have hpersist : persistValidatedDraftClaims settings.sha256 execution.createdAt state.drafts ids
      result = .ok (persistCandidates settings.sha256 execution.createdAt state.drafts
        (context.candidates decision.claims)) := by
    rw [persist_of_claims hmetadata hanswer.validClaims, hsame, hanswer.context_eq]
    rfl
  have houtcome : (outcomeRecord dispatch provider result.llmResult
      result.validationMetadata).outcomeStatus = .succeeded :=
    congrArg mapStatus (hstatus.trans (status_of_marks hmarks))
  have hleased : LeasedUnder store dispatch.workItemId dispatch.leaseToken :=
    hrecorded.leasedUnder houtcome
  rw [hanswer.item] at hleased
  have hitem : result.dispatch.workItemId = ids.workItemId := by
    rw [hsame]
    exact hanswer.item
  rw [← hsame] at hleased
  obtain ⟨_, completed, hcomplete, hending⟩ := applySectionResult_of_marks hitem
    (hmetadata ▸ hmarks) hpersist hleased habort
  obtain ⟨_, _, _, hcompleted, _⟩ := completeWorkItemAfterDomainApply_eq_ok hcomplete
  rw [hending] at hstore
  change completed = store at hstore
  rw [hstore, hleased.itemStatus_eq] at hcompleted
  cases hcompleted

/-- Where the item is completed, the answer of the provider is the one that matters. -/
theorem keepsClaims_answered_iff (hopen : getRecordedAttemptOutcome state.store
      ids.dispatchAttemptId = .ok none)
    (hitem : result.dispatch.workItemId = ids.workItemId) {provider : LlmDispatchExecutionResult}
    (hprovider : execution.executeDispatch dispatch = .ok provider)
    (hsucceeded : provider.status = .succeeded) {decision : ClaimBuilderAttemptDecision}
    (hdecision : decideDispatch settings.loads dispatch.dispatchPayload provider.outputPayload
      dispatch.attemptNumber = .ok decision) :
    KeepsClaims settings ids state execution ↔
      ∀ context, decision.outcomeKind = .validClaims →
        candidateContext result.dispatch.dispatchPayload (some (metadataOf decision))
          ids.workflowRunId ids.dispatchAttemptId ids.workItemId = .ok context →
        ¬ (settings.ownTransaction = true ∧ execution.abort = some .afterComplete) ∧
          (execution.abort = none → DistinctRefs settings.sha256 context decision.claims) := by
  obtain ⟨_, _, _, _, hsame, _, hrecorded⟩ := executeUnrecorded_eq_ok hnew
  constructor
  · intro hkeeps context hvalid hcontext
    have hanswer : CompletesFromAnswer settings execution.executeDispatch state.store ids dispatch
        provider decision context := {
      dispatch_eq := hdispatch
      unrecorded := hopen
      keys := requireDispatchKeys_of_executeUnrecorded hnew
      item := hsame ▸ hitem
      held := hrecorded.heldFor
      answer := hprovider
      succeeded := hsucceeded
      decision_eq := hdecision
      validClaims := hvalid
      context_eq := hsame ▸ hcontext }
    refine ⟨?_, fun hgoes => hkeeps.distinct hgoes _ _ _ _ hanswer⟩
    rintro ⟨hown, hafter⟩
    exact hkeeps.fromAnswer hown hafter _ _ _ _ hanswer
  · intro hcontexts
    have honly : ∀ {other answered judged context}, CompletesFromAnswer settings
        execution.executeDispatch state.store ids other answered judged context →
        judged = decision ∧
          ¬ (settings.ownTransaction = true ∧ execution.abort = some .afterComplete) ∧
          (execution.abort = none → DistinctRefs settings.sha256 context decision.claims) := by
      intro other answered judged context hanswer
      have hother := hanswer.dispatch_eq
      rw [hdispatch] at hother
      cases hother
      have hanswered := hanswer.answer
      rw [hprovider] at hanswered
      cases hanswered
      have hjudged := hanswer.decision_eq
      rw [hdecision] at hjudged
      cases hjudged
      exact ⟨rfl, hcontexts context hanswer.validClaims (hsame.symm ▸ hanswer.context_eq)⟩
    refine ⟨?_, ?_, ?_⟩
    · exact fun _ other recorded hcompletes =>
        absurd hcompletes (not_completesFromRecord hopen other recorded)
    · intro hown hafter other answered judged context hanswer
      exact (honly hanswer).2.1 ⟨hown, hafter⟩
    · intro hgoes other answered judged context hanswer
      obtain ⟨rfl, _, hdistinct⟩ := honly hanswer
      exact hdistinct hgoes

variable (hopen : getRecordedAttemptOutcome state.store ids.dispatchAttemptId = .ok none)

include hopen

/-- Where the handler stops before it completes the item, there were no claims to
complete it with. -/
theorem keepsClaims_of_outcome
    (hstore : (applySectionResult settings.sha256 execution ids store state.drafts result).1 =
      store) : KeepsClaims settings ids state execution where
  fromRecord _ other recorded hcompletes :=
    absurd hcompletes (not_completesFromRecord hopen other recorded)
  fromAnswer _ hafter _ _ _ _ hanswer :=
    completes_of_completesFromAnswer hdispatch hnew hanswer (.inr hafter) hstore
  distinct hgoes _ _ _ _ hanswer :=
    absurd hstore (completes_of_completesFromAnswer hdispatch hnew hanswer (.inl hgoes))

/-- A new outcome that completes the item keeps the claims, unless the completion
alone is committed or references collide. -/
theorem claimsKept_answered_iff
    (hkept : ClaimsKept settings.loads ids.dispatchAttemptId state) {item : WorkItem}
    {completed : ExecutionStore} {persisted : DraftClaims}
    (hitem : result.dispatch.workItemId = ids.workItemId)
    (hmarks : shouldMarkWorkItemCompleted result.validationMetadata = true)
    (hpersist : persistValidatedDraftClaims settings.sha256 execution.createdAt state.drafts ids
      result = .ok persisted)
    (hcomplete : completeWorkItemAfterDomainApply store ids.workItemId
      result.dispatch.leaseToken execution.completedAt = .ok (item, completed))
    (hcommits : CommitsCompletion settings.ownTransaction execution.abort) :
    ClaimsKept settings.loads ids.dispatchAttemptId
        { store := completed
          drafts := if execution.abort = some .afterComplete then state.drafts else persisted } ↔
      KeepsClaims settings ids state execution := by
  obtain ⟨_, hnone⟩ := claimsKept_of_outcome hdispatch hnew hkept
  obtain ⟨provider, _, _, hprovider, hsame, hvalidated, hrecorded⟩ := executeUnrecorded_eq_ok hnew
  obtain ⟨_, hattempts, hdispatches, hcompleted, _⟩ :=
    completeWorkItemAfterDomainApply_eq_ok hcomplete
  obtain ⟨row, _, hrow, _, _, hrowItem, _⟩ := getDispatchForExecution_eq_some hdispatch
  obtain ⟨hsucceeded, decision, hdecision, _, hmetadata⟩ :=
    (metadata_of_validated hvalidated).resolve_left fun habsent => by
      rw [habsent] at hmarks
      cases hmarks
  have hclaims : recordedClaims settings.loads completed ids.dispatchAttemptId =
      decision.claims := by
    rw [recordedClaims_congr hdispatches (by rw [hattempts])]
    exact recordedClaims_of_outcome hdispatch hnew hprovider hdecision
  have hdone : ItemCompleted completed ids.dispatchAttemptId := by
    refine ⟨row, ?_, ?_⟩
    · rw [hdispatches, hrecorded.dispatches_eq]
      exact hrow
    · rw [← hrowItem, ← hsame, hitem]
      exact hcompleted
  rw [claimsKept_of_itemCompleted_iff hdone, hclaims,
    keepsClaims_answered_iff hdispatch hnew hopen hitem hprovider hsucceeded hdecision]
  rcases hcommits with hgoes | ⟨hown, hafter⟩
  · have hnot : ¬ (settings.ownTransaction = true ∧ execution.abort = some .afterComplete) := by
      rintro ⟨_, hafter⟩
      rw [hgoes] at hafter
      cases hafter
    rw [hgoes, if_neg nofun, showsClaims_persisted_iff hmetadata hpersist hnone]
    rw [hgoes] at hnot
    simp only [hnot, not_false_eq_true, true_and, forall_const]
  · rw [if_pos hafter]
    constructor
    · intro hdrafts context hvalid _
      exact absurd (hnone.eq_nil hdrafts) (decision.claims_ne_nil_iff.mpr hvalid)
    · intro hcontexts
      by_cases hvalid : decision.outcomeKind = .validClaims
      · rw [persist_of_claims hmetadata hvalid] at hpersist
        obtain ⟨context, hcontext, _⟩ := map_eq_ok.mp hpersist
        exact absurd ⟨hown, hafter⟩ (hcontexts context hvalid hcontext).1
      · have hempty : decision.claims = [] := by
          by_contra hne
          exact hvalid (decision.claims_ne_nil_iff.mp hne)
        rw [hempty]
        exact hnone

/-- An execution that records a new outcome keeps the claims exactly under the
condition on its answer. -/
theorem claimsKept_executed_iff (hkept : ClaimsKept settings.loads ids.dispatchAttemptId state) :
    ClaimsKept settings.loads ids.dispatchAttemptId
        (commitSection settings.ownTransaction state
          (applySectionResult settings.sha256 execution ids store state.drafts result)) ↔
      KeepsClaims settings ids state execution := by
  obtain ⟨houtcome, _⟩ := claimsKept_of_outcome hdispatch hnew hkept
  obtain ⟨provider, _, _, _, _, hvalidated, _⟩ := executeUnrecorded_eq_ok hnew
  rcases applySectionResult_cases settings.sha256 execution ids store state.drafts result
    with ⟨hstore, hdrafts⟩ | ⟨item, completed, persisted, hitem, hmarks, hpersist, hcomplete,
      habort, hending⟩
  · refine iff_of_true ?_ (keepsClaims_of_outcome hdispatch hnew hopen hstore)
    unfold commitSection
    rcases hdrafts with hnone | ⟨persisted, hsome, hpersist, hmarks⟩
    · rw [hnone, hstore]
      dsimp only
      split
      · exact houtcome
      · exact hkept
    · rw [persist_of_not_marks hvalidated hmarks] at hpersist
      cases hpersist
      rw [hsome, hstore]
      exact houtcome
  · rw [hending]
    by_cases hcommits : CommitsCompletion settings.ownTransaction execution.abort
    · rw [commitSection_of_commits hcommits]
      exact claimsKept_answered_iff hdispatch hnew hopen hkept hitem hmarks hpersist hcomplete
        hcommits
    · rw [commitSection_of_not_commits habort hcommits]
      exact iff_of_true hkept {
        fromRecord := fun hcommitted => absurd hcommitted hcommits
        fromAnswer := fun hown hafter => absurd (.inr ⟨hown, hafter⟩) hcommits
        distinct := fun hgoes => absurd (.inl hgoes) hcommits }

end NewOutcomeStep

end CrmBot.ClaimBuilder
