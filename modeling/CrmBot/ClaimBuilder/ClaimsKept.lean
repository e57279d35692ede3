import CrmBot.ClaimBuilder.DraftClaims
import CrmBot.Library.Runs

/-! Executions of one command, again and again.

The claims travel in the metadata under a key that is not recorded, while the
entry that completes the item is. A repetition therefore completes the item
without claims. -/

namespace CrmBot.ClaimBuilder

open Relational CrmBot.Python CrmBot.ExecutionRuntime CrmBot.LlmRuntime CrmBot.WorkflowRuntime
open FailingFold Runs

/-! What the claims of an attempt are. -/

/-- The claims validated from the recorded output of an attempt. -/
def recordedClaims (loads : JsonLoads) (store : ExecutionStore) (attemptId : String) :
    List ValidatedClaimBuilderClaim :=
  match store.dispatches.find? attemptId, store.attempts.find? attemptId with
  | some dispatch, some attempt =>
    match decideDispatch loads dispatch.dispatchPayload attempt.llmOutputPayload
        dispatch.attemptNumber with
    | .ok decision => decision.claims
    | .error _ => []
  | _, _ => []

/-- The item of the attempt is completed. -/
def ItemCompleted (store : ExecutionStore) (attemptId : String) : Prop :=
  ∃ dispatch, store.dispatches.find? attemptId = some dispatch ∧
    itemStatus store dispatch.workItemId = some .completed

/-- The drafts of the attempt are the claims of its recorded output once the item
is completed, and none before. -/
structure ClaimsKept (loads : JsonLoads) (attemptId : String) (state : SectionState) : Prop where
  completed : ItemCompleted state.store attemptId →
    ShowsClaims state.drafts attemptId (recordedClaims loads state.store attemptId)
  notCompleted : ¬ ItemCompleted state.store attemptId → ShowsClaims state.drafts attemptId []

/-! The metadata of a decision. -/

theorem shouldMark_providerRetryMetadata (errorKind : Option String) :
    shouldMarkWorkItemCompleted (providerRetryMetadata errorKind) = false := by
  unfold providerRetryMetadata
  dsimp only
  split
  · rfl
  · rfl
  · rfl
  · rfl
  · rfl
  · split
    · rfl
    · rfl
  · rfl

theorem shouldMark_attemptActionMetadata (result : ExecuteAttemptResult) :
    shouldMarkWorkItemCompleted (attemptActionMetadata result) =
      shouldMarkWorkItemCompleted result.validationMetadata := by
  unfold attemptActionMetadata
  cases result.validationMetadata with
  | none => exact shouldMark_providerRetryMetadata _
  | some metadata => rfl

variable {decision : ClaimBuilderAttemptDecision}

theorem decideNextAction_marks_iff :
    (decideNextAction decision).shouldMarkWorkItemCompleted = true ↔
      decision.outcomeKind = .validClaims ∨ decision.outcomeKind = .validEmpty := by
  unfold decideNextAction
  cases decision.outcomeKind with
  | validClaims => exact iff_of_true rfl (.inl rfl)
  | validEmpty => exact iff_of_true rfl (.inr rfl)
  | retrySameRoute | retryEmptyClaimsCheckModel | retryFallbackModel | retryLargerInputLimitModel
  | retryLargerOutputLimitModel | terminalInvalid => simp [retryAction]

theorem decideNextAction_persists_iff :
    (decideNextAction decision).shouldPersistClaims = true ↔
      decision.outcomeKind = .validClaims := by
  unfold decideNextAction
  cases decision.outcomeKind with
  | validClaims => exact iff_of_true rfl rfl
  | validEmpty | retrySameRoute | retryEmptyClaimsCheckModel | retryFallbackModel
  | retryLargerInputLimitModel | retryLargerOutputLimitModel | terminalInvalid =>
    simp [retryAction]

/-- The metadata of a decision with its next action. -/
abbrev metadataOf (decision : ClaimBuilderAttemptDecision) : ValidationMetadata :=
  decisionMetadata decision (decideNextAction decision)

theorem shouldMark_metadataOf :
    shouldMarkWorkItemCompleted (some (metadataOf decision)) = true ↔
      decision.outcomeKind = .validClaims ∨ decision.outcomeKind = .validEmpty := by
  rw [← decideNextAction_marks_iff]
  simp [shouldMarkWorkItemCompleted]

theorem shouldPersist_metadataOf :
    shouldPersistClaims (some (metadataOf decision)) = true ↔
      decision.outcomeKind = .validClaims := by
  rw [← decideNextAction_persists_iff]
  unfold shouldPersistClaims
  dsimp only
  rw [get_nextActionKind_decisionMetadata, get_shouldPersist_decisionMetadata]
  constructor
  · intro h
    simpa using (Bool.and_eq_true_iff.mp h).2
  · intro h
    rw [(decideNextAction decision).persists_iff.mp h, h]
    decide

theorem validatedClaims_metadataOf :
    validatedClaimsFromMetadata (some (metadataOf decision)) = decision.claims := rfl

/-- Recorded metadata holds no tuple. -/
theorem validatedClaims_recordedMetadata (payload : Option Payload) :
    validatedClaimsFromMetadata (payload.map recordedMetadata) = [] := by
  cases payload with
  | none => rfl
  | some payload =>
    unfold validatedClaimsFromMetadata ValidationMetadata.get recordedMetadata
    rw [Option.map_some, Option.bind_some, List.find?_map]
    cases List.find? _ payload with
    | none => rfl
    | some entry => rfl

/-! Persisting -/

section Persist

variable {sha256 : String → String} {createdAt : Int} {drafts : DraftClaims}
  {command : SectionCommand} {result : ExecuteAttemptResult}

theorem persist_of_no_claims (h : validatedClaimsFromMetadata result.validationMetadata = []) :
    persistValidatedDraftClaims sha256 createdAt drafts command result = .ok drafts := by
  unfold persistValidatedDraftClaims
  split
  · rfl
  · rw [h]

/-- The claims of a decision are persisted as the candidates of one context. -/
theorem persist_of_claims (hmetadata : result.validationMetadata = some (metadataOf decision))
    (hclaims : decision.outcomeKind = .validClaims) :
    persistValidatedDraftClaims sha256 createdAt drafts command result =
      (candidateContext result.dispatch.dispatchPayload (some (metadataOf decision))
        command.workflowRunId command.dispatchAttemptId command.workItemId).map fun context =>
          persistCandidates sha256 createdAt drafts (context.candidates decision.claims) := by
  have hne := decision.claims_ne_nil_iff.mpr hclaims
  unfold persistValidatedDraftClaims
  rw [hmetadata, if_neg (not_not.mpr (shouldPersist_metadataOf.mpr hclaims)),
    validatedClaims_metadataOf]
  cases hlist : decision.claims with
  | nil => exact absurd hlist hne
  | cons claim rest =>
    dsimp only
    cases candidateContext result.dispatch.dispatchPayload (some (metadataOf decision))
        command.workflowRunId command.dispatchAttemptId command.workItemId with
    | error fault => rfl
    | ok context => rfl

theorem candidateContext_dispatchAttemptId {dispatchPayload : Payload}
    {metadata : Option ValidationMetadata} {workflowRunId dispatchAttemptId workItemId : String}
    {context : CandidateContext}
    (h : candidateContext dispatchPayload metadata workflowRunId dispatchAttemptId workItemId =
      .ok context) : context.dispatchAttemptId = dispatchAttemptId := by
  unfold candidateContext at h
  obtain ⟨_, _, h⟩ := bind_eq_ok.mp h
  obtain ⟨_, _, h⟩ := bind_eq_ok.mp h
  obtain ⟨_, _, h⟩ := bind_eq_ok.mp h
  obtain ⟨_, _, h⟩ := bind_eq_ok.mp h
  obtain ⟨_, _, h⟩ := bind_eq_ok.mp h
  obtain ⟨⟨_, _, _⟩, _, h⟩ := bind_eq_ok.mp h
  obtain ⟨_, _, h⟩ := bind_eq_ok.mp h
  obtain ⟨_, _, h⟩ := bind_eq_ok.mp h
  obtain ⟨_, _, h⟩ := bind_eq_ok.mp h
  split at h
  · cases h
    rfl
  · cases h

end Persist

/-! The handler after the port has answered. -/

section Apply

variable (sha256 : String → String) (execution : SectionExecution) (command : SectionCommand)
  (store : ExecutionStore) (drafts : DraftClaims) (result : ExecuteAttemptResult)

/-- The handler stops before it has completed the item, or completes it. -/
theorem applySectionResult_cases :
    ((applySectionResult sha256 execution command store drafts result).1 = store ∧
      ((applySectionResult sha256 execution command store drafts result).2 = none ∨
        ∃ persisted,
          (applySectionResult sha256 execution command store drafts result).2 = some persisted ∧
            persistValidatedDraftClaims sha256 execution.createdAt drafts command result =
              .ok persisted ∧
            shouldMarkWorkItemCompleted result.validationMetadata = false)) ∨
      ∃ item completed persisted, result.dispatch.workItemId = command.workItemId ∧
        shouldMarkWorkItemCompleted result.validationMetadata = true ∧
        persistValidatedDraftClaims sha256 execution.createdAt drafts command result =
          .ok persisted ∧
        completeWorkItemAfterDomainApply store command.workItemId result.dispatch.leaseToken
          execution.completedAt = .ok (item, completed) ∧
        (execution.abort = none ∨ execution.abort = some .afterComplete) ∧
        applySectionResult sha256 execution command store drafts result =
          (completed, if execution.abort = some .afterComplete then none else some persisted) := by
  unfold applySectionResult
  split
  · exact .inl ⟨rfl, .inl rfl⟩
  · next hgoes =>
    obtain ⟨hitem, houtcome⟩ := not_or.mp hgoes
    cases hpersist : persistValidatedDraftClaims sha256 execution.createdAt drafts command
        result with
    | error fault => exact .inl ⟨rfl, .inl rfl⟩
    | ok persisted =>
      dsimp only
      split
      · exact .inl ⟨rfl, .inl rfl⟩
      · next hpersisted =>
        unfold completeSection
        rw [shouldMark_attemptActionMetadata]
        cases hmarks : shouldMarkWorkItemCompleted result.validationMetadata with
        | false =>
          rw [if_neg Bool.false_ne_true]
          refine .inl ⟨rfl, ?_⟩
          dsimp only
          split
          · exact .inl rfl
          · exact .inr ⟨persisted, rfl, rfl, rfl⟩
        | true =>
          rw [if_pos rfl]
          cases hcomplete : completeWorkItemAfterDomainApply store command.workItemId
              result.dispatch.leaseToken execution.completedAt with
          | error fault => exact .inl ⟨rfl, .inl rfl⟩
          | ok done =>
            obtain ⟨item, completed⟩ := done
            refine .inr ⟨item, completed, persisted, not_not.mp hitem, rfl, rfl, rfl, ?_, rfl⟩
            cases habort : execution.abort with
            | none => exact .inl rfl
            | some point =>
              rw [habort] at houtcome hpersisted
              cases point with
              | afterOutcome => exact absurd rfl houtcome
              | afterPersist => exact absurd rfl hpersisted
              | afterComplete => exact .inr rfl

variable {sha256 execution command store drafts result}

/-- The handler that marks a leased item completes it. -/
theorem applySectionResult_of_marks {persisted : DraftClaims}
    (hitem : result.dispatch.workItemId = command.workItemId)
    (hmarks : shouldMarkWorkItemCompleted result.validationMetadata = true)
    (hpersist : persistValidatedDraftClaims sha256 execution.createdAt drafts command result =
      .ok persisted)
    (hleased : LeasedUnder store command.workItemId result.dispatch.leaseToken)
    (habort : execution.abort = none ∨ execution.abort = some .afterComplete) :
    ∃ item completed, completeWorkItemAfterDomainApply store command.workItemId
        result.dispatch.leaseToken execution.completedAt = .ok (item, completed) ∧
      applySectionResult sha256 execution command store drafts result =
        (completed, if execution.abort = some .afterComplete then none else some persisted) := by
  obtain ⟨item, completed, hcomplete⟩ :=
    completeWorkItemAfterDomainApply_of_leased execution.completedAt hleased
  refine ⟨item, completed, hcomplete, ?_⟩
  unfold applySectionResult completeSection
  rw [shouldMark_attemptActionMetadata, hmarks, hpersist, hcomplete]
  rcases habort with habort | habort
  · rw [habort]
    simp [hitem, Except.map]
  · rw [habort]
    simp [hitem, Except.map]

end Apply

end CrmBot.ClaimBuilder
