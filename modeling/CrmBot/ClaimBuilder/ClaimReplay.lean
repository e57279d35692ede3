import CrmBot.ClaimBuilder.ClaimsKept

/-! Which executions of a command keep its claims, and those that read a recorded
outcome. -/

namespace CrmBot.ClaimBuilder

open Relational CrmBot.Python CrmBot.ExecutionRuntime CrmBot.LlmRuntime CrmBot.WorkflowRuntime
open FailingFold

/-! When an execution loses claims. -/

/-- The completion of the item is committed. -/
def CommitsCompletion (ownTransaction : Bool) (abort : Option AbortPoint) : Prop :=
  abort = none ∨ (ownTransaction = true ∧ abort = some .afterComplete)

/-- The item is completed from the outcome that is recorded. -/
structure CompletesFromRecord (store : ExecutionStore) (ids : SectionCommand)
    (dispatch : DispatchForExecution) (recorded : RecordedAttemptOutcome) : Prop where
  dispatch_eq : getDispatchForExecution store ids.dispatchAttemptId = .ok (some dispatch)
  recorded_eq : getRecordedAttemptOutcome store ids.dispatchAttemptId = .ok (some recorded)
  errorKind : recorded.errorKind.any isBlank = false
  item : dispatch.workItemId = ids.workItemId
  marks : shouldMarkWorkItemCompleted (recorded.validationMetadata.map recordedMetadata) = true
  leased : LeasedUnder store ids.workItemId dispatch.leaseToken

/-- Nothing is recorded, the item is held, and the answer has valid claims. -/
structure CompletesFromAnswer (settings : SectionSettings) (executeDispatch : ExecuteDispatch)
    (store : ExecutionStore) (ids : SectionCommand) (dispatch : DispatchForExecution)
    (provider : LlmDispatchExecutionResult) (decision : ClaimBuilderAttemptDecision)
    (context : CandidateContext) : Prop where
  dispatch_eq : getDispatchForExecution store ids.dispatchAttemptId = .ok (some dispatch)
  unrecorded : getRecordedAttemptOutcome store ids.dispatchAttemptId = .ok none
  keys : requireDispatchKeys dispatch.dispatchPayload = .ok ()
  item : dispatch.workItemId = ids.workItemId
  held : HeldFor store dispatch.attemptId dispatch.workItemId dispatch.attemptNumber
    dispatch.leaseToken
  answer : executeDispatch dispatch = .ok provider
  succeeded : provider.status = .succeeded
  decision_eq : decideDispatch settings.loads dispatch.dispatchPayload provider.outputPayload
    dispatch.attemptNumber = .ok decision
  validClaims : decision.outcomeKind = .validClaims
  context_eq : candidateContext dispatch.dispatchPayload (some (metadataOf decision))
    ids.workflowRunId ids.dispatchAttemptId ids.workItemId = .ok context

/-- An execution that keeps the claims: it completes no item from a record that has
claims, and the item of valid claims only together with them, under references
that do not collide. -/
structure KeepsClaims (settings : SectionSettings) (ids : SectionCommand) (state : SectionState)
    (execution : SectionExecution) : Prop where
  fromRecord : CommitsCompletion settings.ownTransaction execution.abort →
    ∀ dispatch recorded, CompletesFromRecord state.store ids dispatch recorded →
      recordedClaims settings.loads state.store ids.dispatchAttemptId = []
  fromAnswer : settings.ownTransaction = true → execution.abort = some .afterComplete →
    ∀ dispatch provider decision context,
      ¬ CompletesFromAnswer settings execution.executeDispatch state.store ids dispatch provider
        decision context
  distinct : execution.abort = none → ∀ dispatch provider decision context,
    CompletesFromAnswer settings execution.executeDispatch state.store ids dispatch provider
      decision context → DistinctRefs settings.sha256 context decision.claims

/-! The item and the claims of an attempt. -/

section Claims

variable {loads : JsonLoads} {store next : ExecutionStore} {attemptId : String}

theorem itemCompleted_iff {row : DispatchRow}
    (hrow : store.dispatches.find? attemptId = some row) :
    ItemCompleted store attemptId ↔ itemStatus store row.workItemId = some .completed := by
  constructor
  · rintro ⟨found, hfound, hstatus⟩
    rw [hrow] at hfound
    cases hfound
    exact hstatus
  · intro hstatus
    exact ⟨row, hrow, hstatus⟩

/-- The claims are read from the dispatch and from the output. -/
theorem recordedClaims_congr (hdispatches : next.dispatches = store.dispatches)
    (houtput : (next.attempts.find? attemptId).map AttemptRow.llmOutputPayload =
      (store.attempts.find? attemptId).map AttemptRow.llmOutputPayload) :
    recordedClaims loads next attemptId = recordedClaims loads store attemptId := by
  unfold recordedClaims
  rw [hdispatches]
  cases hstore : store.attempts.find? attemptId with
  | none =>
    rw [hstore, Option.map_none, Option.map_eq_none_iff] at houtput
    rw [houtput]
  | some attempt =>
    rw [hstore, Option.map_some, Option.map_eq_some_iff] at houtput
    obtain ⟨other, hother, heq⟩ := houtput
    rw [hother]
    cases store.dispatches.find? attemptId with
    | none => rfl
    | some row =>
      dsimp only
      rw [heq]

/-- A step that changes neither the completion nor the output keeps the claims kept. -/
theorem ClaimsKept.of_frame {drafts : DraftClaims} {state : SectionState}
    (hkept : ClaimsKept loads attemptId state) (hdrafts : state.drafts = drafts)
    (hdispatches : next.dispatches = state.store.dispatches)
    (houtput : (next.attempts.find? attemptId).map AttemptRow.llmOutputPayload =
      (state.store.attempts.find? attemptId).map AttemptRow.llmOutputPayload)
    (hcompleted : ∀ id, itemStatus next id = some .completed ↔
      itemStatus state.store id = some .completed) :
    ClaimsKept loads attemptId { store := next, drafts } := by
  have hiff : ItemCompleted next attemptId ↔ ItemCompleted state.store attemptId := by
    unfold ItemCompleted
    rw [hdispatches]
    exact exists_congr fun row => and_congr_right fun _ => hcompleted row.workItemId
  subst hdrafts
  constructor
  · intro hdone
    rw [recordedClaims_congr hdispatches houtput]
    exact hkept.completed (hiff.mp hdone)
  · intro hopen
    exact hkept.notCompleted fun hdone => hopen (hiff.mpr hdone)

theorem claimsKept_of_itemCompleted_iff {state : SectionState}
    (hdone : ItemCompleted state.store attemptId) :
    ClaimsKept loads attemptId state ↔
      ShowsClaims state.drafts attemptId (recordedClaims loads state.store attemptId) :=
  ⟨fun hkept => hkept.completed hdone, fun hshown => ⟨fun _ => hshown, absurd hdone⟩⟩

/-- The drafts of an attempt whose item is leased. -/
theorem ClaimsKept.noDrafts {state : SectionState} {row : DispatchRow}
    (hkept : ClaimsKept loads attemptId state)
    (hrow : state.store.dispatches.find? attemptId = some row)
    (hleased : itemStatus state.store row.workItemId = some .leased) :
    ShowsClaims state.drafts attemptId [] := by
  apply hkept.notCompleted
  rw [itemCompleted_iff hrow, hleased]
  nofun

end Claims

/-! What is committed. -/

section Commit

variable {ownTransaction : Bool} {abort : Option AbortPoint} {state : SectionState}
  {completed : ExecutionStore} {persisted : DraftClaims}

/-- The completion is committed with the drafts the handler has persisted, or
without them where it is aborted. -/
theorem commitSection_of_commits (hcommits : CommitsCompletion ownTransaction abort) :
    commitSection ownTransaction state
        (completed, if abort = some .afterComplete then none else some persisted) =
      { store := completed
        drafts := if abort = some .afterComplete then state.drafts else persisted } := by
  unfold commitSection
  rcases hcommits with hgoes | ⟨hown, hafter⟩
  · rw [hgoes]
    rfl
  · rw [hafter, hown]
    rfl

theorem commitSection_of_not_commits (habort : abort = none ∨ abort = some .afterComplete)
    (hcommits : ¬ CommitsCompletion ownTransaction abort) :
    commitSection ownTransaction state
        (completed, if abort = some .afterComplete then none else some persisted) = state := by
  have hafter : abort = some .afterComplete :=
    habort.resolve_left fun hgoes => hcommits (.inl hgoes)
  have hown : ownTransaction = false :=
    Bool.eq_false_iff.mpr fun hown => hcommits (.inr ⟨hown, hafter⟩)
  unfold commitSection
  rw [hafter, hown]
  rfl

end Commit

/-! Executions that read a recorded outcome. -/

section Replay

variable {settings : SectionSettings} {ids : SectionCommand} {state : SectionState}
  {execution : SectionExecution} {dispatch : DispatchForExecution}
  {recorded : RecordedAttemptOutcome} {result : ExecuteAttemptResult}

theorem recordedResult_eq_ok (h : recordedResult dispatch recorded = .ok result) :
    recorded.errorKind.any isBlank = false ∧ result.dispatch = dispatch ∧
      result.validationMetadata = recorded.validationMetadata.map recordedMetadata := by
  unfold recordedResult llmResultFromRecordedOutcome at h
  obtain ⟨llmResult, hllm, h⟩ := bind_eq_ok.mp h
  cases h
  split at hllm
  · cases hllm
  · next hkind => exact ⟨Bool.eq_false_iff.mpr hkind, rfl, rfl⟩

/-- What is recorded is answered, whatever the provider would say. -/
theorem execute_of_recorded (loads : JsonLoads) (executeDispatch : ExecuteDispatch)
    {store : ExecutionStore} {attemptId : String} (now : Int)
    (hdispatch : getDispatchForExecution store attemptId = .ok (some dispatch))
    (hrecorded : getRecordedAttemptOutcome store attemptId = .ok (some recorded))
    (herror : recorded.errorKind.any isBlank = false) :
    ∃ result, executePreparedLlmDispatchAttempt loads executeDispatch store attemptId now =
      .ok (result, store) := by
  obtain ⟨_, _, _, _, hid, _⟩ := getDispatchForExecution_eq_some hdispatch
  unfold executePreparedLlmDispatchAttempt recordedResult llmResultFromRecordedOutcome
  rw [hdispatch]
  simp only [bind, Except.bind]
  rw [hid, hrecorded]
  simp only [herror, Bool.false_eq_true, if_false]
  exact ⟨_, rfl⟩

theorem completesFromRecord_of_marks
    (hdispatch : getDispatchForExecution state.store ids.dispatchAttemptId = .ok (some dispatch))
    (hrecorded : getRecordedAttemptOutcome state.store ids.dispatchAttemptId =
      .ok (some recorded))
    (hresult : recordedResult dispatch recorded = .ok result)
    (hitem : result.dispatch.workItemId = ids.workItemId)
    (hmarks : shouldMarkWorkItemCompleted result.validationMetadata = true)
    (hleased : LeasedUnder state.store ids.workItemId result.dispatch.leaseToken) :
    CompletesFromRecord state.store ids dispatch recorded := by
  obtain ⟨herror, hsame, hmetadata⟩ := recordedResult_eq_ok hresult
  rw [hsame] at hitem hleased
  rw [hmetadata] at hmarks
  exact ⟨hdispatch, hrecorded, herror, hitem, hmarks, hleased⟩

theorem not_completesFromAnswer
    (hrecorded : getRecordedAttemptOutcome state.store ids.dispatchAttemptId =
      .ok (some recorded))
    (executeDispatch : ExecuteDispatch) (other : DispatchForExecution)
    (provider : LlmDispatchExecutionResult) (decision : ClaimBuilderAttemptDecision)
    (context : CandidateContext) :
    ¬ CompletesFromAnswer settings executeDispatch state.store ids other provider decision
      context := by
  intro hanswer
  have hopen := hanswer.unrecorded
  rw [hrecorded] at hopen
  cases hopen

/-- Where something is recorded, only the record matters. -/
theorem keepsClaims_of_recorded
    (hrecorded : getRecordedAttemptOutcome state.store ids.dispatchAttemptId =
      .ok (some recorded))
    (hempty : CommitsCompletion settings.ownTransaction execution.abort →
      ∀ other found, CompletesFromRecord state.store ids other found →
        recordedClaims settings.loads state.store ids.dispatchAttemptId = []) :
    KeepsClaims settings ids state execution where
  fromRecord := hempty
  fromAnswer _ _ := not_completesFromAnswer hrecorded _
  distinct _ other provider decision context hanswer :=
    absurd hanswer (not_completesFromAnswer hrecorded _ other provider decision context)

variable (hdispatch : getDispatchForExecution state.store ids.dispatchAttemptId =
    .ok (some dispatch))
  (hrecorded : getRecordedAttemptOutcome state.store ids.dispatchAttemptId = .ok (some recorded))
  (hresult : recordedResult dispatch recorded = .ok result)

include hdispatch hrecorded hresult

/-- A repetition that does not complete the item had no reason to. -/
theorem keepsClaims_of_stopped
    (hstore : (applySectionResult settings.sha256 execution ids state.store state.drafts
      result).1 = state.store) : KeepsClaims settings ids state execution := by
  obtain ⟨_, hsame, hmetadata⟩ := recordedResult_eq_ok hresult
  have hclaims : validatedClaimsFromMetadata result.validationMetadata = [] := by
    rw [hmetadata]
    exact validatedClaims_recordedMetadata _
  apply keepsClaims_of_recorded hrecorded
  intro hcommits other found hcompletes
  have hother := hcompletes.dispatch_eq
  rw [hdispatch] at hother
  cases hother
  have hfound := hcompletes.recorded_eq
  rw [hrecorded] at hfound
  cases hfound
  have hitem : result.dispatch.workItemId = ids.workItemId := hsame ▸ hcompletes.item
  have hmarks : shouldMarkWorkItemCompleted result.validationMetadata = true :=
    hmetadata ▸ hcompletes.marks
  have hleased : LeasedUnder state.store ids.workItemId result.dispatch.leaseToken :=
    hsame ▸ hcompletes.leased
  obtain ⟨_, completed, hcomplete, hending⟩ := applySectionResult_of_marks hitem hmarks
    (persist_of_no_claims hclaims) hleased (hcommits.imp_right And.right)
  obtain ⟨_, _, _, hcompleted, _⟩ := completeWorkItemAfterDomainApply_eq_ok hcomplete
  rw [hending] at hstore
  change completed = state.store at hstore
  rw [hstore, hleased.itemStatus_eq] at hcompleted
  cases hcompleted

/-- A repetition that commits a completion keeps the claims when there are none. -/
theorem claimsKept_completed_iff
    (hkept : ClaimsKept settings.loads ids.dispatchAttemptId state) {item : WorkItem}
    {completed : ExecutionStore} (hitem : result.dispatch.workItemId = ids.workItemId)
    (hmarks : shouldMarkWorkItemCompleted result.validationMetadata = true)
    (hcomplete : completeWorkItemAfterDomainApply state.store ids.workItemId
      result.dispatch.leaseToken execution.completedAt = .ok (item, completed))
    (hcommits : CommitsCompletion settings.ownTransaction execution.abort) :
    ClaimsKept settings.loads ids.dispatchAttemptId
        { store := completed, drafts := state.drafts } ↔
      KeepsClaims settings ids state execution := by
  obtain ⟨hleased, hattempts, hdispatches, hcompleted, _⟩ :=
    completeWorkItemAfterDomainApply_eq_ok hcomplete
  obtain ⟨_, hsame, _⟩ := recordedResult_eq_ok hresult
  obtain ⟨row, _, hrow, _, _, hrowItem, _⟩ := getDispatchForExecution_eq_some hdispatch
  have hrowId : row.workItemId = ids.workItemId := by
    rw [← hrowItem, ← hsame]
    exact hitem
  have hnone : ShowsClaims state.drafts ids.dispatchAttemptId [] := by
    apply hkept.noDrafts hrow
    rw [hrowId]
    exact hleased.itemStatus_eq
  have hclaims : recordedClaims settings.loads completed ids.dispatchAttemptId =
      recordedClaims settings.loads state.store ids.dispatchAttemptId :=
    recordedClaims_congr hdispatches (by rw [hattempts])
  have hdone : ItemCompleted completed ids.dispatchAttemptId := by
    refine ⟨row, ?_, ?_⟩
    · rw [hdispatches]
      exact hrow
    · rw [hrowId]
      exact hcompleted
  constructor
  · intro hafter
    apply keepsClaims_of_recorded hrecorded
    intro _ _ _ _
    rw [← hclaims]
    exact hnone.eq_nil (hafter.completed hdone)
  · intro hkeeps
    have hempty := hkeeps.fromRecord hcommits dispatch recorded
      (completesFromRecord_of_marks hdispatch hrecorded hresult hitem hmarks hleased)
    constructor
    · intro _
      rw [hclaims, hempty]
      exact hnone
    · intro hopen
      exact absurd hdone hopen

/-- A repetition persists nothing. It keeps the claims when there are none, or
when it does not complete the item. -/
theorem claimsKept_replayed_iff
    (hkept : ClaimsKept settings.loads ids.dispatchAttemptId state) :
    ClaimsKept settings.loads ids.dispatchAttemptId
        (commitSection settings.ownTransaction state
          (applySectionResult settings.sha256 execution ids state.store state.drafts result)) ↔
      KeepsClaims settings ids state execution := by
  obtain ⟨_, _, hmetadata⟩ := recordedResult_eq_ok hresult
  have hclaims : validatedClaimsFromMetadata result.validationMetadata = [] := by
    rw [hmetadata]
    exact validatedClaims_recordedMetadata _
  rcases applySectionResult_cases settings.sha256 execution ids state.store state.drafts result
    with ⟨hstore, hdrafts⟩ | ⟨item, completed, persisted, hitem, hmarks, hpersist, hcomplete,
      habort, hending⟩
  · have hstate : commitSection settings.ownTransaction state
        (applySectionResult settings.sha256 execution ids state.store state.drafts result) =
          state := by
      unfold commitSection
      rcases hdrafts with hnone | ⟨persisted, hsome, hpersist, _⟩
      · rw [hnone, hstore]
        exact ite_self _
      · rw [persist_of_no_claims hclaims] at hpersist
        cases hpersist
        rw [hsome, hstore]
    rw [hstate]
    exact iff_of_true hkept (keepsClaims_of_stopped hdispatch hrecorded hresult hstore)
  · rw [persist_of_no_claims hclaims] at hpersist
    cases hpersist
    rw [hending]
    by_cases hcommits : CommitsCompletion settings.ownTransaction execution.abort
    · rw [commitSection_of_commits hcommits, ite_self]
      exact claimsKept_completed_iff hdispatch hrecorded hresult hkept hitem hmarks hcomplete
        hcommits
    · rw [commitSection_of_not_commits habort hcommits]
      apply iff_of_true hkept
      apply keepsClaims_of_recorded hrecorded
      exact fun hcommitted => absurd hcommitted hcommits

end Replay

end CrmBot.ClaimBuilder
