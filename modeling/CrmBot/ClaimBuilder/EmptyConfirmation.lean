import CrmBot.ClaimBuilder.ClaimsKept
import CrmBot.ExecutionRuntime.WorkItemRuns

/-! How an empty list of claims is accepted.

The validator is told the number of the attempt, and takes all attempts before it
for answers without claims. -/

namespace CrmBot.ClaimBuilder

open CrmBot.Python CrmBot.ExecutionRuntime CrmBot.LlmRuntime FailingFold

/-! Histories of one work item. -/

/-- An attempt on an item: its number, the answer of the provider, the metadata of
the verdict, and the status of the item after it. -/
structure AttemptEntry where
  attemptNumber : Nat
  provider : LlmDispatchExecutionResult
  metadata : Option ValidationMetadata
  status : WorkItemStatus

structure AttemptHistory where
  item : WorkItem
  attempts : List AttemptEntry

/-- A call of the state machine by other code, or an attempt. -/
inductive HistoryEvent
  | transition (transition : Transition)
  | attempt (dispatch : DispatchForExecution) (provider : LlmDispatchExecutionResult)

/-- The execution of an attempt as the item meets it: the answer is validated and
recorded, and the item is completed where the verdict says so. -/
def executeOnItem (loads : JsonLoads) (item : WorkItem) (dispatch : DispatchForExecution)
    (provider : LlmDispatchExecutionResult) :
    Except Fault (WorkItem × Option ValidationMetadata) := do
  let (llmResult, validationMetadata) ← validatedLlmResult loads dispatch provider
  let record := outcomeRecord dispatch provider llmResult validationMetadata
  validateCurrentLease item record
  let workItem ← transitionWorkItem item record
  let metadata := attemptActionMetadata { dispatch, llmResult, workItem, validationMetadata }
  if shouldMarkWorkItemCompleted metadata then
    let completed ← WorkItemStateMachine.completeLeased workItem
    return (completed, metadata)
  else return (workItem, metadata)

/-- What raises changes nothing. -/
def performHistory (loads : JsonLoads) (history : AttemptHistory) : HistoryEvent → AttemptHistory
  | .transition transition => match transition.apply history.item with
    | .ok item => { history with item }
    | .error _ => history
  | .attempt dispatch provider => match executeOnItem loads history.item dispatch provider with
    | .ok (item, metadata) =>
      { item
        attempts := history.attempts ++
          [⟨dispatch.attemptNumber, provider, metadata, item.status⟩] }
    | .error _ => history

def freshHistory (workItemId workKind : String) (hid : isBlank workItemId = false) :
    AttemptHistory :=
  ⟨.fresh workItemId workKind hid, []⟩

/-- The provider answered, the output is not marked as cut off, and it is an object
with an empty list of claims. -/
def AttemptEntry.ReturnedEmpty (loads : JsonLoads) (entry : AttemptEntry) : Prop :=
  entry.provider.status = .succeeded ∧ isOutputTruncated entry.provider.outputPayload = false ∧
    ∃ output, decodedClaimBuilderOutput loads entry.provider.outputPayload = .ok (.dict output) ∧
      Payload.get output "claims" = some (.list [])

/-- The attempt completed its item as one without claims. -/
def AttemptEntry.AcceptedEmpty (entry : AttemptEntry) : Prop :=
  entry.status = .completed ∧
    (entry.metadata.bind fun metadata => metadata.get "claim_builder_attempt_outcome_kind") =
      some (.json (.str ClaimBuilderAttemptOutcomeKind.validEmpty.value))

/-- Every acceptance has two answers without claims before it. -/
def Confirmed (loads : JsonLoads) (attempts : List AttemptEntry) : Prop :=
  ∀ earlier entry later, attempts = earlier ++ entry :: later → entry.AcceptedEmpty →
    ∃ first second, [first, second].Sublist earlier ∧ first.ReturnedEmpty loads ∧
      second.ReturnedEmpty loads

/-! One verdict. -/

theorem emptyClaimsResult_validEmpty_iff {emptyClaimsAttemptCount : Nat} :
    (emptyClaimsResult emptyClaimsAttemptCount).decision = .validEmpty ↔
      2 ≤ emptyClaimsAttemptCount := by
  unfold emptyClaimsResult
  split
  · exact iff_of_false (by decide) (by omega)
  · split
    · exact iff_of_false (by decide) (by omega)
    · exact iff_of_true rfl (by omega)

theorem claimsResult_ne_validEmpty (command : ValidateClaimBuilderOutputCommand) (first : PyValue)
    (others : List PyValue) : (claimsResult command first others).decision ≠ .validEmpty := by
  unfold claimsResult
  split
  · nofun
  · split
    · nofun
    · nofun

/-- An empty list is valid from the third attempt on, by its number alone. -/
theorem validateOutput_validEmpty_iff (command : ValidateClaimBuilderOutputCommand) :
    (validateOutput command).decision = .validEmpty ↔
      2 ≤ command.emptyClaimsAttemptCount ∧ ∃ output, command.outputPayload = .dict output ∧
        Payload.get output "claims" = some (.list []) := by
  unfold validateOutput
  split
  · next output houtput =>
    have hother : ∀ {value}, Payload.get output "claims" = value → value ≠ some (.list []) →
        ¬ ∃ found, command.outputPayload = .dict found ∧
          Payload.get found "claims" = some (.list []) := by
      rintro value hvalue hne ⟨found, hfound, hempty⟩
      rw [houtput, PyValue.dict.injEq] at hfound
      exact hne (hvalue.symm.trans (hfound ▸ hempty))
    split
    · next hclaims => exact iff_of_false nofun fun h => hother hclaims nofun h.2
    · next hclaims =>
      rw [emptyClaimsResult_validEmpty_iff]
      exact (and_iff_left ⟨output, houtput, hclaims⟩).symm
    · next hclaims =>
      exact iff_of_false (claimsResult_ne_validEmpty _ _ _) fun h => hother hclaims nofun h.2
    · next hne _ hclaims =>
      exact iff_of_false nofun fun h => hother hclaims (fun heq => hne (Option.some.inj heq)) h.2
  · next hother =>
    refine iff_of_false nofun ?_
    rintro ⟨-, output, heq, -⟩
    exact hother output heq

theorem outcomeKindOf_eq_validEmpty_iff {decision : ClaimBuilderOutputValidationDecision} :
    outcomeKindOf decision = .validEmpty ↔ decision = .validEmpty := by
  cases decision <;> simp [outcomeKindOf]

section Verdict

variable {loads : JsonLoads} {dispatchPayload : Payload} {outputPayload : Option Payload}
  {attemptNumber : Nat} {decoded : PyValue} {result : ClaimBuilderOutputValidationResult}

theorem validateDecoded_validEmpty_iff
    (h : validateDecoded loads dispatchPayload outputPayload attemptNumber =
      .ok (decoded, result)) :
    result.decision = .validEmpty ↔ 3 ≤ attemptNumber ∧ ∃ output,
      decodedClaimBuilderOutput loads outputPayload = .ok (.dict output) ∧
        Payload.get output "claims" = some (.list []) := by
  unfold validateDecoded at h
  split at h
  · next failed hfailed =>
    cases h
    refine iff_of_false ?_ ?_
    · rw [decodedClaimBuilderOutput_error hfailed]
      nofun
    · rintro ⟨-, output, hdecoded, -⟩
      rw [hfailed] at hdecoded
      cases hdecoded
  · next found hfound =>
    obtain ⟨sourceText, _, h⟩ := bind_eq_ok.mp h
    obtain ⟨unitRef, _, h⟩ := bind_eq_ok.mp h
    split at h
    · cases h
      rw [validateOutput_validEmpty_iff, hfound]
      dsimp only
      have hcount : 2 ≤ attemptNumber - 1 ↔ 3 ≤ attemptNumber := by omega
      rw [hcount]
      simp only [Except.ok.injEq]
    · cases h

theorem eq_of_validateDecoded {found : PyValue}
    (h : validateDecoded loads dispatchPayload outputPayload attemptNumber = .ok (decoded, result))
    (hfound : decodedClaimBuilderOutput loads outputPayload = .ok found) : decoded = found := by
  unfold validateDecoded at h
  rw [hfound] at h
  obtain ⟨sourceText, _, h⟩ := bind_eq_ok.mp h
  obtain ⟨unitRef, _, h⟩ := bind_eq_ok.mp h
  split at h
  · cases h
    rfl
  · cases h

/-- The verdict on an attempt is an empty answer accepted exactly when the output
is whole, has an empty list of claims, and the attempt is not one of the first two. -/
theorem decideDispatch_validEmpty_iff {decision : ClaimBuilderAttemptDecision}
    (h : decideDispatch loads dispatchPayload outputPayload attemptNumber = .ok decision) :
    decision.outcomeKind = .validEmpty ↔
      3 ≤ attemptNumber ∧ isOutputTruncated outputPayload = false ∧ ∃ output,
        decodedClaimBuilderOutput loads outputPayload = .ok (.dict output) ∧
          Payload.get output "claims" = some (.list []) := by
  obtain ⟨result, command, hvalidated, rfl, hflag, hresult⟩ := decideDispatch_eq_ok h
  unfold decideAttemptOutcome
  rw [hflag, hresult]
  dsimp only
  split
  · next htruncated =>
    refine iff_of_false nofun ?_
    rintro ⟨-, hwhole, -⟩
    rw [hwhole] at htruncated
    cases htruncated
  · next hwhole =>
    split
    · next hmissing =>
      refine iff_of_false nofun ?_
      rintro ⟨-, -, output, houtput, -⟩
      have hdecoded := eq_of_validateDecoded hvalidated houtput
      rw [hmissing.2] at hdecoded
      cases hdecoded
    · change outcomeKindOf result.decision = .validEmpty ↔ _
      rw [outcomeKindOf_eq_validEmpty_iff, validateDecoded_validEmpty_iff hvalidated]
      simp only [Bool.not_eq_true] at hwhole
      rw [hwhole]
      simp only [true_and]

end Verdict

/-! One attempt. -/

section Attempt

variable {loads : JsonLoads} {item next : WorkItem} {dispatch : DispatchForExecution}
  {provider : LlmDispatchExecutionResult} {metadata : Option ValidationMetadata}

/-- The entry of an attempt in the history. -/
def attemptEntry (dispatch : DispatchForExecution) (provider : LlmDispatchExecutionResult)
    (metadata : Option ValidationMetadata) (next : WorkItem) : AttemptEntry :=
  ⟨dispatch.attemptNumber, provider, metadata, next.status⟩

theorem outcomeKind_value_eq_validEmpty_iff {kind : ClaimBuilderAttemptOutcomeKind} :
    kind.value = ClaimBuilderAttemptOutcomeKind.validEmpty.value ↔ kind = .validEmpty := by
  cases kind <;> decide

/-- The verdict is a success exactly where it completes the item. -/
theorem status_decisionToDispatchResult_iff {decision : ClaimBuilderAttemptDecision} :
    (decisionToDispatchResult decision (decideNextAction decision)).status = .succeeded ↔
      shouldMarkWorkItemCompleted (some (metadataOf decision)) = true := by
  rw [shouldMark_metadataOf]
  unfold decisionToDispatchResult
  dsimp only
  split
  · next hkind => exact iff_of_true rfl (.inl hkind)
  · next hkind => exact iff_of_true rfl (.inr hkind)
  · next hkind =>
    rw [hkind]
    exact iff_of_false (by simp) (by decide)
  · next hclaims hempty _ =>
    exact iff_of_false (by simp) fun h => h.elim hclaims hempty

/-- A recorded success leaves the item as it is, anything else ends its lease. -/
theorem transitionWorkItem_cases {record : AttemptOutcomeRecord}
    (h : transitionWorkItem item record = .ok next) :
    next.attemptCount = item.attemptCount ∧
      (record.outcomeStatus = .succeeded ∧ next = item ∨
        record.outcomeStatus ≠ .succeeded ∧ next.status ≠ .leased ∧ next.status ≠ .completed) := by
  unfold transitionWorkItem at h
  split at h
  · next hsucceeded =>
    cases h
    exact ⟨rfl, .inl ⟨hsucceeded, rfl⟩⟩
  · cases h
  · next hretry _ =>
    split at h
    · cases h
    · obtain ⟨_, _, h⟩ := bind_eq_ok.mp h
      obtain ⟨_, _, h⟩ := bind_eq_ok.mp h
      cases h
      exact ⟨rfl, .inr ⟨by rw [hretry]; nofun, nofun, nofun⟩⟩
  · next hterminal _ =>
    obtain ⟨_, _, h⟩ := bind_eq_ok.mp h
    obtain ⟨_, _, h⟩ := bind_eq_ok.mp h
    cases h
    exact ⟨rfl, .inr ⟨by rw [hterminal]; nofun, nofun, nofun⟩⟩

/-- The steps of an attempt that is not refused. -/
theorem executeOnItem_eq_ok
    (h : executeOnItem loads item dispatch provider = .ok (next, metadata)) :
    item.status = .leased ∧ item.attemptCount = dispatch.attemptNumber ∧
      ∃ llmResult validationMetadata transitioned,
        validatedLlmResult loads dispatch provider = .ok (llmResult, validationMetadata) ∧
        transitionWorkItem item (outcomeRecord dispatch provider llmResult validationMetadata) =
          .ok transitioned ∧
        metadata = validationMetadata.or (providerRetryMetadata llmResult.errorKind) ∧
        (shouldMarkWorkItemCompleted validationMetadata = false ∧ next = transitioned ∨
          shouldMarkWorkItemCompleted validationMetadata = true ∧
            WorkItemStateMachine.completeLeased transitioned = .ok next) := by
  unfold executeOnItem at h
  obtain ⟨⟨llmResult, validationMetadata⟩, hvalidated, h⟩ := bind_eq_ok.mp h
  obtain ⟨_, hlease, h⟩ := bind_eq_ok.mp h
  obtain ⟨transitioned, htransition, h⟩ := bind_eq_ok.mp h
  obtain ⟨hleased, _, hcount⟩ := validateCurrentLease_eq_ok_iff.mp hlease
  refine ⟨hleased, hcount, llmResult, validationMetadata, transitioned, hvalidated, htransition, ?_⟩
  dsimp only at h
  rw [shouldMark_attemptActionMetadata] at h
  split at h
  · next hmarks =>
    obtain ⟨completed, hcompleted, h⟩ := bind_eq_ok.mp h
    cases h
    exact ⟨rfl, .inr ⟨hmarks, hcompleted⟩⟩
  · next hmarks =>
    cases h
    exact ⟨rfl, .inl ⟨Bool.not_eq_true _ ▸ hmarks, rfl⟩⟩

/-- A completed attempt: the item has the status, its attempts are counted as before. -/
theorem completeLeased_eq_ok (h : WorkItemStateMachine.completeLeased item = .ok next) :
    next.status = .completed ∧ next.attemptCount = item.attemptCount := by
  obtain ⟨_, _, h⟩ := bind_eq_ok.mp h
  cases h
  exact ⟨rfl, rfl⟩

/-- An attempt ends the lease under its number. It is accepted as empty exactly when
its output is an empty list and it is not one of the first two. -/
theorem executeOnItem_spec
    (h : executeOnItem loads item dispatch provider = .ok (next, metadata)) :
    item.status = .leased ∧ item.attemptCount = dispatch.attemptNumber ∧ next.status ≠ .leased ∧
      next.attemptCount = item.attemptCount ∧
      ((attemptEntry dispatch provider metadata next).AcceptedEmpty ↔
        3 ≤ dispatch.attemptNumber ∧
          (attemptEntry dispatch provider metadata next).ReturnedEmpty loads) := by
  obtain ⟨hleased, hcount, llmResult, validationMetadata, transitioned, hvalidated, htransition,
    hmetadata, hending⟩ := executeOnItem_eq_ok h
  obtain ⟨hkept, hcases⟩ := transitionWorkItem_cases htransition
  refine ⟨hleased, hcount, ?_⟩
  by_cases hsucceeded : provider.status = .succeeded
  · obtain ⟨decision, hdecision, hstatus, rfl⟩ :=
      validatedLlmResult_of_succeeded hsucceeded hvalidated
    have houtcome : (outcomeRecord dispatch provider llmResult
        (some (metadataOf decision))).outcomeStatus = .succeeded ↔
        shouldMarkWorkItemCompleted (some (metadataOf decision)) = true := by
      rw [← status_decisionToDispatchResult_iff, ← hstatus]
      exact mapStatus_eq_succeeded_iff
    have hkind : decision.outcomeKind = .validEmpty ↔ 3 ≤ dispatch.attemptNumber ∧
        (attemptEntry dispatch provider metadata next).ReturnedEmpty loads := by
      rw [decideDispatch_validEmpty_iff hdecision]
      exact and_congr_right fun _ => (and_iff_right hsucceeded).symm
    rw [← hkind]
    rcases hending with ⟨hunmarked, rfl⟩ | ⟨hmarked, hcompleted⟩
    · obtain ⟨-, hunleased, hopen⟩ : _ ∧ next.status ≠ .leased ∧ next.status ≠ .completed := by
        refine hcases.resolve_left fun hsuccess => ?_
        rw [houtcome.mp hsuccess.1] at hunmarked
        cases hunmarked
      refine ⟨hunleased, hkept, iff_of_false (fun haccepted => hopen haccepted.1) fun hempty => ?_⟩
      rw [shouldMark_metadataOf.mpr (.inr hempty)] at hunmarked
      cases hunmarked
    · obtain ⟨hstatus', hcount'⟩ := completeLeased_eq_ok hcompleted
      refine ⟨by rw [hstatus']; nofun, hcount'.trans hkept, ?_⟩
      rw [← outcomeKind_value_eq_validEmpty_iff, hmetadata]
      unfold AttemptEntry.AcceptedEmpty attemptEntry
      rw [hstatus']
      simp [decisionMetadata, ValidationMetadata.get]
  · have hfailed : ¬ (attemptEntry dispatch provider metadata next).ReturnedEmpty loads :=
      fun hreturned => hsucceeded hreturned.1
    unfold validatedLlmResult at hvalidated
    rw [dif_neg hsucceeded] at hvalidated
    cases hvalidated
    rcases hending with ⟨-, rfl⟩ | ⟨hmarked, -⟩
    · obtain ⟨-, hunleased, hopen⟩ : _ ∧ next.status ≠ .leased ∧ next.status ≠ .completed := by
        refine hcases.resolve_left fun hsuccess => hsucceeded ?_
        exact mapStatus_eq_succeeded_iff.mp hsuccess.1
      exact ⟨hunleased, hkept, iff_of_false (fun haccepted => hopen haccepted.1)
        fun hempty => hfailed hempty.2⟩
    · cases hmarked

end Attempt

/-! The attempts of a history. -/

/-- The attempts have increasing numbers, up to the count of the item, and under a
lease the next number is free. -/
structure AttemptsOrdered (history : AttemptHistory) : Prop where
  ordered : history.attempts.Pairwise fun first second =>
    first.attemptNumber < second.attemptNumber
  counted : ∀ entry ∈ history.attempts, 0 < entry.attemptNumber ∧
    entry.attemptNumber ≤ history.item.attemptCount
  leased : history.item.status = .leased → ∀ entry ∈ history.attempts,
    entry.attemptNumber < history.item.attemptCount

/-- The attempts that are accepted as empty are those with an empty list from the
third on. -/
def AcceptedByNumber (loads : JsonLoads) (history : AttemptHistory) : Prop :=
  ∀ entry ∈ history.attempts,
    (entry.AcceptedEmpty ↔ 3 ≤ entry.attemptNumber ∧ entry.ReturnedEmpty loads)

section Histories

variable {loads : JsonLoads} {history : AttemptHistory}

theorem attemptsOrdered_transition (h : AttemptsOrdered history) {transition : Transition}
    {item : WorkItem} (happly : transition.apply history.item = .ok item) :
    AttemptsOrdered { history with item } := by
  have hcount := attemptCount_of_apply happly
  refine ⟨h.ordered, fun entry hentry => ?_, fun hleased entry hentry => ?_⟩
  · obtain ⟨hpos, hle⟩ := h.counted entry hentry
    exact ⟨hpos, by dsimp only; omega⟩
  · have hle := (h.counted entry hentry).2
    dsimp only at hleased ⊢
    cases hlease : transition.isLease with
    | true =>
      obtain ⟨-, worker, token, expires, rfl⟩ := leasedItem_of_apply hlease happly
      exact Nat.lt_succ_of_le hle
    | false =>
      rcases endsUnleased_of_apply hlease happly with ⟨-, _, _, _, hstatus, rfl, -⟩ | rfl
      · exact absurd hleased hstatus
      · exact h.leased hleased entry hentry

theorem attemptsOrdered_attempt (h : AttemptsOrdered history) {dispatch : DispatchForExecution}
    {provider : LlmDispatchExecutionResult} {item : WorkItem}
    {metadata : Option ValidationMetadata}
    (hrun : executeOnItem loads history.item dispatch provider = .ok (item, metadata)) :
    AttemptsOrdered ⟨item, history.attempts ++ [attemptEntry dispatch provider metadata item]⟩ := by
  obtain ⟨hleased, hnumber, hunleased, hcount, -⟩ := executeOnItem_spec hrun
  refine ⟨?_, fun entry hentry => ?_, fun hstill => absurd hstill hunleased⟩
  · rw [List.pairwise_append]
    refine ⟨h.ordered, List.pairwise_singleton _ _, fun entry hentry last hlast => ?_⟩
    rw [List.mem_singleton.mp hlast]
    have hfree := h.leased hleased entry hentry
    rwa [hnumber] at hfree
  · dsimp only
    rw [hcount]
    rcases List.mem_append.mp hentry with hold | hlast
    · exact h.counted entry hold
    · rw [List.mem_singleton.mp hlast]
      exact ⟨dispatch.attemptNumber_pos, hnumber.ge⟩

theorem ordered_performHistory (h : AttemptsOrdered history ∧ AcceptedByNumber loads history)
    (event : HistoryEvent) :
    AttemptsOrdered (performHistory loads history event) ∧
      AcceptedByNumber loads (performHistory loads history event) := by
  cases event with
  | transition transition =>
    unfold performHistory
    dsimp only
    split
    · next item happly => exact ⟨attemptsOrdered_transition h.1 happly, h.2⟩
    · exact h
  | attempt dispatch provider =>
    unfold performHistory
    dsimp only
    split
    · next item metadata hrun =>
      refine ⟨attemptsOrdered_attempt h.1 hrun, fun entry hentry => ?_⟩
      rcases List.mem_append.mp hentry with hold | hlast
      · exact h.2 entry hold
      · rw [List.mem_singleton.mp hlast]
        exact (executeOnItem_spec hrun).2.2.2.2
    · exact h

theorem ordered_foldl_performHistory (events : List HistoryEvent)
    (h : AttemptsOrdered history ∧ AcceptedByNumber loads history) :
    AttemptsOrdered (events.foldl (performHistory loads) history) ∧
      AcceptedByNumber loads (events.foldl (performHistory loads) history) := by
  induction events generalizing history with
  | nil => exact h
  | cons event rest ih => exact ih (ordered_performHistory h event)

theorem ordered_freshHistory (loads : JsonLoads) (workItemId workKind : String)
    (hid : isBlank workItemId = false) :
    AttemptsOrdered (freshHistory workItemId workKind hid) ∧
      AcceptedByNumber loads (freshHistory workItemId workKind hid) :=
  ⟨⟨.nil, by simp [freshHistory], by simp [freshHistory]⟩, by simp [AcceptedByNumber, freshHistory]⟩

end Histories

/-! Which histories confirm. -/

/-- An attempt from the third on has an empty list. -/
def LateEmpty (loads : JsonLoads) (attempts : List AttemptEntry) : Prop :=
  ∃ entry ∈ attempts, 3 ≤ entry.attemptNumber ∧ entry.ReturnedEmpty loads

/-- Both attempts before the third have one. -/
def FirstTwoEmpty (loads : JsonLoads) (attempts : List AttemptEntry) : Prop :=
  ∀ number ∈ [1, 2], ∃ entry ∈ attempts, entry.attemptNumber = number ∧ entry.ReturnedEmpty loads

section Confirmation

variable {loads : JsonLoads} {history : AttemptHistory}

/-- In order of their numbers, an entry with a smaller number comes first. -/
theorem sublist_of_lt {attempts : List AttemptEntry}
    (hordered : attempts.Pairwise fun first second => first.attemptNumber < second.attemptNumber)
    {first second : AttemptEntry} (hfirst : first ∈ attempts) (hsecond : second ∈ attempts)
    (hlt : first.attemptNumber < second.attemptNumber) : [first, second].Sublist attempts := by
  induction attempts with
  | nil => cases hfirst
  | cons entry rest ih =>
    obtain ⟨hhead, htail⟩ := List.pairwise_cons.mp hordered
    rcases List.mem_cons.mp hfirst with rfl | hrest
    · rcases List.mem_cons.mp hsecond with rfl | hlater
      · omega
      · exact (List.singleton_sublist.mpr hlater).cons_cons _
    · rcases List.mem_cons.mp hsecond with rfl | hlater
      · have hbefore := hhead first hrest
        omega
      · exact (ih htail hrest hlater).cons _

/-- Of the attempts, those before an entry have smaller numbers. -/
theorem lt_of_split (h : AttemptsOrdered history) {earlier later : List AttemptEntry}
    {entry : AttemptEntry} (hsplit : history.attempts = earlier ++ entry :: later) :
    earlier.Pairwise (fun first second => first.attemptNumber < second.attemptNumber) ∧
      (∀ other ∈ earlier, other.attemptNumber < entry.attemptNumber) ∧
      ∀ other ∈ history.attempts, other.attemptNumber < entry.attemptNumber → other ∈ earlier := by
  have hordered := h.ordered
  rw [hsplit, List.pairwise_append, List.pairwise_cons] at hordered
  obtain ⟨hearlier, ⟨hlater, -⟩, hcross⟩ := hordered
  refine ⟨hearlier, fun other hother => hcross other hother entry List.mem_cons_self, ?_⟩
  intro other hother hlt
  rw [hsplit, List.mem_append, List.mem_cons] at hother
  rcases hother with hbefore | rfl | hafter
  · exact hbefore
  · omega
  · have hgt := hlater other hafter
    omega

/-- A confirmed late answer leads back to the first two attempts. -/
theorem firstTwoEmpty_of_late (h : AttemptsOrdered history)
    (haccepted : AcceptedByNumber loads history)
    (hconfirmed : Confirmed loads history.attempts) {entry : AttemptEntry}
    (hentry : entry ∈ history.attempts) (hlate : 3 ≤ entry.attemptNumber)
    (hempty : entry.ReturnedEmpty loads) : FirstTwoEmpty loads history.attempts := by
  induction hnumber : entry.attemptNumber using Nat.strong_induction_on generalizing entry with
  | _ number ih =>
    obtain ⟨earlier, later, hsplit⟩ := List.append_of_mem hentry
    obtain ⟨hearlier, hbefore, -⟩ := lt_of_split h hsplit
    obtain ⟨first, second, hsub, hfirst, hsecond⟩ := hconfirmed earlier entry later hsplit
      ((haccepted entry hentry).mpr ⟨hlate, hempty⟩)
    have hin : ∀ other ∈ [first, second], other ∈ earlier := fun other => hsub.mem
    have hmem : ∀ other ∈ [first, second], other ∈ history.attempts := by
      intro other hother
      rw [hsplit]
      exact List.mem_append_left _ (hin other hother)
    have hlt : first.attemptNumber < second.attemptNumber := by
      have hpair := hearlier.sublist hsub
      exact List.rel_of_pairwise_cons hpair List.mem_cons_self
    have hpos := (h.counted first (hmem first List.mem_cons_self)).1
    have hsmaller := hbefore second (hin second (by simp))
    by_cases hearly : second.attemptNumber ≤ 2
    · -- the two answers before are those of the first two attempts
      intro wanted hwanted
      rw [List.mem_pair] at hwanted
      rcases hwanted with rfl | rfl
      · exact ⟨first, hmem first List.mem_cons_self, by omega, hfirst⟩
      · exact ⟨second, hmem second (by simp), by omega, hsecond⟩
    · exact ih second.attemptNumber (by omega) (hmem second (by simp)) (by omega) hsecond rfl

theorem confirmed_of_firstTwoEmpty (h : AttemptsOrdered history)
    (haccepted : AcceptedByNumber loads history)
    (hfirst : LateEmpty loads history.attempts → FirstTwoEmpty loads history.attempts) :
    Confirmed loads history.attempts := by
  intro earlier entry later hsplit haccept
  have hentry : entry ∈ history.attempts := by
    rw [hsplit]
    exact List.mem_append_right _ List.mem_cons_self
  obtain ⟨hlate, hempty⟩ := (haccepted entry hentry).mp haccept
  have htwo := hfirst ⟨entry, hentry, hlate, hempty⟩
  obtain ⟨one, hone, honeNumber, honeEmpty⟩ := htwo 1 (by simp)
  obtain ⟨two, htwoMem, htwoNumber, htwoEmpty⟩ := htwo 2 (by simp)
  obtain ⟨hearlier, -, hbefore⟩ := lt_of_split h hsplit
  refine ⟨one, two, sublist_of_lt hearlier ?_ ?_ (by omega), honeEmpty, htwoEmpty⟩
  · exact hbefore one hone (by omega)
  · exact hbefore two htwoMem (by omega)

/-- In a history of any attempts and other calls every accepted empty answer is
confirmed exactly when an attempt from the third on has an empty list only where
the first two attempts have one. -/
theorem confirmed_iff (loads : JsonLoads) (workItemId workKind : String)
    (hid : isBlank workItemId = false) (events : List HistoryEvent) :
    Confirmed loads (events.foldl (performHistory loads)
        (freshHistory workItemId workKind hid)).attempts ↔
      (LateEmpty loads (events.foldl (performHistory loads)
          (freshHistory workItemId workKind hid)).attempts →
        FirstTwoEmpty loads (events.foldl (performHistory loads)
          (freshHistory workItemId workKind hid)).attempts) := by
  obtain ⟨hordered, haccepted⟩ :=
    ordered_foldl_performHistory events (ordered_freshHistory loads workItemId workKind hid)
  refine ⟨fun hconfirmed => ?_, confirmed_of_firstTwoEmpty hordered haccepted⟩
  rintro ⟨entry, hentry, hlate, hempty⟩
  exact firstTwoEmpty_of_late hordered haccepted hconfirmed hentry hlate hempty

end Confirmation

/-! Two histories of three attempts. -/

def skyDispatch (number : Nat) (leaseToken : String) (hnumber : 0 < number) :
    DispatchForExecution where
  attemptId := "attempt"
  workItemId := "item"
  attemptNumber := number
  leaseToken := leaseToken
  workerRef := "worker"
  dispatchPayload := skyDispatchPayload
  startedAt := 0
  attemptNumber_pos := hnumber

/-- The provider answers a text. -/
def textAnswer (text : String) : LlmDispatchExecutionResult where
  status := .succeeded
  finishedAt := 1
  outputPayload := some [("raw_text", .str text)]
  errorKind := none
  outputPayload_of_succeeded := fun _ => rfl
  errorKind_iff := succeeded_without_error

/-- The provider refuses a call within the minute. -/
def limitedAnswer : LlmDispatchExecutionResult where
  status := .retryableFailed
  finishedAt := 1
  outputPayload := none
  errorKind := some "minute_limit"
  outputPayload_of_succeeded := nofun
  errorKind_iff := by decide

def noClaimsText : String := "\x7b\"claims\":[]\x7d"

/-- A decoder that knows this text. -/
def noClaimsLoads : JsonLoads := fun text =>
  if text = noClaimsText then some (.dict [("claims", .list [])]) else none

theorem thirdAttempt_pos : 0 < 3 := by decide

/-- Three leases with an answer under each. -/
def threeAttempts (first second third : LlmDispatchExecutionResult) : List HistoryEvent :=
  [.transition (.leaseReady "worker" "token-1" 10 0),
    .attempt (skyDispatch 1 "token-1" Nat.one_pos) first,
    .transition (.leaseReady "worker" "token-2" 20 10),
    .attempt (skyDispatch 2 "token-2" Nat.two_pos) second,
    .transition (.leaseReady "worker" "token-3" 30 20),
    .attempt (skyDispatch 3 "token-3" thirdAttempt_pos) third]

def threeAttemptHistory (first second third : LlmDispatchExecutionResult) : AttemptHistory :=
  (threeAttempts first second third).foldl (performHistory noClaimsLoads)
    (freshHistory "item" claimBuilderSectionWorkKind (Eq.refl false))

theorem returnedEmpty_noClaims {entry : AttemptEntry}
    (hprovider : entry.provider = textAnswer noClaimsText) :
    entry.ReturnedEmpty noClaimsLoads := by
  unfold AttemptEntry.ReturnedEmpty
  rw [hprovider]
  refine ⟨rfl, rfl, [("claims", .list [])], ?_, rfl⟩
  simp [decodedClaimBuilderOutput, textAnswer, noClaimsLoads, Payload.get]

/-- Three answers without claims: the last one is confirmed. -/
theorem confirmed_threeEmpty :
    Confirmed noClaimsLoads (threeAttemptHistory (textAnswer noClaimsText)
      (textAnswer noClaimsText) (textAnswer noClaimsText)).attempts := by
  refine (confirmed_iff noClaimsLoads "item" claimBuilderSectionWorkKind (by decide)
    (threeAttempts (textAnswer noClaimsText) (textAnswer noClaimsText)
      (textAnswer noClaimsText))).mpr fun _ number hnumber => ?_
  rw [List.mem_pair] at hnumber
  rcases hnumber with rfl | rfl
  · exact ⟨_, List.mem_cons_self, rfl, returnedEmpty_noClaims rfl⟩
  · exact ⟨_, List.mem_cons_of_mem _ List.mem_cons_self, rfl, returnedEmpty_noClaims rfl⟩

/-- After a rate limit and an answer that is no JSON, the first empty list completes
the item. -/
theorem unconfirmed_afterFailures :
    (threeAttemptHistory limitedAnswer (textAnswer "no JSON")
        (textAnswer noClaimsText)).item.status = .completed ∧
      ¬ Confirmed noClaimsLoads (threeAttemptHistory limitedAnswer (textAnswer "no JSON")
        (textAnswer noClaimsText)).attempts := by
  refine ⟨by decide +kernel, fun hconfirmed => ?_⟩
  obtain ⟨first, second, hsub, hempty, -⟩ := hconfirmed [_, _] _ [] rfl ⟨rfl, rfl⟩
  have heq := hsub.eq_of_length rfl
  rw [List.cons.injEq] at heq
  rw [heq.1] at hempty
  cases hempty.1

end CrmBot.ClaimBuilder
