import CrmBot.ClaimBuilder.ClaimAnswer

/-! Runs of the executions of a command.

Leases are recovered and granted between them. -/

namespace CrmBot.ClaimBuilder

open Relational CrmBot.Python CrmBot.ExecutionRuntime CrmBot.LlmRuntime CrmBot.WorkflowRuntime
open FailingFold Runs

variable {settings : SectionSettings} {ids : SectionCommand} {state : SectionState}
  {execution : SectionExecution}

/-- An execution that raises is none that would have completed the item. -/
theorem keepsClaims_of_error {fault : Fault}
    (herror : executePreparedLlmDispatchAttempt settings.loads execution.executeDispatch
      state.store ids.dispatchAttemptId execution.recordedAt = .error fault) :
    KeepsClaims settings ids state execution := by
  have hnoAnswer : ∀ {dispatch provider decision context}, ¬ CompletesFromAnswer settings
      execution.executeDispatch state.store ids dispatch provider decision context := by
    intro dispatch provider decision context hanswer
    obtain ⟨_, _, _, _, hid, _⟩ := getDispatchForExecution_eq_some hanswer.dispatch_eq
    obtain ⟨_, _, hnew⟩ :=
      executeUnrecorded_of_completesFromAnswer execution.recordedAt hanswer
    unfold executePreparedLlmDispatchAttempt at herror
    rw [hanswer.dispatch_eq] at herror
    simp only [bind, Except.bind] at herror
    rw [hid, hanswer.unrecorded] at herror
    dsimp only at herror
    rw [hnew] at herror
    cases herror
  refine ⟨?_, fun _ _ _ _ _ _ => hnoAnswer, fun _ _ _ _ _ hanswer => absurd hanswer hnoAnswer⟩
  intro _ dispatch recorded hcompletes
  obtain ⟨_, hanswered⟩ := execute_of_recorded settings.loads execution.executeDispatch
    execution.recordedAt hcompletes.dispatch_eq hcompletes.recorded_eq hcompletes.errorKind
  rw [hanswered] at herror
  cases herror

/-- One execution. -/
theorem claimsKept_runSection_iff
    (hkept : ClaimsKept settings.loads ids.dispatchAttemptId state) :
    ClaimsKept settings.loads ids.dispatchAttemptId (runSection settings state ids execution) ↔
      KeepsClaims settings ids state execution := by
  unfold runSection
  cases hexecute : executePreparedLlmDispatchAttempt settings.loads execution.executeDispatch
      state.store ids.dispatchAttemptId execution.recordedAt with
  | error fault => exact iff_of_true hkept (keepsClaims_of_error hexecute)
  | ok answer =>
    obtain ⟨result, store⟩ := answer
    obtain ⟨dispatch, hdispatch, hid, hcases⟩ := executePreparedLlmDispatchAttempt_cases hexecute
    rcases hcases with ⟨recorded, hrecorded, hresult, rfl⟩ | ⟨hopen, hnew⟩
    · exact claimsKept_replayed_iff hdispatch hrecorded hresult hkept
    · exact claimsKept_executed_iff hdispatch hnew hopen hkept

/-- What may happen to a command: it is executed, leases are recovered, and items
are leased. -/
inductive SectionStep
  | execute (execution : SectionExecution)
  | reclaim (locked : String → Bool) (now : Int) (limit : Nat)
  | lease (locked : String → Bool) (workKind workItemId worker leaseToken : String)
      (leaseExpiresAt now : Int)

def performSectionStep (settings : SectionSettings) (command : WorkflowCommand)
    (state : SectionState) : SectionStep → SectionState
  | .execute execution => handleExecuteClaimBuilderSection settings state command execution
  | .reclaim locked now limit => { state with store := reclaimExpired state.store locked now limit }
  | .lease locked workKind workItemId worker leaseToken leaseExpiresAt now =>
    match leaseDueWorkItemById state.store locked workKind workItemId worker leaseToken
        leaseExpiresAt now with
    | .ok (_, store) => { state with store }
    | .error _ => state

/-- The executions among the steps keep the claims. -/
def StepKeepsClaims (settings : SectionSettings) (ids : SectionCommand) (state : SectionState) :
    SectionStep → Prop
  | .execute execution => KeepsClaims settings ids state execution
  | .reclaim _ _ _ | .lease _ _ _ _ _ _ _ => True

theorem claimsKept_reclaim {loads : JsonLoads} {attemptId : String} (locked : String → Bool)
    (now : Int) (limit : Nat) (hkept : ClaimsKept loads attemptId state) :
    ClaimsKept loads attemptId
      { state with store := reclaimExpired state.store locked now limit } := by
  have hdispatches : (reclaimExpired state.store locked now limit).dispatches =
      state.store.dispatches := rfl
  apply hkept.of_frame rfl hdispatches
  · exact llmOutputPayload_reclaimExpired
  · exact fun _ => completed_reclaimExpired_iff

variable {command : WorkflowCommand}

theorem claimsKept_performSectionStep_iff (hcommand : sectionCommand command = .ok ids)
    (hkept : ClaimsKept settings.loads ids.dispatchAttemptId state) (step : SectionStep) :
    ClaimsKept settings.loads ids.dispatchAttemptId
        (performSectionStep settings command state step) ↔
      StepKeepsClaims settings ids state step := by
  cases step with
  | execute execution =>
    unfold performSectionStep handleExecuteClaimBuilderSection StepKeepsClaims
    rw [hcommand]
    exact claimsKept_runSection_iff hkept
  | reclaim locked now limit =>
    exact iff_of_true (claimsKept_reclaim locked now limit hkept) trivial
  | lease locked workKind workItemId worker leaseToken leaseExpiresAt now =>
    apply iff_of_true _ trivial
    unfold performSectionStep
    dsimp only
    split
    · next record store hlease =>
      obtain ⟨hattempts, hdispatches, hcompleted⟩ := leaseDueWorkItemById_frame hlease
      exact hkept.of_frame rfl hdispatches (by rw [hattempts]) hcompleted
    · exact hkept

/-- The claims of a command are kept after every step of a run exactly when every
execution in it meets the condition. -/
theorem claimsKept_iff (settings : SectionSettings) {command : WorkflowCommand}
    {ids : SectionCommand} (hcommand : sectionCommand command = .ok ids) {start : SectionState}
    (hstart : ClaimsKept settings.loads ids.dispatchAttemptId start) (steps : List SectionStep) :
    EveryStep (performSectionStep settings command)
        (fun state step => ClaimsKept settings.loads ids.dispatchAttemptId
          (performSectionStep settings command state step)) start steps ↔
      EveryStep (performSectionStep settings command) (StepKeepsClaims settings ids) start
        steps := by
  have hstep : ∀ state step, ClaimsKept settings.loads ids.dispatchAttemptId state →
      (ClaimsKept settings.loads ids.dispatchAttemptId
          (performSectionStep settings command state step) ↔
        StepKeepsClaims settings ids state step) :=
    fun _ step hkept => claimsKept_performSectionStep_iff hcommand hkept step
  exact everyStep_iff_of_keeps hstep hstart

/-! A section whose claims are lost. -/

def skyProvider : ExecuteDispatch := fun _ => .ok {
  status := .succeeded
  finishedAt := 10
  outputPayload := some [("raw_text", .str skyAnswer)]
  errorKind := none
  outputPayload_of_succeeded := fun _ => rfl
  errorKind_iff := succeeded_without_error }

def skyStep (abort : Option AbortPoint) : SectionStep :=
  .execute { executeDispatch := skyProvider, recordedAt := 11, createdAt := 12, completedAt := 13
             abort }

/-- A port with transactions of its own. -/
def skyPort : SectionSettings := ⟨skyLoads, id, true⟩

theorem claimsKept_sky : ClaimsKept skyLoads "attempt" skySection where
  completed hdone := by
    obtain ⟨row, hrow, hstatus⟩ := hdone
    cases hrow
    cases hstatus
  notCompleted _ := showsClaims_nil_iff.mpr nofun

theorem claimsKept_iff_sky :
    EveryStep (performSectionStep skyPort skyCommand)
        (fun state step => ClaimsKept skyLoads "attempt"
          (performSectionStep skyPort skyCommand state step)) skySection
        [skyStep (some .afterOutcome), skyStep none] ↔
      EveryStep (performSectionStep skyPort skyCommand) (StepKeepsClaims skyPort skyIds) skySection
        [skyStep (some .afterOutcome), skyStep none] := by
  have hcommand : sectionCommand skyCommand = .ok skyIds := by decide
  have hstart : ClaimsKept skyPort.loads skyIds.dispatchAttemptId skySection := claimsKept_sky
  exact claimsKept_iff skyPort hcommand hstart _

/-- The section after an execution that is aborted once its outcome is recorded, and
a second one. -/
def skyReplayed : SectionState :=
  [skyStep (some .afterOutcome), skyStep none].foldl (performSectionStep skyPort skyCommand)
    skySection

/-- The item is completed, the recorded output has a claim, and no draft is there. -/
theorem claims_lost_on_replay :
    itemStatus skyReplayed.store "item" = some .completed ∧
      (recordedClaims skyLoads skyReplayed.store "attempt").map
        ValidatedClaimBuilderClaim.claim = ["The sky is blue"] ∧
      skyReplayed.drafts.rows = [] ∧ ¬ ClaimsKept skyLoads "attempt" skyReplayed := by
  have hrun : itemStatus skyReplayed.store "item" = some .completed ∧
      (recordedClaims skyLoads skyReplayed.store "attempt").map
        ValidatedClaimBuilderClaim.claim = ["The sky is blue"] ∧
      skyReplayed.drafts.rows = [] ∧
      (skyReplayed.store.dispatches.find? "attempt").map DispatchRow.workItemId =
        some "item" := by decide +kernel
  obtain ⟨hstatus, hclaims, hdrafts, hdispatch⟩ := hrun
  refine ⟨hstatus, hclaims, hdrafts, ?_⟩
  intro hkept
  obtain ⟨row, hrow, hitem⟩ := Option.map_eq_some_iff.mp hdispatch
  have hdone : ItemCompleted skyReplayed.store "attempt" := ⟨row, hrow, hitem ▸ hstatus⟩
  have hnone : ShowsClaims skyReplayed.drafts "attempt" [] := by
    apply showsClaims_nil_iff.mpr
    rw [hdrafts]
    nofun
  have hempty := hnone.eq_nil (hkept.completed hdone)
  rw [hempty] at hclaims
  cases hclaims

end CrmBot.ClaimBuilder
