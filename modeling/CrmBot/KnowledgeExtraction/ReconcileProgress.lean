import CrmBot.KnowledgeExtraction.SagaReconcile
import CrmBot.Library.Runs

/-! Runs of `KnowledgeExtractionSaga.reconcile` and the progress of workflows. -/

namespace CrmBot.KnowledgeExtraction

open Relational CrmBot.Python CrmBot.ExecutionRuntime CrmBot.ClaimBuilder Runs

/-- One call of `reconcile`, with what the source tables hold at that time. -/
structure ReconcileCall where
  workflowRunId : String
  sources : SourceSnapshot
  now : Int
  occurredAt : Int

/-- The call is one transaction, rolled back on a fault. -/
def performReconcile (setting : SagaSetting) (world : SagaWorld) (call : ReconcileCall) :
    SagaWorld :=
  match reconcile setting world call.workflowRunId call.sources call.now call.occurredAt with
  | .ok (_, after) => after
  | .error _ => world

/-! The property. -/

/-- Paused by a user, not by a reconcile that missed its sources. -/
def WorkflowRow.manuallyPaused (row : WorkflowRow) : Prop :=
  row.status = .paused ∧ row.pauseReason ≠ some sourceDocumentMissing ∧
    row.pauseReason ≠ some sourceUnitsMissing

/-- The workflow is over or waits for a user. -/
def WorkflowRow.settled (row : WorkflowRow) : Prop :=
  row.status.isTerminal = true ∨ row.manuallyPaused

/-- Every workflow of the run that is settled keeps its status, and no phase
becomes an earlier one. -/
def NeverBackwards (setting : SagaSetting) (start : SagaWorld) (calls : List ReconcileCall) :
    Prop :=
  ∀ earlier later, calls = earlier ++ later →
    let reached := earlier.foldl (performReconcile setting) start
    ∀ workflowRunId row, reached.saga.runs.find? workflowRunId = some row →
      ∃ after, (later.foldl (performReconcile setting) reached).saga.runs.find? workflowRunId =
          some after ∧
        (row.settled → after.status = row.status) ∧
        row.currentPhase.order ≤ after.currentPhase.order

/-- A reconcile that follows a successful one of the same workflow and sources
schedules nothing. -/
def NoFurtherWork (setting : SagaSetting) (start : SagaWorld) (calls : List ReconcileCall) : Prop :=
  ∀ earlier call again later, calls = earlier ++ call :: again :: later →
    again.workflowRunId = call.workflowRunId → again.sources = call.sources →
    let reached := earlier.foldl (performReconcile setting) start
    (∃ result, reconcile setting reached call.workflowRunId call.sources call.now
      call.occurredAt = .ok result) →
    let reconciled := performReconcile setting reached call
    (performReconcile setting reconciled again).execution = reconciled.execution

/-! The condition. -/

/-- The phase that the sources of a workflow stand for. -/
def SourceSnapshot.justifiedPhase (sources : SourceSnapshot) : PhaseKey :=
  if ¬ sources.documentPresent then .sourceDocumentPersisted
  else if sources.unitCount = 0 then .sourceUnitsCreated
  else .claimBuilderWorkScheduled

/-- The saga does not reconcile sources, or the tables refuse the phase it would
go on to, or the workflow is not settled and not past its sources. -/
def MayReconcile (setting : SagaSetting) (before : SagaWorld) (call : ReconcileCall) : Prop :=
  setting.reconcilesSources = false ∨
    (call.sources.justifiedPhase = .claimBuilderWorkScheduled ∧
      PhaseKey.claimBuilderWorkScheduled ∉ setting.allowedPhases) ∨
    ∀ row, before.saga.runs.find? call.workflowRunId = some row →
      ¬ row.settled ∧ row.currentPhase.order ≤ call.sources.justifiedPhase.order

/-! One call. -/

variable {setting : SagaSetting} {world after : SagaWorld} {call : ReconcileCall}

theorem sourceReconciledRow_awaits_iff {row : WorkflowRow} {sources : SourceSnapshot}
    {occurredAt : Int} :
    (sourceReconciledRow row sources occurredAt).awaitsScheduling ↔
      sources.justifiedPhase = .claimBuilderWorkScheduled := by
  unfold sourceReconciledRow SourceSnapshot.justifiedPhase WorkflowRow.awaitsScheduling
  split
  · simp [WorkflowRow.copyState]
  · split <;> simp [WorkflowRow.copyState]

/-- The phase of a reconciled row is the one its sources stand for. -/
theorem reconciledRow_phase {row : WorkflowRow} {sources : SourceSnapshot} {occurredAt : Int}
    (hreconciles : setting.reconcilesSources = true) :
    (reconciledRow setting row sources occurredAt).currentPhase = sources.justifiedPhase := by
  unfold reconciledRow rowAfterSources
  simp only [hreconciles, if_true]
  split
  · next hawaits =>
    rw [sourceReconciledRow_awaits_iff.mp hawaits]
    rfl
  · next hawaits =>
    rw [sourceReconciledRow_awaits_iff] at hawaits
    unfold sourceReconciledRow
    unfold SourceSnapshot.justifiedPhase at hawaits ⊢
    by_cases hpresent : sources.documentPresent = true
    · by_cases hcount : sources.unitCount = 0
      · simp [hpresent, hcount, WorkflowRow.copyState]
      · simp [hpresent, hcount] at hawaits
    · simp [hpresent, WorkflowRow.copyState]

/-- A settled row does not go on to scheduling. -/
theorem not_awaitsScheduling_of_settled {row : WorkflowRow} (h : row.settled) :
    ¬ row.awaitsScheduling := by
  rintro ⟨hstatus, _⟩
  rcases h with hterminal | ⟨hpaused, _⟩
  · rw [hstatus] at hterminal
    cases hterminal
  · rw [hstatus] at hpaused
    cases hpaused

/-- Without a source phase reconciler a row only ever advances to scheduling. -/
theorem reconciledRow_of_noSources {row : WorkflowRow} {sources : SourceSnapshot}
    {occurredAt : Int} (hreconciles : setting.reconcilesSources = false) :
    (row.settled → reconciledRow setting row sources occurredAt = row) ∧
      row.currentPhase.order ≤
          (reconciledRow setting row sources occurredAt).currentPhase.order := by
  unfold reconciledRow rowAfterSources
  simp only [hreconciles, Bool.false_eq_true, if_false]
  split
  · next hawaits =>
    refine ⟨fun hsettled => absurd hawaits (not_awaitsScheduling_of_settled hsettled), ?_⟩
    rw [hawaits.2]
    change 2 ≤ 3
    omega
  · exact ⟨fun _ => rfl, le_refl _⟩

/-- The workflow has not gone back from a row it once had, and not changed at
all if it was settled. -/
def Forward (row : WorkflowRow) (workflowRunId : String) (world : SagaWorld) : Prop :=
  ∃ next, world.saga.runs.find? workflowRunId = some next ∧ (row.settled → next = row) ∧
    row.currentPhase.order ≤ next.currentPhase.order

def StepsForward (before after : SagaWorld) : Prop :=
  ∀ workflowRunId row, before.saga.runs.find? workflowRunId = some row →
    Forward row workflowRunId after

theorem StepsForward.refl (world : SagaWorld) : StepsForward world world :=
  fun _ row hrow => ⟨row, hrow, fun _ => rfl, le_refl _⟩

theorem performReconcile_forward (hmay : MayReconcile setting world call) :
    StepsForward world (performReconcile setting world call) := by
  unfold performReconcile
  cases hcall : reconcile setting world call.workflowRunId call.sources call.now
      call.occurredAt with
  | error fault => exact .refl world
  | ok result =>
    obtain ⟨state, after⟩ := result
    obtain ⟨row, hrow⟩ := reconciled_of_eq_ok hcall
    have hrun := (Table.find?_eq_some_iff.mp hrow.found).2
    have hforward : (row.settled → reconciledRow setting row call.sources call.occurredAt = row) ∧
        row.currentPhase.order ≤
          (reconciledRow setting row call.sources call.occurredAt).currentPhase.order := by
      rcases hmay with hreconciles | ⟨hphase, hrefused⟩ | hopen
      · exact reconciledRow_of_noSources hreconciles
      · cases hreconciles : setting.reconcilesSources with
        | false => exact reconciledRow_of_noSources hreconciles
        | true =>
          have hawaits : (rowAfterSources setting row call.sources
              call.occurredAt).awaitsScheduling := by
            unfold rowAfterSources
            rw [if_pos hreconciles]
            exact sourceReconciledRow_awaits_iff.mpr hphase
          exact absurd (hrow.allowed hawaits) hrefused
      · obtain ⟨hsettled, horder⟩ := hopen row hrow.found
        cases hreconciles : setting.reconcilesSources with
        | false => exact reconciledRow_of_noSources hreconciles
        | true =>
          rw [reconciledRow_phase hreconciles]
          exact ⟨fun h => absurd h hsettled, horder⟩
    intro workflowRunId other hother
    dsimp only
    unfold Forward
    rw [hrow.saved workflowRunId, reconciledRow_workflowRunId, hrun]
    by_cases hsame : workflowRunId = call.workflowRunId
    · rw [hsame, hrow.found] at hother
      cases hother
      exact ⟨_, if_pos hsame, hforward⟩
    · rw [if_neg hsame]
      exact ⟨other, hother, fun _ => rfl, le_refl _⟩

/-- Going forward is kept along a run. -/
theorem neverBackwards_of_mayReconcile {start : SagaWorld} {calls : List ReconcileCall}
    (h : EveryStep (performReconcile setting) (MayReconcile setting) start calls) :
    NeverBackwards setting start calls := by
  intro earlier later heq reached workflowRunId row hrow
  rw [heq, everyStep_append] at h
  have hstep : ∀ state call, Forward row workflowRunId state → MayReconcile setting state call →
      Forward row workflowRunId (performReconcile setting state call) := by
    rintro state call ⟨next, hnext, hsettled, horder⟩ hmay
    obtain ⟨last, hlast, hkept, hforward⟩ := performReconcile_forward hmay workflowRunId next hnext
    refine ⟨last, hlast, ?_, le_trans horder hforward⟩
    intro hrowSettled
    have heq := hsettled hrowSettled
    rw [heq] at hkept
    exact hkept hrowSettled
  have hrun := h.2.invariant hstep ⟨row, hrow, fun _ => rfl, le_refl _⟩
  obtain ⟨next, hnext, hsettled, horder⟩ := hrun
  exact ⟨next, hnext, fun hrowSettled => congrArg WorkflowRow.status (hsettled hrowSettled), horder⟩

/-- The row a reconcile leaves goes on to scheduling only if the reconcile has
already scheduled. -/
theorem awaits_before_of_awaits_after {row : WorkflowRow} {sources : SourceSnapshot}
    {occurredAt again : Int}
    (h : (rowAfterSources setting (reconciledRow setting row sources occurredAt) sources
      again).awaitsScheduling) :
    (rowAfterSources setting row sources occurredAt).awaitsScheduling := by
  cases hreconciles : setting.reconcilesSources with
  | true =>
    unfold rowAfterSources at h ⊢
    rw [if_pos hreconciles, sourceReconciledRow_awaits_iff] at *
    exact h
  | false =>
    by_contra hnot
    have hsame : ∀ next occurredAt, rowAfterSources setting next sources occurredAt = next := by
      intro next occurredAt
      unfold rowAfterSources
      simp [hreconciles]
    rw [hsame] at h hnot
    unfold reconciledRow at h
    simp only [hsame] at h
    rw [if_neg hnot] at h
    exact hnot h

theorem reconciledRow_sourceDocumentRef {row : WorkflowRow} {sources : SourceSnapshot}
    {occurredAt : Int} :
    (reconciledRow setting row sources occurredAt).sourceDocumentRef = row.sourceDocumentRef := by
  unfold reconciledRow
  dsimp only
  split
  · exact rowAfterSources_sourceDocumentRef setting row sources occurredAt
  · exact rowAfterSources_sourceDocumentRef setting row sources occurredAt

/-- A second reconcile of an unchanged workflow schedules nothing. -/
theorem noFurtherWork (setting : SagaSetting) (start : SagaWorld) (calls : List ReconcileCall) :
    NoFurtherWork setting start calls := by
  intro earlier call again later _ hrun hsources reached hfirst reconciled
  obtain ⟨⟨state, after⟩, hcall⟩ := hfirst
  have hreconciled : reconciled = after := by
    simp only [reconciled, performReconcile, hcall]
  rw [hreconciled]
  unfold performReconcile
  cases hagain : reconcile setting after again.workflowRunId again.sources again.now
      again.occurredAt with
  | error fault => rfl
  | ok result =>
    obtain ⟨last, final⟩ := result
    obtain ⟨row, hrow⟩ := reconciled_of_eq_ok hcall
    obtain ⟨next, hnext⟩ := reconciled_of_eq_ok hagain
    -- the second call finds the row that the first one left
    have hrowRun := (Table.find?_eq_some_iff.mp hrow.found).2
    have hnextRow : next = reconciledRow setting row call.sources call.occurredAt := by
      have hfound := hnext.found
      rw [hrow.saved, reconciledRow_workflowRunId, hrun, if_pos hrowRun.symm] at hfound
      exact (Option.some.inj hfound).symm
    by_cases hawaits : (rowAfterSources setting next again.sources
        again.occurredAt).awaitsScheduling
    · have hbefore :
          (rowAfterSources setting row call.sources call.occurredAt).awaitsScheduling := by
        rw [hnextRow, hsources] at hawaits
        exact awaits_before_of_awaits_after hawaits
      obtain ⟨outcomes, hscheduled⟩ := hrow.scheduled hbefore
      obtain ⟨laterOutcomes, hlater⟩ := hnext.scheduled hawaits
      rw [hnextRow, reconciledRow_sourceDocumentRef, hrun, hsources] at hlater
      exact (scheduleClaimBuilderSectionWork_again hscheduled
        (fun unit hunit => ⟨unit, hunit, rfl⟩) (fun id hid => hid) hlater).1
    · exact hnext.idle hawaits

/-! No way back, and no work twice. -/

/-- Reconciliation never moves a workflow backwards and does no work twice. -/
def ReconcilesForward (setting : SagaSetting) (start : SagaWorld) (calls : List ReconcileCall) :
    Prop :=
  NeverBackwards setting start calls ∧ NoFurtherWork setting start calls

/-- Where every reconcile meets a workflow that is not settled and not past its
sources, the run moves no workflow backwards. -/
theorem reconcilesForward_of_mayReconcile (setting : SagaSetting) (start : SagaWorld)
    (calls : List ReconcileCall)
    (h : EveryStep (performReconcile setting) (MayReconcile setting) start calls) :
    ReconcilesForward setting start calls :=
  ⟨neverBackwards_of_mayReconcile h, noFurtherWork setting start calls⟩

/-! Runs on one workflow. -/

def sampleProject : String := "6f1b2c9e-4d3a-4a57-9c1e-0b8d5f7a2e31"

def sampleRow (status : WorkflowStatus) (currentPhase : PhaseKey)
    (hshape : StatusShape status currentPhase none (some 2) none) : WorkflowRow where
  workflowRunId := "knowledge-extraction:doc"
  projectId := sampleProject
  sourceDocumentRef := "doc"
  status := status
  currentPhase := currentPhase
  pauseReason := none
  failureKind := none
  failureMessage := none
  reviewStatus := none
  publicationRef := none
  cleanupStatus := none
  createdAt := 1
  updatedAt := 2
  completedAt := some 2
  cancelledAt := none
  status_shape := hshape

def sampleWorld (row : WorkflowRow) : SagaWorld where
  saga := { runs := Table.empty.insertOrIgnore row, checkpoints := .empty }
  execution :=
    { workItems := .empty, schedules := .empty, attempts := .empty, dispatches := .empty }

theorem find?_sampleWorld (row : WorkflowRow) :
    (sampleWorld row).saga.runs.find? row.workflowRunId = some row :=
  Table.find?_insertOrIgnore_self (by simp [Table.keys])

def sampleSetting : SagaSetting where
  allowedPhases := migratedPhases
  env :=
    { promptText := "prompt"
      profile :=
        { modelRef := "qwen/qwen3-32b", modelTpmLimit := 6000, promptTokens := 1953
          requestSafetyGapTokens := 100, multiplierNum := 3, multiplierDen := 1
          promptTokens_pos := by decide, multiplierNum_pos := by decide }
      payloadHash := fun _ => "hash" }
  reconcilesSources := true

/-- The source document has been deleted. -/
def missingDocumentCall : ReconcileCall where
  workflowRunId := "knowledge-extraction:doc"
  sources := { documentPresent := false, units := [] }
  now := 3
  occurredAt := 3

def acceptedRow : WorkflowRow :=
  sampleRow .running .documentAccepted (statusShape_of_open (.inl rfl))

def completedRow : WorkflowRow := sampleRow .completed .done (by simp [StatusShape])

/-- A workflow whose document is accepted may be reconciled. -/
theorem acceptedDocument_reconcilesForward :
    ReconcilesForward sampleSetting (sampleWorld acceptedRow) [missingDocumentCall] := by
  apply reconcilesForward_of_mayReconcile
  refine ⟨.inr (.inr ?_), trivial⟩
  intro row hrow
  have heq : acceptedRow = row := by
    apply Option.some.inj
    rw [← hrow]
    exact (find?_sampleWorld acceptedRow).symm
  rw [← heq]
  constructor
  · rintro (hterminal | ⟨hpaused, _⟩)
    · cases hterminal
    · cases hpaused
  · change 0 ≤ 1
    omega

/-- A completed workflow is paused when its document is gone. -/
theorem completedWorkflow_not_reconcilesForward :
    ¬ ReconcilesForward sampleSetting (sampleWorld completedRow) [missingDocumentCall] := by
  intro h
  obtain ⟨after, hafter, hstatus, _⟩ := h.1 [] [missingDocumentCall] rfl _ completedRow
    (find?_sampleWorld completedRow)
  have hpaused : ((performReconcile sampleSetting (sampleWorld completedRow)
      missingDocumentCall).saga.runs.find? completedRow.workflowRunId).map WorkflowRow.status =
        some .paused := by decide
  have hcompleted : after.status = .completed := hstatus (.inl rfl)
  have hfound := congrArg (Option.map WorkflowRow.status) hafter
  simp only [List.foldl_cons, List.foldl_nil, Option.map_some, hcompleted] at hfound
  rw [hpaused] at hfound
  cases hfound

end CrmBot.KnowledgeExtraction
