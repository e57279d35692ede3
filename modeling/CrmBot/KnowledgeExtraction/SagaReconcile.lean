import CrmBot.ClaimBuilder.ScheduleSectionWork
import CrmBot.KnowledgeExtraction.WorkflowState

/-! `KnowledgeExtractionSaga.reconcile`.

One call is one transaction: its result is the store it commits, and a fault
leaves the store as it was. What the source tables hold is an argument, and so
is whether the saga was built with a source phase reconciler. -/

namespace CrmBot.KnowledgeExtraction

open Relational CrmBot.Python CrmBot.ExecutionRuntime CrmBot.ClaimBuilder FailingFold

/-- What the source tables hold of the document of a workflow. -/
structure SourceSnapshot where
  documentPresent : Bool
  units : List SourceUnit

/-- `KnowledgeExtractionSourcePhaseReconciler`: without its document a workflow
has no units. -/
def SourceSnapshot.unitCount (sources : SourceSnapshot) : Nat :=
  if sources.documentPresent then sources.units.length else 0

/-- `source_reconciliation_checkpoints`, the first of the two. -/
def documentCheckpoint (row : WorkflowRow) (sources : SourceSnapshot) (occurredAt : Int) :
    PhaseCheckpoint where
  workflowRunId := row.workflowRunId
  phaseKey := .sourceDocumentPersisted
  phaseStatus := if sources.documentPresent then .completed else .blocked
  expectedCount := 1
  completedCount := if sources.documentPresent then 1 else 0
  failedCount := 0
  blockedCount := if sources.documentPresent then 0 else 1
  idempotencyKey := "source-document:" ++ row.sourceDocumentRef
  lastEventRef := none
  checkpointPayload := Payload.ofEntries
    [("source_document_ref", .str row.sourceDocumentRef),
      ("source_document_present", .bool sources.documentPresent)]
  updatedAt := occurredAt
  counts_le := by
    intro _
    cases sources.documentPresent <;> decide

/-- `source_reconciliation_checkpoints`, the second. -/
def unitsCheckpoint (row : WorkflowRow) (sources : SourceSnapshot) (occurredAt : Int) :
    PhaseCheckpoint where
  workflowRunId := row.workflowRunId
  phaseKey := .sourceUnitsCreated
  phaseStatus := if 0 < sources.unitCount then .completed else .notStarted
  expectedCount := sources.unitCount
  completedCount := sources.unitCount
  failedCount := 0
  blockedCount := 0
  idempotencyKey := "source-units:" ++ row.sourceDocumentRef
  lastEventRef := none
  checkpointPayload := Payload.ofEntries
    [("source_document_ref", .str row.sourceDocumentRef),
      ("source_unit_count", .int sources.unitCount)]
  updatedAt := occurredAt
  counts_le := by intro _; omega

/-- `_copy_state` with a running or paused status. -/
theorem paused_open : WorkflowStatus.paused = .running ∨ WorkflowStatus.paused = .paused := .inr rfl

theorem running_open : WorkflowStatus.running = .running ∨ WorkflowStatus.running = .paused :=
  .inl rfl

def WorkflowRow.copyState (row : WorkflowRow) (status : WorkflowStatus) (currentPhase : PhaseKey)
    (pauseReason : Option String) (updatedAt : Int)
    (hstatus : status = .running ∨ status = .paused) :
    WorkflowRow :=
  { row with status, currentPhase, pauseReason, updatedAt
             status_shape := statusShape_of_open hstatus }

def sourceDocumentMissing : String := "source_document_missing"

def sourceUnitsMissing : String := "source_units_missing"

/-- The columns of `state_with_source_reconciliation`. They depend on the old
status and phase in no way. -/
def sourceReconciledRow (row : WorkflowRow) (sources : SourceSnapshot) (occurredAt : Int) :
    WorkflowRow :=
  if ¬ sources.documentPresent then
    row.copyState .paused .sourceDocumentPersisted (some sourceDocumentMissing) occurredAt
      paused_open
  else if sources.unitCount = 0 then
    row.copyState .paused .sourceUnitsCreated (some sourceUnitsMissing) occurredAt paused_open
  else row.copyState .running .sourceUnitsCreated none occurredAt running_open

@[simp] theorem sourceReconciledRow_workflowRunId (row : WorkflowRow) (sources : SourceSnapshot)
    (occurredAt : Int) :
    (sourceReconciledRow row sources occurredAt).workflowRunId = row.workflowRunId := by
  unfold sourceReconciledRow
  split
  · rfl
  · split <;> rfl

/-- `state_with_source_reconciliation`. -/
def stateWithSourceReconciliation (state : WorkflowState) (sources : SourceSnapshot)
    (occurredAt : Int) : WorkflowState :=
  ((state.withCheckpoint (documentCheckpoint state.row sources occurredAt) rfl).withCheckpoint
    (unitsCheckpoint state.row sources occurredAt) rfl).withRow
      (sourceReconciledRow state.row sources occurredAt)
      (sourceReconciledRow_workflowRunId state.row sources occurredAt)

/-- The checkpoint of `AdvanceToClaimBuilderWorkSchedulingPhase`. The summaries
of the scheduled items are left out of its payload. -/
def scheduledCheckpoint (row : WorkflowRow) (units : List SourceUnit)
    (outcomes : List EnsureWorkItemScheduledOutcome) (occurredAt : Int)
    (hconflict : outcomeCount .conflict outcomes = 0) : PhaseCheckpoint where
  workflowRunId := row.workflowRunId
  phaseKey := .claimBuilderWorkScheduled
  phaseStatus := .completed
  expectedCount := outcomes.length
  completedCount := outcomeCount .created outcomes + outcomeCount .alreadyExists outcomes
  failedCount := 0
  blockedCount := 0
  idempotencyKey := "claim-builder-work-scheduled:" ++ row.workflowRunId
  lastEventRef := none
  checkpointPayload := Payload.ofEntries
    [("planned_count", .int outcomes.length),
      ("created_count", .int (outcomeCount .created outcomes)),
      ("already_exists_count", .int (outcomeCount .alreadyExists outcomes)),
      ("conflict_count", .int (outcomeCount .conflict outcomes)),
      ("source_unit_count", .int units.length),
      ("scheduler", .str "execution_runtime.ensure_work_items_scheduled"),
      ("schedule_schema_version", .int 1)]
  updatedAt := occurredAt
  counts_le := by
    intro _
    have hcount : ∀ outcomes : List EnsureWorkItemScheduledOutcome,
        outcomeCount .created outcomes + outcomeCount .alreadyExists outcomes +
          outcomeCount .conflict outcomes = outcomes.length := by
      intro outcomes
      induction outcomes with
      | nil => rfl
      | cons outcome rest ih =>
        unfold outcomeCount at ih ⊢
        simp only [List.countP_cons, List.length_cons]
        cases outcome.status <;> simp <;> omega
    have := hcount outcomes
    omega

/-- The columns of the state that `AdvanceToClaimBuilderWorkSchedulingPhase`
returns. -/
def advancedRow (row : WorkflowRow) (occurredAt : Int) : WorkflowRow :=
  row.copyState .running .claimBuilderWorkScheduled row.pauseReason occurredAt (.inl rfl)

@[simp] theorem advancedRow_workflowRunId (row : WorkflowRow) (occurredAt : Int) :
    (advancedRow row occurredAt).workflowRunId = row.workflowRunId := rfl

structure SagaWorld where
  saga : SagaStore
  execution : ExecutionStore

/-- How one saga is built and called. -/
structure SagaSetting where
  allowedPhases : List PhaseKey
  env : ScheduleEnv
  reconcilesSources : Bool

/-- `if next_state != state: save_workflow_state(next_state)`. -/
def saveChanged (allowedPhases : List PhaseKey) (store : SagaStore) (state next : WorkflowState) :
    Except Fault SagaStore :=
  if next = state then .ok store else saveWorkflowState allowedPhases store next.row

/-- What a source phase reconciler makes `reconcile` save. -/
def reconcileSources (allowedPhases : List PhaseKey) (store : SagaStore) (state : WorkflowState)
    (sources : SourceSnapshot) (occurredAt : Int) : Except Fault (WorkflowState × SagaStore) := do
  let store ← savePhaseCheckpoint allowedPhases store
    (documentCheckpoint state.row sources occurredAt)
  let store ← savePhaseCheckpoint allowedPhases store (unitsCheckpoint state.row sources occurredAt)
  let next := stateWithSourceReconciliation state sources occurredAt
  let store ← saveChanged allowedPhases store state next
  return (next, store)

/-- The first half of `reconcile`. -/
def sourcePhases (setting : SagaSetting) (store : SagaStore) (state : WorkflowState)
    (sources : SourceSnapshot) (occurredAt : Int) : Except Fault (WorkflowState × SagaStore) :=
  if setting.reconcilesSources then
    reconcileSources setting.allowedPhases store state sources occurredAt
  else .ok (state, store)

/-- The second half of `reconcile`, for a running workflow with source units. -/
def advanceToScheduling (setting : SagaSetting) (world : SagaWorld) (state : WorkflowState)
    (units : List SourceUnit) (now occurredAt : Int) :
      Except Fault (WorkflowState × SagaWorld) := do
  let (outcomes, execution) ← scheduleClaimBuilderSectionWork setting.env now world.execution
    state.row.workflowRunId none state.row.sourceDocumentRef units
  if hconflict : outcomeCount .conflict outcomes = 0 then
    let checkpoint := scheduledCheckpoint state.row units outcomes occurredAt hconflict
    let next := (state.withCheckpoint checkpoint rfl).withRow (advancedRow state.row occurredAt)
      (advancedRow_workflowRunId state.row occurredAt)
    let saga ← savePhaseCheckpoint setting.allowedPhases world.saga checkpoint
    let saga ← saveChanged setting.allowedPhases saga state next
    return (next, { saga, execution })
  else .error (.valueError "claim_builder work scheduling conflict")

/-- `KnowledgeExtractionSaga.reconcile`: the state it reports and what it
commits. -/
def reconcile (setting : SagaSetting) (world : SagaWorld) (workflowRunId : String)
    (sources : SourceSnapshot) (now occurredAt : Int) : Except Fault (WorkflowState × SagaWorld) :=
  match loadWorkflowState world.saga workflowRunId with
  | none => .error (.valueError "knowledge extraction workflow state not found")
  | some state => do
    let (state, saga) ← sourcePhases setting world.saga state sources occurredAt
    if state.row.status = .running ∧ state.row.currentPhase = .sourceUnitsCreated then
      advanceToScheduling setting { world with saga } state sources.units now occurredAt
    else return (state, { world with saga })

/-! What a reconcile leaves of the run. -/

/-- The row after the source phases. -/
def rowAfterSources (setting : SagaSetting) (row : WorkflowRow) (sources : SourceSnapshot)
    (occurredAt : Int) : WorkflowRow :=
  if setting.reconcilesSources then sourceReconciledRow row sources occurredAt else row

/-- The row goes on to scheduling. -/
def WorkflowRow.awaitsScheduling (row : WorkflowRow) : Prop :=
  row.status = .running ∧ row.currentPhase = .sourceUnitsCreated

instance (row : WorkflowRow) : Decidable row.awaitsScheduling := inferInstanceAs (Decidable (_ ∧ _))

/-- The row a successful reconcile leaves. -/
def reconciledRow (setting : SagaSetting) (row : WorkflowRow) (sources : SourceSnapshot)
    (occurredAt : Int) : WorkflowRow :=
  let middle := rowAfterSources setting row sources occurredAt
  if middle.awaitsScheduling then advancedRow middle occurredAt else middle

/-- The store reads back the saved row of one run and the old rows of the others. -/
def RowSaved (before after : SagaStore) (row : WorkflowRow) : Prop :=
  ∀ workflowRunId, after.runs.find? workflowRunId =
    if workflowRunId = row.workflowRunId then some row else before.runs.find? workflowRunId

theorem RowSaved.refl {store : SagaStore} {row : WorkflowRow}
    (h : store.runs.find? row.workflowRunId = some row) : RowSaved store store row := by
  intro workflowRunId
  split
  · next heq => rw [heq, h]
  · rfl

theorem RowSaved.trans {first second third : SagaStore} {row next : WorkflowRow}
    (hfirst : RowSaved first second row) (hsecond : RowSaved second third next)
    (hrun : next.workflowRunId = row.workflowRunId) : RowSaved first third next := by
  intro workflowRunId
  rw [hsecond workflowRunId]
  split
  · rfl
  · next hne =>
    rw [hfirst workflowRunId, if_neg]
    rw [← hrun]
    exact hne

theorem saveChanged_rowSaved {allowedPhases : List PhaseKey} {store after : SagaStore}
    {state next : WorkflowState}
    (hstate : store.runs.find? state.row.workflowRunId = some state.row)
    (h : saveChanged allowedPhases store state next = .ok after) :
    RowSaved store after next.row := by
  unfold saveChanged at h
  split at h
  · next heq =>
    cases h
    rw [heq]
    exact .refl hstate
  · exact find?_saveWorkflowState h

theorem reconcileSources_rowSaved {allowedPhases : List PhaseKey} {store after : SagaStore}
    {state next : WorkflowState} {sources : SourceSnapshot} {occurredAt : Int}
    (hstate : store.runs.find? state.row.workflowRunId = some state.row)
    (h : reconcileSources allowedPhases store state sources occurredAt = .ok (next, after)) :
    next.row = sourceReconciledRow state.row sources occurredAt ∧
        RowSaved store after next.row := by
  obtain ⟨first, hfirst, hrest⟩ := bind_eq_ok.mp h
  obtain ⟨second, hsecond, hrest⟩ := bind_eq_ok.mp hrest
  obtain ⟨third, hthird, heq⟩ := bind_eq_ok.mp hrest
  cases heq
  have hruns : second.runs = store.runs :=
    (runs_savePhaseCheckpoint hsecond).trans (runs_savePhaseCheckpoint hfirst)
  rw [← hruns] at hstate
  have hsaved := saveChanged_rowSaved hstate hthird
  unfold RowSaved at hsaved ⊢
  rw [hruns] at hsaved
  exact ⟨rfl, hsaved⟩

/-- What scheduling does: the row advances, to a phase the tables accept, and
the items are scheduled. -/
theorem advanceToScheduling_eq_ok {setting : SagaSetting} {world after : SagaWorld}
    {state next : WorkflowState} {units : List SourceUnit} {now occurredAt : Int}
    (hstate : world.saga.runs.find? state.row.workflowRunId = some state.row)
    (h : advanceToScheduling setting world state units now occurredAt = .ok (next, after)) :
    next.row = advancedRow state.row occurredAt ∧ RowSaved world.saga after.saga next.row ∧
      PhaseKey.claimBuilderWorkScheduled ∈ setting.allowedPhases ∧
        ∃ outcomes, scheduleClaimBuilderSectionWork setting.env now world.execution
        state.row.workflowRunId none state.row.sourceDocumentRef units =
          .ok (outcomes, after.execution) := by
  obtain ⟨⟨outcomes, execution⟩, hschedule, hrest⟩ := bind_eq_ok.mp h
  dsimp only at hrest
  split at hrest
  · next hconflict =>
    obtain ⟨first, hfirst, hrest⟩ := bind_eq_ok.mp hrest
    obtain ⟨second, hsecond, heq⟩ := bind_eq_ok.mp hrest
    cases heq
    have hruns := runs_savePhaseCheckpoint hfirst
    rw [← hruns] at hstate
    have hsaved := saveChanged_rowSaved hstate hsecond
    unfold RowSaved at hsaved ⊢
    rw [hruns] at hsaved
    exact ⟨rfl, hsaved, savePhaseCheckpoint_allowed hfirst, outcomes, hschedule⟩
  · cases hrest

/-- A successful reconcile of a run: the row it leaves, and the work it
schedules, which is none unless the row goes on to scheduling. -/
structure Reconciled (setting : SagaSetting) (world : SagaWorld) (workflowRunId : String)
    (sources : SourceSnapshot) (now occurredAt : Int) (row : WorkflowRow) (after : SagaWorld) :
    Prop where
  found : world.saga.runs.find? workflowRunId = some row
  saved : RowSaved world.saga after.saga (reconciledRow setting row sources occurredAt)
  allowed : (rowAfterSources setting row sources occurredAt).awaitsScheduling →
    PhaseKey.claimBuilderWorkScheduled ∈ setting.allowedPhases
  scheduled : (rowAfterSources setting row sources occurredAt).awaitsScheduling →
    ∃ outcomes, scheduleClaimBuilderSectionWork setting.env now world.execution workflowRunId none
      row.sourceDocumentRef sources.units = .ok (outcomes, after.execution)
  idle : ¬ (rowAfterSources setting row sources occurredAt).awaitsScheduling →
    after.execution = world.execution

@[simp] theorem rowAfterSources_workflowRunId (setting : SagaSetting) (row : WorkflowRow)
    (sources : SourceSnapshot) (occurredAt : Int) :
    (rowAfterSources setting row sources occurredAt).workflowRunId = row.workflowRunId := by
  unfold rowAfterSources
  split <;> simp

@[simp] theorem rowAfterSources_sourceDocumentRef (setting : SagaSetting) (row : WorkflowRow)
    (sources : SourceSnapshot) (occurredAt : Int) :
    (rowAfterSources setting row sources occurredAt).sourceDocumentRef = row.sourceDocumentRef := by
  unfold rowAfterSources sourceReconciledRow
  split
  · split
    · rfl
    · split <;> rfl
  · rfl

@[simp] theorem reconciledRow_workflowRunId (setting : SagaSetting) (row : WorkflowRow)
    (sources : SourceSnapshot) (occurredAt : Int) :
    (reconciledRow setting row sources occurredAt).workflowRunId = row.workflowRunId := by
  unfold reconciledRow
  dsimp only
  split <;> simp

theorem reconciled_of_eq_ok {setting : SagaSetting} {world after : SagaWorld}
    {workflowRunId : String} {sources : SourceSnapshot} {now occurredAt : Int}
    {next : WorkflowState}
    (h : reconcile setting world workflowRunId sources now occurredAt = .ok (next, after)) :
    ∃ row, Reconciled setting world workflowRunId sources now occurredAt row after := by
  unfold reconcile at h
  split at h
  · cases h
  · next state hload =>
    have hfound : world.saga.runs.find? workflowRunId = some state.row := by
      rw [← row_loadWorkflowState, hload]
      rfl
    have hrun : state.row.workflowRunId = workflowRunId := (Table.find?_eq_some_iff.mp hfound).2
    have hstate : world.saga.runs.find? state.row.workflowRunId = some state.row := by
      rw [hrun]
      exact hfound
    obtain ⟨⟨middle, saga⟩, hmiddle, hrest⟩ := bind_eq_ok.mp h
    have hsources : middle.row = rowAfterSources setting state.row sources occurredAt ∧
        RowSaved world.saga saga middle.row := by
      unfold sourcePhases at hmiddle
      unfold rowAfterSources
      split at hmiddle
      · next hreconciles =>
        rw [if_pos hreconciles]
        exact reconcileSources_rowSaved hstate hmiddle
      · next hreconciles =>
        rw [if_neg hreconciles]
        cases hmiddle
        exact ⟨rfl, .refl hstate⟩
    obtain ⟨hmiddleRow, hsaved⟩ := hsources
    refine ⟨state.row, ?_⟩
    dsimp only at hrest
    split at hrest
    · next hawaits =>
      have hmiddleFound : saga.runs.find? middle.row.workflowRunId = some middle.row := by
        rw [hsaved, if_pos rfl]
      obtain ⟨hnext, hadvanced, hallowed, outcomes, hscheduled⟩ :=
        advanceToScheduling_eq_ok hmiddleFound hrest
      have hawaitsRow : (rowAfterSources setting state.row sources occurredAt).awaitsScheduling :=
        hmiddleRow ▸ hawaits
      have hreconciled : reconciledRow setting state.row sources occurredAt = next.row := by
        unfold reconciledRow
        dsimp only
        rw [if_pos hawaitsRow, hnext, hmiddleRow]
      refine ⟨hfound, ?_, fun _ => hallowed, fun _ => ⟨outcomes, ?_⟩,
        fun hidle => absurd hawaitsRow hidle⟩
      · rw [hreconciled]
        refine hsaved.trans hadvanced ?_
        rw [hnext, advancedRow_workflowRunId]
      · rw [hmiddleRow] at hscheduled
        simpa [hrun] using hscheduled
    · next hawaits =>
      cases hrest
      have hawaitsRow : ¬ (rowAfterSources setting state.row sources occurredAt).awaitsScheduling :=
        hmiddleRow ▸ hawaits
      refine ⟨hfound, ?_, fun hcontra => absurd hcontra hawaitsRow,
        fun hcontra => absurd hcontra hawaitsRow, fun _ => rfl⟩
      unfold reconciledRow
      dsimp only
      rw [if_neg hawaitsRow, ← hmiddleRow]
      exact hsaved

end CrmBot.KnowledgeExtraction
