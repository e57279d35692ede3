import CrmBot.Library.Table
import CrmBot.Python.PyValue

/-! `KnowledgeExtractionWorkflowState` and its repository.

A state carries the proofs of what its constructor demands. The table of runs
is constrained further: its check constraint lists the phases it accepts, which
need not be all phases of the code, so that list is a parameter. -/

namespace CrmBot.KnowledgeExtraction

open Relational CrmBot.Python

inductive WorkflowStatus
  | created
  | running
  | paused
  | waitingForExternalEvent
  | waitingForReview
  | failed
  | cancelled
  | completed
  deriving DecidableEq, Repr

/-- `_is_terminal`. -/
def WorkflowStatus.isTerminal : WorkflowStatus → Bool
  | .completed | .failed | .cancelled => true
  | _ => false

inductive PhaseKey
  | documentAccepted
  | sourceDocumentPersisted
  | sourceUnitsCreated
  | claimBuilderWorkScheduled
  | claimBuilderSectionExtractionCompleted
  | claimBuilderAllSectionsExtracted
  | draftEmbeddingsBuilt
  | draftClustersBuilt
  | promptBWorkScheduled
  | promptBWorkCompleted
  | finalKnowledgePrepared
  | waitingForReview
  | reviewCompleted
  | published
  | retrievalEmbeddingsBuilt
  | intermediateArtifactsCleaned
  | done
  deriving DecidableEq, Repr

def PhaseKey.value : PhaseKey → String
  | .documentAccepted => "DOCUMENT_ACCEPTED"
  | .sourceDocumentPersisted => "SOURCE_DOCUMENT_PERSISTED"
  | .sourceUnitsCreated => "SOURCE_UNITS_CREATED"
  | .claimBuilderWorkScheduled => "CLAIM_BUILDER_WORK_SCHEDULED"
  | .claimBuilderSectionExtractionCompleted => "CLAIM_BUILDER_SECTION_EXTRACTION_COMPLETED"
  | .claimBuilderAllSectionsExtracted => "CLAIM_BUILDER_ALL_SECTIONS_EXTRACTED"
  | .draftEmbeddingsBuilt => "DRAFT_EMBEDDINGS_BUILT"
  | .draftClustersBuilt => "DRAFT_CLUSTERS_BUILT"
  | .promptBWorkScheduled => "PROMPT_B_WORK_SCHEDULED"
  | .promptBWorkCompleted => "PROMPT_B_WORK_COMPLETED"
  | .finalKnowledgePrepared => "FINAL_KNOWLEDGE_PREPARED"
  | .waitingForReview => "WAITING_FOR_REVIEW"
  | .reviewCompleted => "REVIEW_COMPLETED"
  | .published => "PUBLISHED"
  | .retrievalEmbeddingsBuilt => "RETRIEVAL_EMBEDDINGS_BUILT"
  | .intermediateArtifactsCleaned => "INTERMEDIATE_ARTIFACTS_CLEANED"
  | .done => "DONE"

/-- The place of a phase in the workflow. -/
def PhaseKey.order : PhaseKey → Nat
  | .documentAccepted => 0
  | .sourceDocumentPersisted => 1
  | .sourceUnitsCreated => 2
  | .claimBuilderWorkScheduled => 3
  | .claimBuilderSectionExtractionCompleted => 4
  | .claimBuilderAllSectionsExtracted => 5
  | .draftEmbeddingsBuilt => 6
  | .draftClustersBuilt => 7
  | .promptBWorkScheduled => 8
  | .promptBWorkCompleted => 9
  | .finalKnowledgePrepared => 10
  | .waitingForReview => 11
  | .reviewCompleted => 12
  | .published => 13
  | .retrievalEmbeddingsBuilt => 14
  | .intermediateArtifactsCleaned => 15
  | .done => 16

inductive PhaseStatus
  | notStarted
  | ready
  | inProgress
  | waiting
  | blocked
  | completed
  | skipped
  | failed
  | cancelled
  deriving DecidableEq, Repr

structure PhaseCheckpoint where
  workflowRunId : String
  phaseKey : PhaseKey
  phaseStatus : PhaseStatus
  expectedCount : Nat
  completedCount : Nat
  failedCount : Nat
  blockedCount : Nat
  idempotencyKey : String
  lastEventRef : Option String
  checkpointPayload : Payload
  updatedAt : Int
  counts_le : expectedCount ≠ 0 → completedCount + failedCount + blockedCount ≤ expectedCount
  deriving DecidableEq

def PhaseCheckpoint.key (checkpoint : PhaseCheckpoint) : String × PhaseKey :=
  (checkpoint.workflowRunId, checkpoint.phaseKey)

/-- What `KnowledgeExtractionWorkflowState.__post_init__` and the check
constraints of the table demand of a status. -/
def StatusShape (status : WorkflowStatus) (currentPhase : PhaseKey) (failureKind : Option String)
    (completedAt cancelledAt : Option Int) : Prop :=
  (status = .completed → completedAt.isSome = true) ∧
    (status = .cancelled → cancelledAt.isSome = true) ∧
    (status = .failed → ∃ kind, failureKind = some kind ∧ isBlank kind = false) ∧
    (status = .waitingForReview → currentPhase = .waitingForReview)

/-- A row of `knowledge_extraction_workflow_runs`: the state without its
checkpoints. -/
structure WorkflowRow where
  workflowRunId : String
  projectId : String
  sourceDocumentRef : String
  status : WorkflowStatus
  currentPhase : PhaseKey
  pauseReason : Option String
  failureKind : Option String
  failureMessage : Option String
  reviewStatus : Option String
  publicationRef : Option String
  cleanupStatus : Option String
  createdAt : Int
  updatedAt : Int
  completedAt : Option Int
  cancelledAt : Option Int
  status_shape : StatusShape status currentPhase failureKind completedAt cancelledAt
  deriving DecidableEq

structure WorkflowState where
  row : WorkflowRow
  checkpoints : List PhaseCheckpoint
  checkpoints_run : ∀ checkpoint ∈ checkpoints, checkpoint.workflowRunId = row.workflowRunId
  checkpoints_nodup : (checkpoints.map PhaseCheckpoint.phaseKey).Nodup
  deriving DecidableEq

/-- Statuses about which the shape says nothing. -/
theorem statusShape_of_open {status : WorkflowStatus} {currentPhase : PhaseKey}
    {failureKind : Option String} {completedAt cancelledAt : Option Int}
    (hstatus : status = .running ∨ status = .paused) :
    StatusShape status currentPhase failureKind completedAt cancelledAt := by
  rcases hstatus with rfl | rfl <;> simp [StatusShape]

/-! `replace_or_append_checkpoint` -/

def replaceOrAppendCheckpoint (checkpoints : List PhaseCheckpoint) (checkpoint : PhaseCheckpoint) :
    List PhaseCheckpoint :=
  let replaced := checkpoints.map fun existing =>
    if existing.phaseKey = checkpoint.phaseKey then checkpoint else existing
  if checkpoints.any fun existing => existing.phaseKey = checkpoint.phaseKey then replaced
  else replaced ++ [checkpoint]

theorem mem_replaceOrAppendCheckpoint {checkpoints : List PhaseCheckpoint}
    {checkpoint found : PhaseCheckpoint}
    (h : found ∈ replaceOrAppendCheckpoint checkpoints checkpoint) :
    found = checkpoint ∨ found ∈ checkpoints := by
  have hreplaced : ∀ found ∈ checkpoints.map (fun existing =>
      if existing.phaseKey = checkpoint.phaseKey then checkpoint else existing),
      found = checkpoint ∨ found ∈ checkpoints := by
    intro found hfound
    obtain ⟨existing, hmem, heq⟩ := List.mem_map.mp hfound
    split at heq
    · exact .inl heq.symm
    · exact .inr (heq ▸ hmem)
  unfold replaceOrAppendCheckpoint at h
  split at h
  · exact hreplaced found h
  · rcases List.mem_append.mp h with hold | hnew
    · exact hreplaced found hold
    · exact .inl (List.mem_singleton.mp hnew)

theorem phaseKeys_replaceOrAppendCheckpoint (checkpoints : List PhaseCheckpoint)
    (checkpoint : PhaseCheckpoint) :
    (replaceOrAppendCheckpoint checkpoints checkpoint).map PhaseCheckpoint.phaseKey =
      checkpoints.map PhaseCheckpoint.phaseKey ++
        if checkpoint.phaseKey ∈ checkpoints.map PhaseCheckpoint.phaseKey then []
        else [checkpoint.phaseKey] := by
  have hkeys : (checkpoints.map fun existing =>
      if existing.phaseKey = checkpoint.phaseKey then checkpoint else existing).map
        PhaseCheckpoint.phaseKey = checkpoints.map PhaseCheckpoint.phaseKey := by
    rw [List.map_map]
    apply List.map_congr_left
    intro existing _
    simp only [Function.comp_apply]
    split
    · next heq => exact heq.symm
    · rfl
  have hany : (checkpoints.any fun existing => existing.phaseKey = checkpoint.phaseKey) = true ↔
      checkpoint.phaseKey ∈ checkpoints.map PhaseCheckpoint.phaseKey := by
    simp
  unfold replaceOrAppendCheckpoint
  by_cases hmem : checkpoint.phaseKey ∈ checkpoints.map PhaseCheckpoint.phaseKey
  · rw [if_pos (hany.mpr hmem), if_pos hmem, hkeys, List.append_nil]
  · rw [if_neg (mt hany.mp hmem), if_neg hmem, List.map_append, hkeys]
    rfl

theorem nodup_replaceOrAppendCheckpoint {checkpoints : List PhaseCheckpoint}
    {checkpoint : PhaseCheckpoint} (h : (checkpoints.map PhaseCheckpoint.phaseKey).Nodup) :
    ((replaceOrAppendCheckpoint checkpoints checkpoint).map PhaseCheckpoint.phaseKey).Nodup := by
  rw [phaseKeys_replaceOrAppendCheckpoint]
  split
  · simpa using h
  · next hnew =>
    rw [List.nodup_append]
    refine ⟨h, List.nodup_singleton _, ?_⟩
    intro key hkey other hother heq
    rw [List.mem_singleton.mp hother] at heq
    exact hnew (heq ▸ hkey)

/-- The state with one checkpoint replaced or added. -/
def WorkflowState.withCheckpoint (state : WorkflowState) (checkpoint : PhaseCheckpoint)
    (hrun : checkpoint.workflowRunId = state.row.workflowRunId) : WorkflowState where
  row := state.row
  checkpoints := replaceOrAppendCheckpoint state.checkpoints checkpoint
  checkpoints_run := by
    intro found hfound
    rcases mem_replaceOrAppendCheckpoint hfound with rfl | hold
    · exact hrun
    · exact state.checkpoints_run found hold
  checkpoints_nodup := nodup_replaceOrAppendCheckpoint state.checkpoints_nodup

/-- The state with other columns of the same run. -/
def WorkflowState.withRow (state : WorkflowState) (row : WorkflowRow)
    (hrun : row.workflowRunId = state.row.workflowRunId) : WorkflowState where
  row := row
  checkpoints := state.checkpoints
  checkpoints_run := fun checkpoint hmem => (state.checkpoints_run checkpoint hmem).trans hrun.symm
  checkpoints_nodup := state.checkpoints_nodup

/-! `PostgresKnowledgeExtractionSagaStateRepository` -/

structure SagaStore where
  runs : Table WorkflowRow.workflowRunId
  checkpoints : Table PhaseCheckpoint.key

/-- The phases that the check constraints of migration 090 list. -/
def migratedPhases : List PhaseKey :=
  [.documentAccepted, .sourceDocumentPersisted, .sourceUnitsCreated, .draftEmbeddingsBuilt,
    .draftClustersBuilt, .promptBWorkScheduled, .promptBWorkCompleted, .finalKnowledgePrepared,
    .waitingForReview, .reviewCompleted, .published, .retrievalEmbeddingsBuilt,
    .intermediateArtifactsCleaned, .done]

/-- `ORDER BY updated_at ASC, phase_key ASC`. -/
def PhaseCheckpoint.before (first second : PhaseCheckpoint) : Prop :=
  first.updatedAt < second.updatedAt ∨
    (first.updatedAt = second.updatedAt ∧ first.phaseKey.value ≤ second.phaseKey.value)

instance : DecidableRel PhaseCheckpoint.before := fun _ _ =>
  inferInstanceAs (Decidable (_ ∨ _))

/-- The checkpoints of one run. -/
def checkpointsOf (store : SagaStore) (workflowRunId : String) : List PhaseCheckpoint :=
  store.checkpoints.select (fun checkpoint => checkpoint.workflowRunId = workflowRunId)
    PhaseCheckpoint.before

theorem checkpointsOf_run {store : SagaStore} {workflowRunId : String}
    {checkpoint : PhaseCheckpoint} (h : checkpoint ∈ checkpointsOf store workflowRunId) :
    checkpoint.workflowRunId = workflowRunId := by
  simpa using (Table.mem_select.mp h).2

theorem checkpointsOf_nodup (store : SagaStore) (workflowRunId : String) :
    ((checkpointsOf store workflowRunId).map PhaseCheckpoint.phaseKey).Nodup := by
  have hkeys : ((checkpointsOf store workflowRunId).map PhaseCheckpoint.key).Nodup := by
    unfold checkpointsOf Table.select
    have hperm := (List.perm_insertionSort PhaseCheckpoint.before
      (store.checkpoints.rows.filter fun checkpoint =>
        decide (checkpoint.workflowRunId = workflowRunId))).map PhaseCheckpoint.key
    rw [hperm.nodup_iff]
    exact store.checkpoints.key_nodup.sublist (List.filter_sublist.map _)
  rw [List.Nodup, List.pairwise_map] at hkeys ⊢
  apply hkeys.imp_of_mem
  intro first second hfirst hsecond hne heq
  apply hne
  unfold PhaseCheckpoint.key
  rw [checkpointsOf_run hfirst, checkpointsOf_run hsecond, heq]

/-- `load_workflow_state`. -/
def loadWorkflowState (store : SagaStore) (workflowRunId : String) : Option WorkflowState :=
  match h : store.runs.find? workflowRunId with
  | none => none
  | some row =>
    some
      { row := row
        checkpoints := checkpointsOf store workflowRunId
        checkpoints_run := fun _ hmem =>
          (checkpointsOf_run hmem).trans (Table.find?_eq_some_iff.mp h).2.symm
        checkpoints_nodup := checkpointsOf_nodup store workflowRunId }

theorem row_loadWorkflowState (store : SagaStore) (workflowRunId : String) :
    (loadWorkflowState store workflowRunId).map WorkflowState.row =
      store.runs.find? workflowRunId := by
  unfold loadWorkflowState
  split
  · next h => exact h.symm
  · next row h => exact h.symm

/-- The check constraint of the table that refuses the row, if any. The
constraints on the status are part of the row. -/
def WorkflowRow.violatedConstraint (allowedPhases : List PhaseKey) (row : WorkflowRow) :
    Option String :=
  if row.currentPhase ∉ allowedPhases then
    some "chk_knowledge_extraction_workflow_runs_current_phase"
  else if row.updatedAt < row.createdAt then
    some "chk_knowledge_extraction_workflow_runs_updated_after_created"
  else if row.completedAt.any (· < row.createdAt) then
    some "chk_knowledge_extraction_workflow_runs_completed_after_created"
  else if row.cancelledAt.any (· < row.createdAt) then
    some "chk_knowledge_extraction_workflow_runs_cancelled_after_created"
  else none

/-- The row an upsert of `row` leaves where there was `old`. -/
def WorkflowRow.replaces (row old : WorkflowRow) : WorkflowRow :=
  { row with workflowRunId := old.workflowRunId }

@[simp] theorem WorkflowRow.replaces_workflowRunId (row old : WorkflowRow) :
    (row.replaces old).workflowRunId = old.workflowRunId := rfl

theorem WorkflowRow.replaces_eq {row old : WorkflowRow}
    (h : old.workflowRunId = row.workflowRunId) : row.replaces old = row := by
  cases row
  cases h
  rfl

/-- `save_workflow_state`: the whole row is written, whatever it was before. -/
def saveWorkflowState (allowedPhases : List PhaseKey) (store : SagaStore) (row : WorkflowRow) :
    Except Fault SagaStore :=
  match row.violatedConstraint allowedPhases with
  | some constraint => .error (.checkViolation constraint)
  | none => .ok { store with runs := store.runs.upsert row row.replaces row.replaces_workflowRunId }

/-- `save_phase_checkpoint`. -/
def savePhaseCheckpoint (allowedPhases : List PhaseKey) (store : SagaStore)
    (checkpoint : PhaseCheckpoint) : Except Fault SagaStore :=
  if checkpoint.phaseKey ∉ allowedPhases then
    .error (.checkViolation "chk_knowledge_extraction_phase_checkpoints_phase_key")
  else if checkpoint.workflowRunId ∉ store.runs.keys then
    .error (.foreignKeyViolation "knowledge_extraction_phase_checkpoints_workflow_run_id_fkey")
  else .ok
    { store with
      checkpoints := store.checkpoints.upsert checkpoint
        (fun old => if old.key = checkpoint.key then checkpoint else old)
        fun old => by split <;> simp_all }

/-- After a save the row is read back as it was written, and the rows of other
workflows are as before. -/
theorem find?_saveWorkflowState {allowedPhases : List PhaseKey} {store next : SagaStore}
    {row : WorkflowRow} (h : saveWorkflowState allowedPhases store row = .ok next)
    (workflowRunId : String) :
    next.runs.find? workflowRunId =
      if workflowRunId = row.workflowRunId then some row else store.runs.find? workflowRunId := by
  unfold saveWorkflowState at h
  split at h
  · cases h
  · cases h
    split
    · next heq =>
      rw [heq]
      refine Table.find?_upsert_self.trans ?_
      cases hfind : store.runs.find? row.workflowRunId with
      | none => rfl
      | some old => exact congrArg some (row.replaces_eq (Table.find?_eq_some_iff.mp hfind).2)
    · next hne => exact Table.find?_upsert_of_ne hne

theorem runs_savePhaseCheckpoint {allowedPhases : List PhaseKey} {store next : SagaStore}
    {checkpoint : PhaseCheckpoint}
    (h : savePhaseCheckpoint allowedPhases store checkpoint = .ok next) :
    next.runs = store.runs := by
  unfold savePhaseCheckpoint at h
  split at h
  · cases h
  · split at h
    · cases h
    · cases h
      rfl

theorem savePhaseCheckpoint_allowed {allowedPhases : List PhaseKey} {store next : SagaStore}
    {checkpoint : PhaseCheckpoint}
    (h : savePhaseCheckpoint allowedPhases store checkpoint = .ok next) :
    checkpoint.phaseKey ∈ allowedPhases := by
  by_contra hphase
  unfold savePhaseCheckpoint at h
  rw [if_pos hphase] at h
  cases h

end CrmBot.KnowledgeExtraction
