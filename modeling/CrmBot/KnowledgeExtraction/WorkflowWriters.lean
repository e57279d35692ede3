import CrmBot.KnowledgeExtraction.SagaReconcile
import CrmBot.Library.Runs

/-! The writers of workflow states.

A writer loads a row, works on it and saves the whole row in one transaction,
without a lock from its load on. So between the load and the save of one writer
any other writer may save. A transaction holds the row from its save to its
commit, which is therefore one event here. -/

namespace CrmBot.KnowledgeExtraction

open Relational CrmBot.Python Runs

/-- What is called and with which arguments. The two handlers run inside the
command drain, the others on their own. A reconcile also saves the row when only
the checkpoints beside it change. -/
inductive UseCase
  | pause (projectId reason : String)
  | resume (projectId : String)
  | reconcile (setting : SagaSetting) (sources : SourceSnapshot) (checkpointsChange : Bool)
  | openWorkspace
  | publishWorkspace (publicationRef : String)

/-- Called by the drain, after its check for paused workflows. -/
def UseCase.drained : UseCase → Bool
  | .openWorkspace | .publishWorkspace _ => true
  | .pause _ _ | .resume _ | .reconcile _ _ _ => false

/-- `PauseKnowledgeExtractionWorkflow.execute`: the row to save, if any. -/
def pauseRow (row : WorkflowRow) (projectId reason : String) (occurredAt : Int) :
    Except Fault (Option WorkflowRow) :=
  if row.projectId ≠ projectId then
    .error (.permissionError "workflow does not belong to project")
  else if row.status.isTerminal then
    .error (.valueError "terminal knowledge extraction workflow cannot be paused")
  else if row.status = .paused then .ok none
  else .ok (some (row.copyState .paused row.currentPhase (some reason) occurredAt paused_open))

/-- `ResumeKnowledgeExtractionWorkflow.execute`. -/
def resumeRow (row : WorkflowRow) (projectId : String) (occurredAt : Int) :
    Except Fault (Option WorkflowRow) :=
  if row.projectId ≠ projectId then
    .error (.permissionError "workflow does not belong to project")
  else if row.status.isTerminal then
    .error (.valueError "terminal knowledge extraction workflow cannot be resumed")
  else if row.status = .running then .ok none
  else if row.status ≠ .paused then
    .error (.valueError "knowledge extraction workflow is not manually paused")
  else .ok (some (row.copyState .running row.currentPhase none occurredAt running_open))

/-- What `HandleOpenDraftClaimCurationWorkspaceCommandHandler` saves. -/
def reviewedRow (row : WorkflowRow) (occurredAt : Int) : WorkflowRow :=
  { row with
    status := .waitingForReview, currentPhase := .waitingForReview, reviewStatus := some "pending"
    updatedAt := occurredAt, status_shape := by simp [StatusShape] }

/-- What `HandlePublishDraftClaimCurationWorkspaceCommandHandler` saves. -/
def publishedRow (row : WorkflowRow) (publicationRef : String) (occurredAt : Int) : WorkflowRow :=
  { row with
    status := .completed, currentPhase := .done, reviewStatus := some "completed"
    publicationRef := some publicationRef, updatedAt := occurredAt, completedAt := some occurredAt
    status_shape := by simp [StatusShape] }

/-- The row a writer saves, given the one it loaded. -/
def UseCase.decide (row : WorkflowRow) (occurredAt : Int) : UseCase →
    Except Fault (Option WorkflowRow)
  | .pause projectId reason => pauseRow row projectId reason occurredAt
  | .resume projectId => resumeRow row projectId occurredAt
  | .reconcile setting sources checkpointsChange =>
    let next := reconciledRow setting row sources occurredAt
    .ok (if next = row ∧ checkpointsChange = false then none else some next)
  | .openWorkspace => .ok (some (reviewedRow row occurredAt))
  | .publishWorkspace publicationRef => .ok (some (publishedRow row publicationRef occurredAt))

/-- What the two use cases of the source ingestion save, at its two phases,
without loading the old row. -/
def ingestedRow (workflowRunId projectId sourceDocumentRef : String) (unitsCreated : Bool)
    (occurredAt : Int) : WorkflowRow where
  workflowRunId := workflowRunId
  projectId := projectId
  sourceDocumentRef := sourceDocumentRef
  status := .running
  currentPhase := if unitsCreated then .sourceUnitsCreated else .sourceDocumentPersisted
  pauseReason := none
  failureKind := none
  failureMessage := none
  reviewStatus := none
  publicationRef := none
  cleanupStatus := none
  createdAt := occurredAt
  updatedAt := occurredAt
  completedAt := none
  cancelledAt := none
  status_shape := statusShape_of_open (.inl rfl)

/-- A writer under way. `seen` is the number of saves of its workflow when it
loaded the row. -/
inductive Session
  | checked (useCase : UseCase) (workflowRunId : String)
  | loaded (useCase : UseCase) (seen : Nat) (base next : WorkflowRow)

/-- The store, with a count of the saves of every workflow and, for a workflow
under a manual pause, the count right after the pause was saved. -/
structure WriterSystem where
  saga : SagaStore
  versions : String → Nat
  pauses : String → Option Nat
  sessions : Nat → Option Session

inductive WriterEvent
  | start (session : Nat) (useCase : UseCase) (workflowRunId : String) (occurredAt : Int)
  | check (session : Nat) (useCase : UseCase) (workflowRunId : String)
  | load (session : Nat) (occurredAt : Int)
  | save (session : Nat)
  | abort (session : Nat)
  | ingest (workflowRunId projectId sourceDocumentRef : String) (unitsCreated : Bool)
      (occurredAt : Int)

def WriterSystem.setSession (system : WriterSystem) (session : Nat) (state : Option Session) :
    WriterSystem :=
  { system with sessions := Function.update system.sessions session state }

/-- A session that has loaded its row and decided what to save. -/
def loadedSession (useCase : UseCase) (seen : Nat) (row : WorkflowRow) (occurredAt : Int) :
    Option Session :=
  match useCase.decide row occurredAt with
  | .ok (some next) => some (.loaded useCase seen row next)
  | .ok none | .error _ => none

def UseCase.isPause : UseCase → Bool
  | .pause _ _ => true
  | _ => false

def UseCase.mayRelease : UseCase → Bool
  | .resume _ | .publishWorkspace _ => true
  | .pause _ _ | .reconcile _ _ _ | .openWorkspace => false

/-- A save with its commit. A row the table refuses leaves everything as it was. -/
def commitRow (allowedPhases : List PhaseKey) (system : WriterSystem) (row : WorkflowRow)
    (isPause : Bool) : WriterSystem :=
  match saveWorkflowState allowedPhases system.saga row with
  | .error _ => system
  | .ok saga =>
    let version := system.versions row.workflowRunId + 1
    { system with
      saga := saga
      versions := Function.update system.versions row.workflowRunId version
      pauses := Function.update system.pauses row.workflowRunId
        (if isPause then some version
        else if row.status = .paused then system.pauses row.workflowRunId else none) }

def performWriter (allowedPhases : List PhaseKey) (before : WriterSystem) :
    WriterEvent → WriterSystem
  | .start session useCase workflowRunId occurredAt =>
    match before.saga.runs.find? workflowRunId with
    | some row =>
      if useCase.drained then before
      else before.setSession session
        (loadedSession useCase (before.versions workflowRunId) row occurredAt)
    | none => before
  | .check session useCase workflowRunId =>
    match before.saga.runs.find? workflowRunId with
    | some row =>
      if useCase.drained ∧ row.status ≠ .paused then
        before.setSession session (some (.checked useCase workflowRunId))
      else before
    | none => before
  | .load session occurredAt =>
    match before.sessions session with
    | some (.checked useCase workflowRunId) =>
      match before.saga.runs.find? workflowRunId with
      | some row =>
        before.setSession session
          (loadedSession useCase (before.versions workflowRunId) row occurredAt)
      | none => before.setSession session none
    | _ => before
  | .save session =>
    match before.sessions session with
    | some (.loaded useCase _ _ next) =>
      (commitRow allowedPhases before next useCase.isPause).setSession session none
    | _ => before
  | .abort session => before.setSession session none
  | .ingest workflowRunId projectId sourceDocumentRef unitsCreated occurredAt =>
    commitRow allowedPhases before
      (ingestedRow workflowRunId projectId sourceDocumentRef unitsCreated occurredAt) false

/-! The property. -/

/-- The workflow is persisted as paused. -/
def WriterSystem.Paused (system : WriterSystem) (workflowRunId : String) : Prop :=
  ∃ row, system.saga.runs.find? workflowRunId = some row ∧ row.status = .paused

/-- The event saves a resume, or the end of the workflow, decided on the paused
row as it was loaded after the pause had been saved. -/
def Releases (workflowRunId : String) (before : WriterSystem) : WriterEvent → Prop
  | .save session => ∃ useCase seen base next pausedAt,
      before.sessions session = some (.loaded useCase seen base next) ∧
        next.workflowRunId = workflowRunId ∧ before.pauses workflowRunId = some pausedAt ∧
        pausedAt ≤ seen ∧ base.status = .paused ∧
        ((∃ projectId, useCase = .resume projectId) ∨ next.status.isTerminal = true)
  | _ => False

/-- A manual pause of the run is in force until an event releases it. -/
def PauseNotLost (allowedPhases : List PhaseKey) (start : WriterSystem)
    (events : List WriterEvent) :
    Prop :=
  ∀ earlier later rest, events = earlier ++ later ++ rest →
    let reached := earlier.foldl (performWriter allowedPhases) start
    ∀ workflowRunId, (reached.pauses workflowRunId).isSome = true →
      EveryStep (performWriter allowedPhases)
        (fun before event => ¬ Releases workflowRunId before event) reached later →
      (later.foldl (performWriter allowedPhases) reached).Paused workflowRunId

/-! The condition. -/

/-- A writer that saves a row which is not paused over a manual pause has loaded
it after the pause and is a resume or a publication, and no ingestion saves over
a pause. -/
def KeepsPause (allowedPhases : List PhaseKey) (before : WriterSystem) : WriterEvent → Prop
  | .save session =>
    match before.sessions session with
    | some (.loaded useCase seen _ next) => ∀ pausedAt,
        before.pauses next.workflowRunId = some pausedAt →
          next.violatedConstraint allowedPhases = none → next.status ≠ .paused →
            pausedAt ≤ seen ∧ useCase.mayRelease = true
    | _ => True
  | .ingest workflowRunId projectId sourceDocumentRef unitsCreated occurredAt =>
    (ingestedRow workflowRunId projectId sourceDocumentRef unitsCreated
      occurredAt).violatedConstraint allowedPhases = none → before.pauses workflowRunId = none
  | _ => True

end CrmBot.KnowledgeExtraction
