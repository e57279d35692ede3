import CrmBot.Library.Runs
import CrmBot.WorkflowRuntime.CommandLog

/-! The status of a command over the operations of the log.

Every update chooses its row by the command id alone, so a late one also takes
a command that is finished. -/

namespace CrmBot.WorkflowRuntime

open Relational CrmBot.Python Runs

inductive LogOperation
  | append (command : WorkflowCommand)
  | markCompleted (commandId : String) (completedAt : Int)
  | markFailed (commandId : String) (failedAt : Int)
  | reschedule (commandId : String) (runAfter rescheduledAt : Int)

/-- An operation that raises leaves the log as it is. -/
def performOperation (log : CommandLog) : LogOperation → CommandLog
  | .append command =>
    match appendPendingCommand log command with
    | .ok (_, next) => next
    | .error _ => log
  | .markCompleted commandId completedAt =>
    match markCommandCompleted log commandId completedAt with
    | .ok next => next
    | .error _ => log
  | .markFailed commandId failedAt =>
    match markCommandFailed log commandId failedAt with
    | .ok next => next
    | .error _ => log
  | .reschedule commandId runAfter rescheduledAt =>
    match reschedulePendingCommand log commandId runAfter rescheduledAt with
    | .ok next => next
    | .error _ => log

/-- The command is not among those that a poll of the log can take. -/
def NeverListed (log : CommandLog) (commandId : String) : Prop :=
  ∀ locked workflowRunId now limit listed,
    listPendingCommands log locked workflowRunId now limit = .ok listed →
      ∀ command ∈ listed, command.commandId ≠ commandId

/-- A command that is finished at some moment of the run has the same row, and is
not listed, at every later moment. -/
def StatusMonotone (start : CommandLog) (operations : List LogOperation) : Prop :=
  ∀ earlier between later, operations = earlier ++ (between ++ later) →
    ∀ row ∈ (earlier.foldl performOperation start).rows, row.status.isTerminal = true →
      row ∈ ((earlier ++ between).foldl performOperation start).rows ∧
        NeverListed ((earlier ++ between).foldl performOperation start) row.commandId

/-- What an operation writes to the row it is meant for. -/
def LogOperation.write (row : WorkflowCommand) : LogOperation → WorkflowCommand
  | .append _ => row
  | .markCompleted _ completedAt => { row with status := .completed, updatedAt := completedAt }
  | .markFailed _ failedAt => { row with status := .failed, updatedAt := failedAt }
  | .reschedule _ runAfter rescheduledAt =>
    { row with status := .pending, runAfter := runAfter, updatedAt := rescheduledAt }

/-- The command an operation is meant for, where it updates one. -/
def LogOperation.target : LogOperation → Option String
  | .append _ => none
  | .markCompleted commandId _ | .markFailed commandId _ | .reschedule commandId _ _ =>
    some commandId

/-- The operation is not meant for a finished command, or writes what is there. -/
def SparesTerminal (log : CommandLog) (operation : LogOperation) : Prop :=
  ∀ row ∈ log.rows, row.status.isTerminal = true → operation.target = some row.commandId →
    operation.write row = row

variable {log start : CommandLog} {operation : LogOperation} {row : WorkflowCommand}

/-! One operation -/

/-- Every update chooses its row by the id. A logged command has one, so an update
that raises is meant for no row. -/
theorem mem_updatedById_iff {commandId : String} {update : WorkflowCommand → WorkflowCommand}
    {hkey : ∀ row, (update row).idempotencyKey = row.idempotencyKey}
    {hunique : ∀ row, (update row).commandId = row.commandId} (hmem : row ∈ log.rows) :
    row ∈ (if commandId ∈ log.uniques then
        log.updateWhere (fun row => row.commandId = commandId) update hkey hunique
      else log).rows ↔
      (some commandId = some row.commandId → update row = row) := by
  split
  · rw [UniqueTable.mem_updateWhere_self hmem, decide_eq_true_eq, Option.some.injEq, eq_comm]
  · next hnone =>
    apply iff_of_true hmem
    intro htarget
    apply absurd _ hnone
    rw [Option.some.inj htarget]
    exact UniqueTable.mem_uniques.mpr ⟨row, hmem, rfl⟩

/-- The log after a status update. -/
theorem performStatus_eq (commandId : String) (status : CommandStatus) (updatedAt : Int) :
    (match setCommandStatus log commandId status updatedAt with
      | .ok next => next
      | .error _ => log) =
      if commandId ∈ log.uniques then
        log.updateWhere (fun row => row.commandId = commandId)
          (fun row => { row with status := status, updatedAt := updatedAt })
          (fun _ => rfl) fun _ => rfl
      else log := by
  unfold setCommandStatus
  split_ifs <;> rfl

/-- A row stays exactly where the operation is not meant for it, or writes what is
there. -/
theorem mem_performOperation_iff (hmem : row ∈ log.rows) :
    row ∈ (performOperation log operation).rows ↔
      (operation.target = some row.commandId → operation.write row = row) := by
  cases operation with
  | append command =>
    apply iff_of_true _ nofun
    unfold performOperation
    dsimp only
    split
    · next stored next happend =>
      rcases appendPendingCommand_cases happend with ⟨_, _, _, _, _, rfl⟩ | ⟨_, _, _, hrows⟩
      · exact hmem
      · rw [hrows]
        exact List.mem_append_left _ hmem
    · exact hmem
  | markCompleted commandId completedAt =>
    unfold performOperation markCommandCompleted
    dsimp only
    rw [performStatus_eq]
    exact mem_updatedById_iff hmem
  | markFailed commandId failedAt =>
    unfold performOperation markCommandFailed
    dsimp only
    rw [performStatus_eq]
    exact mem_updatedById_iff hmem
  | reschedule commandId runAfter rescheduledAt =>
    have hlog : performOperation log (.reschedule commandId runAfter rescheduledAt) =
        if commandId ∈ log.uniques then
          log.updateWhere (fun row => row.commandId = commandId)
            (fun row =>
              { row with status := .pending, runAfter := runAfter, updatedAt := rescheduledAt })
            (fun _ => rfl) fun _ => rfl
        else log := by
      unfold performOperation reschedulePendingCommand
      dsimp only
      split_ifs <;> rfl
    rw [hlog]
    exact mem_updatedById_iff hmem

theorem neverListed_of_mem (hmem : row ∈ log.rows) (hterminal : row.status.isTerminal = true) :
    NeverListed log row.commandId := by
  intro locked workflowRunId now limit listed hlisted command hcommand heq
  obtain ⟨hrow, hpending⟩ := mem_listPendingCommands hlisted hcommand
  have hsame : command = row := log.eq_of_unique_eq hrow hmem heq
  rw [← hsame, hpending] at hterminal
  cases hterminal

/-! Runs -/

/-- A finished command keeps its row while no operation is meant for it. -/
theorem mem_of_sparesTerminal {operations : List LogOperation}
    (h : EveryStep performOperation SparesTerminal log operations) (hmem : row ∈ log.rows)
    (hterminal : row.status.isTerminal = true) :
    row ∈ (operations.foldl performOperation log).rows := by
  have hstep : ∀ log operation, row ∈ log.rows → SparesTerminal log operation →
      row ∈ (performOperation log operation).rows := by
    intro log operation hrow hspares
    exact (mem_performOperation_iff hrow).mpr (hspares row hrow hterminal)
  exact h.invariant hstep hmem

/-- The status of every command is monotone over a run exactly when no operation of
the run changes a command that is finished by then. -/
theorem statusMonotone_iff (start : CommandLog) (operations : List LogOperation) :
    StatusMonotone start operations ↔
      EveryStep performOperation SparesTerminal start operations := by
  constructor
  · intro hmonotone
    apply everyStep_of_forall
    intro earlier operation rest heq row hmem hterminal
    have hsplit : operations = earlier ++ ([operation] ++ rest) := heq
    obtain ⟨hkept, _⟩ := hmonotone earlier [operation] rest hsplit row hmem hterminal
    rw [List.foldl_append] at hkept
    exact (mem_performOperation_iff hmem).mp hkept
  · intro hspares earlier between later heq row hmem hterminal
    rw [heq, everyStep_append, everyStep_append] at hspares
    rw [List.foldl_append]
    have hkept := mem_of_sparesTerminal hspares.2.1 hmem hterminal
    exact ⟨hkept, neverListed_of_mem hkept hterminal⟩

/-! A worker that is late. -/

def lateCommand : WorkflowCommand where
  commandId := "workflow-command:prepare"
  commandType := "PrepareClaimBuilderDispatchBatch"
  workflowRunId := "run"
  idempotencyKey := "prepare"
  payload := []
  status := .pending
  runAfter := 0
  createdAt := 0
  updatedAt := 0
  causationEventId := none
  correlationId := none
  attemptCount := 0

/-- The command is completed by one worker, then rescheduled by another. -/
def lateReschedule : List LogOperation :=
  [.append lateCommand, .markCompleted lateCommand.commandId 1,
    .reschedule lateCommand.commandId 5 2]

theorem lateReschedule_not_monotone :
    (lateReschedule.foldl performOperation .empty).rows.map WorkflowCommand.status = [.pending] ∧
      ¬ StatusMonotone .empty lateReschedule := by
  refine ⟨by decide, ?_⟩
  intro hmonotone
  have hrow : ({ lateCommand with status := .completed, updatedAt := 1 } : WorkflowCommand) ∈
      ((lateReschedule.take 2).foldl performOperation .empty).rows := by decide
  obtain ⟨hkept, _⟩ := hmonotone (lateReschedule.take 2) (lateReschedule.drop 2) [] rfl _ hrow rfl
  revert hkept
  decide

end CrmBot.WorkflowRuntime
