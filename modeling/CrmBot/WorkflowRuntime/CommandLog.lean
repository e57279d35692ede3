import CrmBot.Library.Table
import CrmBot.Python.PyValue

/-! The workflow command log and the statements of its repository.

The log holds one row per idempotency key; the command id is the primary key of
the database table, a second unique column here. -/

namespace CrmBot.WorkflowRuntime

open Relational CrmBot.Python

inductive CommandStatus
  | pending
  | running
  | completed
  | failed
  | cancelled
  deriving DecidableEq, Repr

def CommandStatus.isTerminal : CommandStatus → Bool
  | .completed | .failed | .cancelled => true
  | .pending | .running => false

structure WorkflowCommand where
  commandId : String
  commandType : String
  workflowRunId : String
  idempotencyKey : String
  payload : Payload
  status : CommandStatus
  runAfter : Int
  createdAt : Int
  updatedAt : Int
  causationEventId : Option String
  correlationId : Option String
  attemptCount : Nat
  deriving DecidableEq

abbrev CommandLog := UniqueTable WorkflowCommand.idempotencyKey WorkflowCommand.commandId

/-- `_assert_idempotent_conflict_is_same`. -/
def assertIdempotentConflictIsSame (expected existing : WorkflowCommand) : Except Fault Unit :=
  if expected.commandType ≠ existing.commandType then
    .error (.valueError "idempotency_key conflict has different command_type")
  else if expected.workflowRunId ≠ existing.workflowRunId then
    .error (.valueError "idempotency_key conflict has different workflow_run_id")
  else if expected.payload ≠ existing.payload then
    .error (.valueError "idempotency_key conflict has different payload")
  else .ok ()

/-- `append_pending_command`: the stored command and the log. A command of a
known key is not written again, whatever the status of the stored one. -/
def appendPendingCommand (log : CommandLog) (command : WorkflowCommand) :
    Except Fault (WorkflowCommand × CommandLog) :=
  match log.find? command.idempotencyKey with
  | some existing => do
    assertIdempotentConflictIsSame command existing
    return (existing, log)
  | none => match log.insertOrIgnore? command with
    | none => .error (.uniqueViolation "workflow_runtime_command_log_pkey")
    | some next => .ok (command, next)

/-- An accepted append either found an equal command or added this one. -/
theorem appendPendingCommand_cases {log next : CommandLog} {command stored : WorkflowCommand}
    (h : appendPendingCommand log command = .ok (stored, next)) :
    (stored ∈ log.rows ∧ stored.idempotencyKey = command.idempotencyKey ∧
        stored.commandType = command.commandType ∧
        stored.workflowRunId = command.workflowRunId ∧ stored.payload = command.payload ∧
        next = log) ∨
      (stored = command ∧ command.idempotencyKey ∉ log.keys ∧ command.commandId ∉ log.uniques ∧
        next.rows = log.rows ++ [command]) := by
  unfold appendPendingCommand at h
  split at h
  · next existing hfind =>
    obtain ⟨hmem, hkey⟩ := Table.find?_eq_some_iff.mp hfind
    left
    unfold assertIdempotentConflictIsSame at h
    split at h
    · cases h
    · next htype =>
      split at h
      · cases h
      · next hrun =>
        split at h
        · cases h
        · next hpayload =>
          cases h
          rw [not_not] at htype hrun hpayload
          exact ⟨hmem, hkey, htype.symm, hrun.symm, hpayload.symm, rfl⟩
  · next hnone =>
    have hnew := Table.find?_eq_none_iff.mp hnone
    right
    split at h
    · cases h
    · next inserted hinsert =>
      cases h
      rcases UniqueTable.rows_of_insertOrIgnore? hinsert with ⟨hold, _⟩ | ⟨hkey, hid, hrows⟩
      · exact absurd hold hnew
      · exact ⟨rfl, hkey, hid, hrows⟩

theorem mem_of_appendPendingCommand {log next : CommandLog} {command stored : WorkflowCommand}
    (h : appendPendingCommand log command = .ok (stored, next)) :
    ∀ row ∈ next.rows, row ∈ log.rows ∨ row = command := by
  intro row hrow
  rcases appendPendingCommand_cases h with ⟨_, _, _, _, _, hsame⟩ | ⟨_, _, _, hrows⟩
  · exact .inl (hsame ▸ hrow)
  · rw [hrows, List.mem_append, List.mem_singleton] at hrow
    exact hrow

/-- A command that is new in key and id is appended. -/
theorem appendPendingCommand_of_new {log : CommandLog} {command : WorkflowCommand}
    (hkey : command.idempotencyKey ∉ log.keys) (hid : command.commandId ∉ log.uniques) :
    ∃ next, appendPendingCommand log command = .ok (command, next) ∧
      next.rows = log.rows ++ [command] := by
  obtain ⟨next, hinsert, hrows⟩ := UniqueTable.insertOrIgnore?_of_new hkey hid
  refine ⟨next, ?_, hrows⟩
  unfold appendPendingCommand
  rw [Table.find?_eq_none_iff.mpr hkey]
  simp only [hinsert]

/-- `UPDATE … SET status, updated_at WHERE command_id`. -/
def setCommandStatus (log : CommandLog) (commandId : String) (status : CommandStatus)
    (updatedAt : Int) : Except Fault CommandLog :=
  if commandId ∈ log.uniques then
    .ok (log.updateWhere (fun row => row.commandId = commandId)
      (fun row => { row with status := status, updatedAt := updatedAt })
      (fun _ => rfl) fun _ => rfl)
  else .error (.keyError commandId)

def markCommandCompleted (log : CommandLog) (commandId : String) (completedAt : Int) :
    Except Fault CommandLog :=
  setCommandStatus log commandId .completed completedAt

def markCommandFailed (log : CommandLog) (commandId : String) (failedAt : Int) :
    Except Fault CommandLog :=
  setCommandStatus log commandId .failed failedAt

/-- `reschedule_pending_command`: the row is chosen by its id alone. -/
def reschedulePendingCommand (log : CommandLog) (commandId : String)
    (runAfter rescheduledAt : Int) : Except Fault CommandLog :=
  if commandId ∈ log.uniques then
    .ok (log.updateWhere (fun row => row.commandId = commandId)
      (fun row =>
        { row with status := .pending, runAfter := runAfter, updatedAt := rescheduledAt })
      (fun _ => rfl) fun _ => rfl)
  else .error (.keyError commandId)

/-- A status update changes status and update time of one command. -/
theorem setCommandStatus_rows {log next : CommandLog} {commandId : String}
    {status : CommandStatus} {updatedAt : Int}
    (h : setCommandStatus log commandId status updatedAt = .ok next) :
    next.rows = log.rows.map fun row =>
      if row.commandId = commandId then { row with status := status, updatedAt := updatedAt }
      else row := by
  unfold setCommandStatus at h
  split at h
  · cases h
    simp [UniqueTable.rows_updateWhere]
  · cases h

/-- The status of a logged command can be set. -/
theorem setCommandStatus_of_mem {log : CommandLog} {command : WorkflowCommand}
    (hmem : command ∈ log.rows) (status : CommandStatus) (updatedAt : Int) :
    ∃ next, setCommandStatus log command.commandId status updatedAt = .ok next := by
  have hid : command.commandId ∈ log.uniques := UniqueTable.mem_uniques.mpr ⟨command, hmem, rfl⟩
  unfold setCommandStatus
  rw [if_pos hid]
  exact ⟨_, rfl⟩

/-- `list_pending_commands`: due pending commands, oldest first, without the
rows that other transactions hold. -/
def listPendingCommands (log : CommandLog) (locked : WorkflowCommand → Bool)
    (workflowRunId : String) (now : Int) (limit : Nat) : Except Fault (List WorkflowCommand) :=
  if isBlank workflowRunId then .error (.valueError "workflow_run_id must be non-empty")
  else if limit = 0 then .error (.valueError "limit must be > 0")
  else
    let before (first second : WorkflowCommand) : Prop :=
      first.runAfter < second.runAfter ∨
        (first.runAfter = second.runAfter ∧ first.createdAt ≤ second.createdAt)
    have : DecidableRel before := fun _ _ => inferInstanceAs (Decidable (_ ∨ _))
    .ok ((log.select
      (fun row => row.workflowRunId = workflowRunId && row.status = .pending &&
        decide (row.runAfter ≤ now) && !locked row) before).take limit)

/-- What is listed is pending. -/
theorem mem_listPendingCommands {log : CommandLog} {locked : WorkflowCommand → Bool}
    {workflowRunId : String} {now : Int} {limit : Nat} {listed : List WorkflowCommand}
    (h : listPendingCommands log locked workflowRunId now limit = .ok listed)
    {command : WorkflowCommand} (hmem : command ∈ listed) :
    command ∈ log.rows ∧ command.status = .pending := by
  unfold listPendingCommands at h
  split at h
  · cases h
  · split at h
    · cases h
    · cases h
      obtain ⟨hrow, htest⟩ := Table.mem_select.mp (List.mem_of_mem_take hmem)
      simp only [Bool.and_eq_true, decide_eq_true_eq] at htest
      exact ⟨hrow, htest.1.1.2⟩

end CrmBot.WorkflowRuntime
