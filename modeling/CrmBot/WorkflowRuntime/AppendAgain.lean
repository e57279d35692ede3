import CrmBot.Library.Runs
import CrmBot.Python.PyObject
import CrmBot.WorkflowRuntime.CommandLog

/-! Appending a command or an event that is stored already.

The repositories compare the payload in memory with the stored one, which went
through JSON. -/

namespace CrmBot.WorkflowRuntime

open Relational CrmBot.Python Runs

abbrev ObjectPayload := List (String × PyObject)

/-- A `WorkflowCommand` as its producer builds it. -/
structure CommandObject where
  commandId : String
  commandType : String
  workflowRunId : String
  idempotencyKey : String
  payload : ObjectPayload
  status : CommandStatus
  runAfter : Int
  createdAt : Int
  updatedAt : Int
  causationEventId : Option String
  correlationId : Option String
  attemptCount : Nat

/-- The command as it is read back after its insert. -/
def CommandObject.stored (command : CommandObject) : WorkflowCommand where
  commandId := command.commandId
  commandType := command.commandType
  workflowRunId := command.workflowRunId
  idempotencyKey := command.idempotencyKey
  payload := PyObject.decodedEntries command.payload
  status := command.status
  runAfter := command.runAfter
  createdAt := command.createdAt
  updatedAt := command.updatedAt
  causationEventId := command.causationEventId
  correlationId := command.correlationId
  attemptCount := command.attemptCount

/-- A command with a plain payload, as its producer builds it. -/
def WorkflowCommand.toObject (command : WorkflowCommand) : CommandObject where
  commandId := command.commandId
  commandType := command.commandType
  workflowRunId := command.workflowRunId
  idempotencyKey := command.idempotencyKey
  payload := PyObject.ofJsonEntries command.payload
  status := command.status
  runAfter := command.runAfter
  createdAt := command.createdAt
  updatedAt := command.updatedAt
  causationEventId := command.causationEventId
  correlationId := command.correlationId
  attemptCount := command.attemptCount

@[simp] theorem WorkflowCommand.stored_toObject (command : WorkflowCommand) :
    command.toObject.stored = command := by
  simp [WorkflowCommand.toObject, CommandObject.stored, PyObject.decodedEntries_ofJsonEntries]

/-- The three comparisons that both repositories make, under the name of their
key. -/
def assertSame (keyName expectedType expectedRun : String) (expected : ObjectPayload)
    (type run : String) (payload : Payload) (typeName : String) : Except Fault Unit :=
  if expectedType ≠ type then
    .error (.valueError (keyName ++ " conflict has different " ++ typeName))
  else if expectedRun ≠ run then
    .error (.valueError (keyName ++ " conflict has different workflow_run_id"))
  else if ¬ PyObject.equalEntries expected payload then
    .error (.valueError (keyName ++ " conflict has different payload"))
  else .ok ()

theorem assertSame_eq_ok_iff {keyName expectedType expectedRun type run typeName : String}
    {expected : ObjectPayload} {payload : Payload} :
    assertSame keyName expectedType expectedRun expected type run payload typeName = .ok () ↔
      expectedType = type ∧ expectedRun = run ∧
        PyObject.equalEntries expected payload = true := by
  unfold assertSame
  split
  · next hne => exact ⟨nofun, fun h => absurd h.1 hne⟩
  · split
    · next hne => exact ⟨nofun, fun h => absurd h.2.1 hne⟩
    · split
      · next hne => exact ⟨nofun, fun h => absurd h.2.2 hne⟩
      · next htype hrun hpayload =>
        rw [not_not] at htype hrun hpayload
        exact ⟨fun _ => ⟨htype, hrun, hpayload⟩, fun _ => rfl⟩

/-! `PostgresCommandLogRepository` -/

def assertIdempotentConflict (expected : CommandObject) (existing : WorkflowCommand) :
    Except Fault Unit :=
  assertSame "idempotency_key" expected.commandType expected.workflowRunId expected.payload
    existing.commandType existing.workflowRunId existing.payload "command_type"

/-- `append_pending_command` on a command in memory. -/
def appendCommandObject (log : CommandLog) (command : CommandObject) :
    Except Fault (WorkflowCommand × CommandLog) :=
  match log.find? command.idempotencyKey with
  | some existing => do
    assertIdempotentConflict command existing
    return (existing, log)
  | none => match log.insertOrIgnore? command.stored with
    | none => .error (.uniqueViolation "workflow_runtime_command_log_pkey")
    | some next => .ok (command.stored, next)

/-- What may happen to the log between two appends. The cleanups delete the
commands of whole runs. -/
inductive LogEvent
  | append (command : CommandObject)
  | complete (commandId : String) (completedAt : Int)
  | fail (commandId : String) (failedAt : Int)
  | reschedule (commandId : String) (runAfter rescheduledAt : Int)
  | deleteRuns (workflowRunIds : List String)

/-- A call that raises leaves the log as it was. -/
def committed (log : CommandLog) (result : Except Fault CommandLog) : CommandLog :=
  match result with
  | .ok next => next
  | .error _ => log

def performLog (log : CommandLog) : LogEvent → CommandLog
  | .append command => committed log ((appendCommandObject log command).map Prod.snd)
  | .complete commandId completedAt =>
    committed log (markCommandCompleted log commandId completedAt)
  | .fail commandId failedAt => committed log (markCommandFailed log commandId failedAt)
  | .reschedule commandId runAfter rescheduledAt =>
    committed log (reschedulePendingCommand log commandId runAfter rescheduledAt)
  | .deleteRuns workflowRunIds => log.deleteWhere fun row => row.workflowRunId ∈ workflowRunIds

/-! `PostgresOutboxRepository` -/

/-- A `WorkflowEvent` as its producer builds it. -/
structure EventObject where
  eventId : String
  eventType : String
  workflowRunId : String
  payload : ObjectPayload
  occurredAt : Int
  causationCommandId : Option String
  correlationId : Option String

structure WorkflowEvent where
  eventId : String
  eventType : String
  workflowRunId : String
  payload : Payload
  occurredAt : Int
  causationCommandId : Option String
  correlationId : Option String
  sequenceNumber : Nat
  deriving DecidableEq

/-- The events and the next value of their sequence, which a conflict uses up as
well. -/
structure Outbox where
  events : Table WorkflowEvent.eventId
  sequence : Nat

def Outbox.empty : Outbox := { events := .empty, sequence := 1 }

def EventObject.stored (event : EventObject) (sequenceNumber : Nat) : WorkflowEvent where
  eventId := event.eventId
  eventType := event.eventType
  workflowRunId := event.workflowRunId
  payload := PyObject.decodedEntries event.payload
  occurredAt := event.occurredAt
  causationCommandId := event.causationCommandId
  correlationId := event.correlationId
  sequenceNumber := sequenceNumber

def assertIdempotentEventIsSame (expected : EventObject) (existing : WorkflowEvent) :
    Except Fault Unit :=
  assertSame "event_id" expected.eventType expected.workflowRunId expected.payload
    existing.eventType existing.workflowRunId existing.payload "event_type"

/-- `append_event`. -/
def appendEvent (outbox : Outbox) (event : EventObject) : Except Fault (WorkflowEvent × Outbox) :=
  match outbox.events.find? event.eventId with
  | some existing => do
    assertIdempotentEventIsSame event existing
    return (existing, { outbox with sequence := outbox.sequence + 1 })
  | none =>
    .ok (event.stored outbox.sequence,
      { events := outbox.events.insertOrIgnore (event.stored outbox.sequence)
        sequence := outbox.sequence + 1 })

inductive OutboxEvent
  | append (event : EventObject)
  | deleteRuns (workflowRunIds : List String)

def performOutbox (outbox : Outbox) : OutboxEvent → Outbox
  | .append event =>
    match appendEvent outbox event with
    | .ok (_, next) => next
    | .error _ => outbox
  | .deleteRuns workflowRunIds =>
    { outbox with
      events := outbox.events.deleteWhere fun row => row.workflowRunId ∈ workflowRunIds }

/-! The property. -/

/-- Appending the command returns the stored one and leaves the log alone. -/
def ReturnsStored (log : CommandLog) (command : CommandObject) (stored : WorkflowCommand) : Prop :=
  ∃ row, appendCommandObject log command = .ok (row, log) ∧ row.commandId = stored.commandId

/-- The event does not delete the commands of the run. -/
def KeepsCommands (workflowRunId : String) (_ : CommandLog) : LogEvent → Prop
  | .deleteRuns workflowRunIds => workflowRunId ∉ workflowRunIds
  | _ => True

def ReturnsStoredEvent (outbox : Outbox) (event : EventObject) (stored : WorkflowEvent) : Prop :=
  ∃ row next, appendEvent outbox event = .ok (row, next) ∧ next.events = outbox.events ∧
    row.sequenceNumber = stored.sequenceNumber

def KeepsEvents (workflowRunId : String) (_ : Outbox) : OutboxEvent → Prop
  | .deleteRuns workflowRunIds => workflowRunId ∉ workflowRunIds
  | .append _ => True

/-! The command log. -/

variable {log next : CommandLog} {command : CommandObject} {stored : WorkflowCommand}

/-- The columns that no statement changes. -/
def SameCommand (first second : WorkflowCommand) : Prop :=
  first.commandId = second.commandId ∧ first.commandType = second.commandType ∧
    first.workflowRunId = second.workflowRunId ∧
    first.idempotencyKey = second.idempotencyKey ∧ first.payload = second.payload

/-- On a stored key, an append succeeds where the comparison does. -/
theorem appendCommandObject_of_mem {row : WorkflowCommand} (hmem : row ∈ log.rows)
    (hkey : row.idempotencyKey = command.idempotencyKey) :
    appendCommandObject log command =
      (assertIdempotentConflict command row).map fun _ => (row, log) := by
  unfold appendCommandObject
  rw [Table.find?_eq_some_iff.mpr ⟨hmem, hkey⟩]
  dsimp only
  cases assertIdempotentConflict command row <;> rfl

/-- An accepted append found an equal command or added this one. -/
theorem appendCommandObject_cases (h : appendCommandObject log command = .ok (stored, next)) :
    (stored ∈ log.rows ∧ stored.idempotencyKey = command.idempotencyKey ∧
        assertIdempotentConflict command stored = .ok () ∧ next = log) ∨
      (stored = command.stored ∧ command.commandId ∉ log.uniques ∧
        next.rows = log.rows ++ [command.stored]) := by
  cases hfind : log.find? command.idempotencyKey with
  | some existing =>
    obtain ⟨hmem, hkey⟩ := Table.find?_eq_some_iff.mp hfind
    rw [appendCommandObject_of_mem hmem hkey] at h
    cases hassert : assertIdempotentConflict command existing with
    | error fault =>
      rw [hassert] at h
      cases h
    | ok _ =>
      rw [hassert] at h
      cases h
      exact .inl ⟨hmem, hkey, hassert, rfl⟩
  | none =>
    unfold appendCommandObject at h
    rw [hfind] at h
    dsimp only at h
    split at h
    · cases h
    · next inserted hinsert =>
      cases h
      rcases UniqueTable.rows_of_insertOrIgnore? hinsert with ⟨hold, _⟩ | ⟨_, hid, hrows⟩
      · exact absurd hold (Table.find?_eq_none_iff.mp hfind)
      · exact .inr ⟨rfl, hid, hrows⟩

/-- A command that is new in key and id is added. -/
theorem appendCommandObject_of_new (hkey : command.idempotencyKey ∉ log.keys)
    (hid : command.commandId ∉ log.uniques) :
    ∃ next, appendCommandObject log command = .ok (command.stored, next) ∧
      next.rows = log.rows ++ [command.stored] := by
  have hstoredKey : command.stored.idempotencyKey ∉ log.keys := hkey
  have hstoredId : command.stored.commandId ∉ log.uniques := hid
  obtain ⟨next, hinsert, hrows⟩ := UniqueTable.insertOrIgnore?_of_new hstoredKey hstoredId
  refine ⟨next, ?_, hrows⟩
  unfold appendCommandObject
  rw [Table.find?_eq_none_iff.mpr hkey]
  simp only [hinsert]

/-- Nothing is stored under the key and the id of the command; or an equal
command is, and the log has what is wanted. -/
def FitsLog (wanted : WorkflowCommand → Prop) (log : CommandLog) (command : CommandObject) : Prop :=
  match log.find? command.idempotencyKey with
  | none => command.commandId ∉ log.uniques
  | some row => assertIdempotentConflict command row = .ok () ∧ ∃ other ∈ log.rows, wanted other

/-- An append of something wanted is accepted and leaves something wanted exactly
when the command fits the log. -/
theorem fitsLog_iff {wanted : WorkflowCommand → Prop} (hwanted : wanted command.stored) :
    FitsLog wanted log command ↔
      ∃ stored next, appendCommandObject log command = .ok (stored, next) ∧
        ∃ row ∈ next.rows, wanted row := by
  unfold FitsLog
  cases hfind : log.find? command.idempotencyKey with
  | none =>
    have hkey := Table.find?_eq_none_iff.mp hfind
    dsimp only
    constructor
    · intro hid
      obtain ⟨next, happend, hrows⟩ := appendCommandObject_of_new hkey hid
      refine ⟨_, next, happend, command.stored, ?_, hwanted⟩
      rw [hrows]
      exact List.mem_append_right _ (List.mem_singleton_self _)
    · rintro ⟨stored, next, happend, _⟩
      rcases appendCommandObject_cases happend with ⟨hmem, hsameKey, _⟩ | ⟨_, hid, _⟩
      · exact absurd (Table.mem_keys.mpr ⟨stored, hmem, hsameKey⟩) hkey
      · exact hid
  | some row =>
    obtain ⟨hmem, hkey⟩ := Table.find?_eq_some_iff.mp hfind
    rw [appendCommandObject_of_mem hmem hkey]
    dsimp only
    constructor
    · rintro ⟨hsame, hpresent⟩
      rw [hsame]
      exact ⟨row, log, rfl, hpresent⟩
    · rintro ⟨stored, next, happend, hpresent⟩
      cases hsame : assertIdempotentConflict command row with
      | error fault =>
        rw [hsame] at happend
        cases happend
      | ok _ =>
        rw [hsame] at happend
        cases happend
        exact ⟨rfl, hpresent⟩

/-- No event but a cleanup of its run takes a command away or changes more than
its status and its times. -/
theorem exists_sameCommand_performLog {row : WorkflowCommand} (hmem : row ∈ log.rows)
    {event : LogEvent} (hkeeps : KeepsCommands row.workflowRunId log event) :
    ∃ later ∈ (performLog log event).rows, SameCommand later row := by
  have hself : SameCommand row row := ⟨rfl, rfl, rfl, rfl, rfl⟩
  -- the three status statements update rows in place
  have hupdate : ∀ (condition : WorkflowCommand → Bool) (update : WorkflowCommand → WorkflowCommand)
      (hkey : ∀ row, (update row).idempotencyKey = row.idempotencyKey)
      (hid : ∀ row, (update row).commandId = row.commandId), SameCommand (update row) row →
      ∃ later ∈ (log.updateWhere condition update hkey hid).rows, SameCommand later row := by
    intro condition update hkey hid hsame
    refine ⟨if condition row then update row else row, ?_, ?_⟩
    · rw [UniqueTable.rows_updateWhere]
      exact List.mem_map_of_mem hmem
    · split
      · exact hsame
      · exact hself
  cases event with
  | append command =>
    simp only [performLog]
    cases happend : appendCommandObject log command with
    | error fault => exact ⟨row, hmem, hself⟩
    | ok result =>
      obtain ⟨stored, next⟩ := result
      rcases appendCommandObject_cases happend with ⟨_, _, _, hnext⟩ | ⟨_, _, hrows⟩
      · cases hnext
        exact ⟨row, hmem, hself⟩
      · refine ⟨row, ?_, hself⟩
        change row ∈ next.rows
        rw [hrows]
        exact List.mem_append_left _ hmem
  | complete commandId completedAt | fail commandId failedAt
  | reschedule commandId runAfter rescheduledAt =>
    simp only [performLog, markCommandCompleted, markCommandFailed, setCommandStatus,
      reschedulePendingCommand]
    split
    · simp only [committed]
      exact hupdate _ _ _ _ ⟨rfl, rfl, rfl, rfl, rfl⟩
    · exact ⟨row, hmem, hself⟩
  | deleteRuns workflowRunIds =>
    refine ⟨row, ?_, hself⟩
    apply UniqueTable.mem_deleteWhere.mpr
    refine ⟨hmem, ?_⟩
    simpa [KeepsCommands] using hkeeps

theorem exists_sameCommand_of_run {later : List LogEvent} {row : WorkflowCommand}
    (hmem : row ∈ log.rows)
    (hkeeps : EveryStep performLog (KeepsCommands row.workflowRunId) log later) :
    ∃ last ∈ (later.foldl performLog log).rows, SameCommand last row := by
  have hstart : ∃ last ∈ log.rows, SameCommand last row :=
    ⟨row, hmem, rfl, rfl, rfl, rfl, rfl⟩
  have hstep : ∀ log event, (∃ last ∈ log.rows, SameCommand last row) →
      KeepsCommands row.workflowRunId log event →
      ∃ last ∈ (performLog log event).rows, SameCommand last row := by
    rintro log event ⟨last, hlast, hid, htype, hrun, hkey, hpayload⟩ hevent
    rw [← hrun] at hevent
    obtain ⟨after, hafter, hsame⟩ := exists_sameCommand_performLog hlast hevent
    exact ⟨after, hafter, hsame.1.trans hid, hsame.2.1.trans htype, hsame.2.2.1.trans hrun,
      hsame.2.2.2.1.trans hkey, hsame.2.2.2.2.trans hpayload⟩
  exact hkeeps.invariant hstep hstart

/-- What an accepted append leaves: a row of the command, and the answer that
the comparison will give on it. -/
theorem stored_of_append (h : appendCommandObject log command = .ok (stored, next)) :
    stored ∈ next.rows ∧ stored.idempotencyKey = command.idempotencyKey ∧
      stored.workflowRunId = command.workflowRunId ∧
      (assertIdempotentConflict command stored = .ok () ↔
        PyObject.jsonEntries command.payload = true) := by
  rcases appendCommandObject_cases h with ⟨hmem, hkey, hassert, rfl⟩ | ⟨rfl, _, hrows⟩
  · obtain ⟨_, hrun, hequal⟩ := assertSame_eq_ok_iff.mp hassert
    exact ⟨hmem, hkey, hrun.symm,
      fun _ => PyObject.jsonEntries_of_equalEntries hequal, fun _ => hassert⟩
  · refine ⟨?_, rfl, rfl, ?_⟩
    · rw [hrows]
      exact List.mem_append_right _ (List.mem_singleton_self _)
    · unfold assertIdempotentConflict
      rw [assertSame_eq_ok_iff]
      simp [CommandObject.stored, PyObject.equalEntries_decoded]

theorem returnsStored_iff {later : List LogEvent}
    (h : appendCommandObject log command = .ok (stored, next))
    (hkeeps : EveryStep performLog (KeepsCommands command.workflowRunId) next later) :
    ReturnsStored (later.foldl performLog next) command stored ↔
      PyObject.jsonEntries command.payload = true := by
  obtain ⟨hmem, hkey, hrun, hassert⟩ := stored_of_append h
  rw [← hrun] at hkeeps
  obtain ⟨row, hrow, hid, htype, hrowRun, hrowKey, hpayload⟩ :=
    exists_sameCommand_of_run hmem hkeeps
  have hsame : assertIdempotentConflict command row = assertIdempotentConflict command stored := by
    unfold assertIdempotentConflict
    rw [htype, hrowRun, hpayload]
  unfold ReturnsStored
  rw [appendCommandObject_of_mem hrow (hrowKey.trans hkey), hsame, ← hassert]
  constructor
  · rintro ⟨found, hfound, _⟩
    cases hresult : assertIdempotentConflict command stored with
    | ok _ => rfl
    | error fault =>
      rw [hresult] at hfound
      cases hfound
  · intro hok
    rw [hok]
    exact ⟨row, rfl, hid⟩

/-! The outbox. -/

variable {outbox nextOutbox : Outbox} {event : EventObject} {storedEvent : WorkflowEvent}

theorem appendEvent_of_mem {row : WorkflowEvent} (hmem : row ∈ outbox.events.rows)
    (hkey : row.eventId = event.eventId) :
    appendEvent outbox event = (assertIdempotentEventIsSame event row).map fun _ =>
      (row, { outbox with sequence := outbox.sequence + 1 }) := by
  unfold appendEvent
  rw [Table.find?_eq_some_iff.mpr ⟨hmem, hkey⟩]
  dsimp only
  cases assertIdempotentEventIsSame event row <;> rfl

theorem appendEvent_cases (h : appendEvent outbox event = .ok (storedEvent, nextOutbox)) :
    (storedEvent ∈ outbox.events.rows ∧ storedEvent.eventId = event.eventId ∧
        assertIdempotentEventIsSame event storedEvent = .ok () ∧
        nextOutbox.events = outbox.events) ∨
      (storedEvent = event.stored outbox.sequence ∧
        nextOutbox.events.rows = outbox.events.rows ++ [event.stored outbox.sequence]) := by
  cases hfind : outbox.events.find? event.eventId with
  | some existing =>
    obtain ⟨hmem, hkey⟩ := Table.find?_eq_some_iff.mp hfind
    rw [appendEvent_of_mem hmem hkey] at h
    cases hassert : assertIdempotentEventIsSame event existing with
    | error fault =>
      rw [hassert] at h
      cases h
    | ok _ =>
      rw [hassert] at h
      cases h
      exact .inl ⟨hmem, hkey, hassert, rfl⟩
  | none =>
    have hnew := Table.find?_eq_none_iff.mp hfind
    unfold appendEvent at h
    rw [hfind] at h
    cases h
    exact .inr ⟨rfl, Table.rows_insertOrIgnore_of_notMem hnew⟩

/-- No event but a cleanup of its run takes a row of the outbox away. -/
theorem mem_performOutbox {row : WorkflowEvent} (hmem : row ∈ outbox.events.rows)
    {step : OutboxEvent} (hkeeps : KeepsEvents row.workflowRunId outbox step) :
    row ∈ (performOutbox outbox step).events.rows := by
  cases step with
  | append event =>
    simp only [performOutbox]
    split
    · next stored next happend =>
      rcases appendEvent_cases happend with ⟨_, _, _, hsame⟩ | ⟨_, hrows⟩
      · rw [hsame]
        exact hmem
      · rw [hrows]
        exact List.mem_append_left _ hmem
    · exact hmem
  | deleteRuns workflowRunIds =>
    apply Table.mem_deleteWhere.mpr
    refine ⟨hmem, ?_⟩
    simpa [KeepsEvents] using hkeeps

theorem storedEvent_of_append (h : appendEvent outbox event = .ok (storedEvent, nextOutbox)) :
    storedEvent ∈ nextOutbox.events.rows ∧ storedEvent.eventId = event.eventId ∧
      storedEvent.workflowRunId = event.workflowRunId ∧
      (assertIdempotentEventIsSame event storedEvent = .ok () ↔
        PyObject.jsonEntries event.payload = true) := by
  rcases appendEvent_cases h with ⟨hmem, hkey, hassert, hsame⟩ | ⟨rfl, hrows⟩
  · obtain ⟨_, hrun, hequal⟩ := assertSame_eq_ok_iff.mp hassert
    rw [hsame]
    exact ⟨hmem, hkey, hrun.symm,
      fun _ => PyObject.jsonEntries_of_equalEntries hequal, fun _ => hassert⟩
  · refine ⟨?_, rfl, rfl, ?_⟩
    · rw [hrows]
      exact List.mem_append_right _ (List.mem_singleton_self _)
    · unfold assertIdempotentEventIsSame
      rw [assertSame_eq_ok_iff]
      simp [EventObject.stored, PyObject.equalEntries_decoded]

theorem returnsStoredEvent_iff {later : List OutboxEvent}
    (h : appendEvent outbox event = .ok (storedEvent, nextOutbox))
    (hkeeps : EveryStep performOutbox (KeepsEvents event.workflowRunId) nextOutbox later) :
    ReturnsStoredEvent (later.foldl performOutbox nextOutbox) event storedEvent ↔
      PyObject.jsonEntries event.payload = true := by
  obtain ⟨hmem, hkey, hrun, hassert⟩ := storedEvent_of_append h
  rw [← hrun] at hkeeps
  have hstep : ∀ outbox step, storedEvent ∈ outbox.events.rows →
      KeepsEvents storedEvent.workflowRunId outbox step →
      storedEvent ∈ (performOutbox outbox step).events.rows :=
    fun _ _ hrow hevent => mem_performOutbox hrow hevent
  have hlast : storedEvent ∈ (later.foldl performOutbox nextOutbox).events.rows :=
    hkeeps.invariant hstep hmem
  unfold ReturnsStoredEvent
  rw [appendEvent_of_mem hlast hkey, ← hassert]
  constructor
  · rintro ⟨found, next, hfound, _⟩
    cases hresult : assertIdempotentEventIsSame event storedEvent with
    | ok _ => rfl
    | error fault =>
      rw [hresult] at hfound
      cases hfound
  · intro hok
    rw [hok]
    exact ⟨storedEvent, _, rfl, rfl, rfl⟩

/-- A stored command or event can be appended again exactly when its payload is
plain JSON, whatever happened in between, unless its run was cleaned up. -/
theorem appendAgain_iff (log next : CommandLog) (command : CommandObject)
    (stored : WorkflowCommand) (laterCommands : List LogEvent) (outbox nextOutbox : Outbox)
    (event : EventObject) (storedEvent : WorkflowEvent) (laterEvents : List OutboxEvent) :
    (appendCommandObject log command = .ok (stored, next) →
      EveryStep performLog (KeepsCommands command.workflowRunId) next laterCommands →
      (ReturnsStored (laterCommands.foldl performLog next) command stored ↔
        PyObject.jsonEntries command.payload = true)) ∧
    (appendEvent outbox event = .ok (storedEvent, nextOutbox) →
      EveryStep performOutbox (KeepsEvents event.workflowRunId) nextOutbox laterEvents →
      (ReturnsStoredEvent (laterEvents.foldl performOutbox nextOutbox) event storedEvent ↔
        PyObject.jsonEntries event.payload = true)) :=
  ⟨returnsStored_iff, returnsStoredEvent_iff⟩

/-- The command that follows an applied compaction result, with its profile left
out. -/
def compactionPrepareCommand (accountCapacities : PyObject) : CommandObject where
  commandId := "workflow-command:draft-claim-compaction-dispatch:run:batch:command"
  commandType := "prepare_draft_claim_compaction_dispatch_batch"
  workflowRunId := "run"
  idempotencyKey := "draft-claim-compaction-dispatch:run:batch:command"
  payload :=
    [("llm_dispatch_preparation", .dict [("account_capacities", accountCapacities)]),
      ("scheduled_work_item_count", .int 1), ("workflow_run_id", .str "run")]
  status := .pending
  runAfter := 1
  createdAt := 1
  updatedAt := 1
  causationEventId := none
  correlationId := none
  attemptCount := 0

/-- The event of the applied result, with the counts left out. -/
def compactionAppliedEvent : EventObject where
  eventId := "workflow-event:run:DraftClaimCompactionResultApplied:command"
  eventType := "DraftClaimCompactionResultApplied"
  workflowRunId := "run"
  payload := [("created_node_refs", .list [.str "node"]), ("workflow_run_id", .str "run")]
  occurredAt := 1
  causationCommandId := some "command"
  correlationId := some "command"

/-- With a list of capacities the command can be appended again after it
completed, and so can the event. -/
theorem listCapacities_returnsStored :
    ∃ stored next storedEvent nextOutbox,
      appendCommandObject .empty (compactionPrepareCommand (.list [])) = .ok (stored, next) ∧
      appendEvent .empty compactionAppliedEvent = .ok (storedEvent, nextOutbox) ∧
      ReturnsStored (performLog next (.complete stored.commandId 2))
        (compactionPrepareCommand (.list [])) stored ∧
      ReturnsStoredEvent nextOutbox compactionAppliedEvent storedEvent := by
  refine ⟨_, _, _, _, rfl, rfl, ?_, ?_⟩
  · exact ((appendAgain_iff .empty _ (compactionPrepareCommand (.list [])) _
      [.complete (compactionPrepareCommand (.list [])).commandId 2] .empty .empty
      compactionAppliedEvent (compactionAppliedEvent.stored 1) []).1 rfl
      ⟨trivial, trivial⟩).mpr rfl
  · exact ((appendAgain_iff .empty .empty (compactionPrepareCommand (.list []))
      (compactionPrepareCommand (.list [])).stored [] .empty _
      compactionAppliedEvent _ []).2 rfl trivial).mpr rfl

/-- The handler builds the capacities as an empty tuple. -/
theorem tupleCapacities_not_returnsStored :
    ∃ stored next, appendCommandObject .empty (compactionPrepareCommand (.tuple [])) =
        .ok (stored, next) ∧
      ¬ ReturnsStored next (compactionPrepareCommand (.tuple [])) stored := by
  refine ⟨_, _, rfl, ?_⟩
  rintro ⟨row, hrow, _⟩
  cases hrow

end CrmBot.WorkflowRuntime
