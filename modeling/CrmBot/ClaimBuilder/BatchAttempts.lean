import CrmBot.ClaimBuilder.AttemptHistory

/-! The attempts of one batch.

Every attempt that a batch starts is new, reserved and, at the end, queued for
execution. `PositionsUnused` is the condition under which no start is refused. -/

namespace CrmBot.ClaimBuilder

open Relational CrmBot.Python CrmBot.ExecutionRuntime CrmBot.LlmRuntime CrmBot.WorkflowRuntime
  FailingFold Delimited

/-- Every earlier attempt of a due item was started at a position of its batch
that lies behind the item among the due items. -/
def PositionsUnused (execution : ExecutionStore) (run : String) (count : Nat) : Prop :=
  ∀ (index : Nat) (record : DueWorkItemRecord),
    (peekDueWorkItems execution claimBuilderSectionWorkKind count)[index]? = some record →
    ∀ row ∈ execution.dispatches.rows, row.workItemId = record.workItem.workItemId →
    ∀ position, StartedAt run position row → index < position

/-- The attempts a batch has started after a number of due items. -/
structure BatchSound (runs : Set String) (context : BatchContext) (initial : DispatchState)
    (index : Nat) (progress : BatchProgress) (rows : List DispatchRow) : Prop where
  frame : BatchFrame context initial.execution progress
  length_le : progress.started.length ≤ index
  sound : AttemptsSound runs progress.execution progress.reservations
  dispatches : progress.execution.dispatches.rows = initial.execution.dispatches.rows ++ rows
  started : progress.started = rows.map startedAttempt
  reserved : ∀ row ∈ rows, ∃ reservation ∈ progress.reservations.rows,
    reservation.attemptId = row.attemptId ∧ reservation.status = .active

section Loop

variable {runs : Set String} {context : BatchContext} {initial : DispatchState} {index : Nat}
  {record : DueWorkItemRecord} {before after : BatchProgress} {rows : List DispatchRow}

theorem batchSound_initial (hsound : AttemptsSound runs initial.execution initial.reservations)
    (windows : List DirectCapacityWindow) :
    BatchSound runs context initial 0 (initialProgress initial windows) [] where
  frame := batchFrame_initial context initial windows
  length_le := le_refl _
  sound := hsound
  dispatches := (List.append_nil _).symm
  started := rfl
  reserved := by simp

/-- A pass that changes nothing keeps the batch sound. -/
theorem BatchSound.skip (h : BatchSound runs context initial index before rows) :
    BatchSound runs context initial (index + 1) before rows :=
  ⟨h.frame, h.length_le.trans (Nat.le_succ _), h.sound, h.dispatches, h.started, h.reserved⟩

/-- A dispatched item leaves the attempts sound. -/
theorem Dispatched.attemptsSound {windowIndex : Nat} {window : DirectCapacityWindow}
    {row : WorkItemRow} {schedule : ScheduleRow} {settings : ModelExecutionSettings}
    (hrun : context.workflowRunId ∈ runs)
    (hsound : AttemptsSound runs before.execution before.reservations)
    (h : Dispatched context record before windowIndex window row schedule settings after) :
    AttemptsSound runs after.execution after.reservations := by
  have hid : (dispatchRow context (before.nextToken context record.workItem.workItemId)
      before.started.length row schedule window.capacity.route settings).workItemId =
      record.workItem.workItemId := h.row_workItemId
  have hstarted : AttemptsSound runs after.execution before.reservations := by
    refine hsound.of_saved ?_ ?_ ?_ h.saved ?_ ?_
    · exact updateWorkItem_itemsKept h.row_found (Nat.le_succ _)
    · rfl
    · rfl
    · rw [hid]
      exact ⟨_, find?_updateWorkItem_self h.row_found, le_refl _⟩
    · refine .inl ⟨context.workflowRunId, hrun, before.started.length, ?_⟩
      unfold StartedAt
      rw [hid]
      rfl
  refine hstarted.of_reservations fun reservation hreservation => ?_
  rw [h.reservations, reserve, Table.mem_insertOrIgnore] at hreservation
  rcases hreservation with hold | ⟨_, rfl⟩
  · exact .inl (Table.mem_keys.mpr ⟨reservation, hold, rfl⟩)
  · right
    rw [Table.mem_keys, h.saved.dispatches]
    exact ⟨_, List.mem_append_right _ List.mem_cons_self, rfl⟩

theorem batchSound_step (hrun : context.workflowRunId ∈ runs)
    (h : BatchSound runs context initial index before rows)
    (hstep : PrepareStep context record before after) :
    ∃ rows, BatchSound runs context initial (index + 1) after rows := by
  have hframe := batchFrame_step h.frame hstep
  cases hstep with
  | full => exact ⟨rows, h.skip⟩
  | noWindow => exact ⟨rows, h.skip⟩
  | notLeased => exact ⟨rows, h.skip⟩
  | @dispatched windowIndex window row schedule settings _ hdispatched =>
    have hreservations := hdispatched.reservations_rows h.sound.reserved
    refine ⟨rows ++ [dispatchRow context (before.nextToken context record.workItem.workItemId)
      before.started.length row schedule window.capacity.route settings], hframe, ?_,
      hdispatched.attemptsSound hrun h.sound, ?_, ?_, ?_⟩
    · rw [hdispatched.started, List.length_append]
      exact Nat.succ_le_succ h.length_le
    · rw [hdispatched.saved.dispatches, ← List.append_assoc, ← h.dispatches]
      rfl
    · rw [hdispatched.started, List.map_append, ← h.started]
      rfl
    · intro dispatch hdispatch
      rw [hreservations]
      rcases List.mem_append.mp hdispatch with hold | hnew
      · obtain ⟨reservation, hmem, hid, hactive⟩ := h.reserved dispatch hold
        exact ⟨reservation, List.mem_append_left _ hmem, hid, hactive⟩
      · rw [List.mem_singleton.mp hnew]
        exact ⟨_, List.mem_append_right _ List.mem_cons_self, rfl, rfl⟩

/-- An unused position gives an unused attempt id. -/
theorem BatchSound.token_new (hruns : RunIds runs) (hrun : context.workflowRunId ∈ runs)
    (h : BatchSound runs context initial index before rows)
    (hrecord : (peekDueWorkItems initial.execution claimBuilderSectionWorkKind
      context.scheduledWorkItemCount)[index]? = some record)
    (hunused : PositionsUnused initial.execution context.workflowRunId
      context.scheduledWorkItemCount) :
    before.nextToken context record.workItem.workItemId ∉ before.execution.dispatches.keys := by
  intro hmem
  obtain ⟨row, hrow, hid⟩ := Table.mem_keys.mp hmem
  have hlength := h.length_le
  rcases h.sound.origin row hrow with ⟨run, hmemRun, position, hstarted⟩ | hforeign
  · have hsame := hstarted.symm.trans hid
    obtain ⟨rfl, rfl, hitem⟩ := claimBuilderAttemptId_inj hruns hmemRun hrun hsame
    rw [h.dispatches] at hrow
    rcases List.mem_append.mp hrow with hold | hnew
    · have hbehind := hunused index record hrecord row hold hitem _ hstarted
      omega
    · have hattempt : startedAttempt row ∈ before.started := by
        rw [h.started]
        exact List.mem_map_of_mem hnew
      obtain ⟨earlier, hearlier⟩ := List.mem_iff_getElem?.mp hattempt
      have hposition := (h.frame.leased earlier _ hearlier).1
      have heq := claimBuilderAttemptId_inj hruns hrun hrun (hposition.symm.trans hid)
      have hlt := (List.getElem?_eq_some_iff.mp hearlier).1
      omega
  · refine hforeign.append_ne (context.workflowRunId ++ ":" ++
      (toString before.started.length ++ ":" ++ record.workItem.workItemId)) "" ?_
    rw [← claimBuilderAttemptId_eq, String.append_empty]
    exact hid.symm

/-- An attempt under a new id is saved: its item counts all its earlier attempts. -/
theorem BatchSound.save_ok {row : WorkItemRow} {schedule : ScheduleRow} {route : RouteKey}
    {settings : ModelExecutionSettings}
    (h : BatchSound runs context initial index before rows)
    (hrow : leasableRow before.execution context.locked claimBuilderSectionWorkKind
      record.workItem.workItemId = some (row, schedule))
    (hnew : before.nextToken context record.workItem.workItemId ∉
      before.execution.dispatches.keys) :
    ∃ execution, saveStartedDispatchAttempt
      (leasedExecution context before.execution
        (before.nextToken context record.workItem.workItemId) row record.workItem.workItemId)
      (dispatchRow context (before.nextToken context record.workItem.workItemId)
        before.started.length row schedule route settings)
      context.occurredAt = .ok execution := by
  have hfound := (leasableRow_eq_some_iff.mp hrow).1
  have hitem : row.workItemId = record.workItem.workItemId :=
    (Table.find?_eq_some_iff.mp hfound).2
  have hnumber : ∀ dispatch ∈ before.execution.dispatches.rows,
      dispatch.itemAttempt ≠ (row.workItemId, row.item.attemptCount + 1) := by
    intro dispatch hdispatch heq
    obtain ⟨hid, hcount⟩ := Prod.mk.inj heq
    obtain ⟨item, hitemRow, hle⟩ := h.sound.counted dispatch hdispatch
    rw [hid, hitem, hfound, Option.some.injEq] at hitemRow
    rw [← hitemRow, hcount] at hle
    omega
  apply saveStartedDispatchAttempt_of_new
  · exact fun hmem => hnew (h.sound.attemptId_mem hmem)
  · intro hmem
    obtain ⟨attempt, hattempt, hsame⟩ := UniqueTable.mem_uniques.mp hmem
    obtain ⟨dispatch, hdispatch, _, hsame'⟩ := h.sound.dispatched attempt hattempt
    exact hnumber dispatch hdispatch (hsame'.trans hsame)
  · exact hnew
  · intro hmem
    obtain ⟨dispatch, hdispatch, hsame⟩ := UniqueTable.mem_uniques.mp hmem
    exact hnumber dispatch hdispatch hsame

/-- The loop invariant. -/
def BatchInvariant (runs : Set String) (context : BatchContext) (initial : DispatchState)
    (index : Nat) (progress : BatchProgress) : Prop :=
  ∃ rows, BatchSound runs context initial index progress rows

/-- A fault that a constraint of the database raises only if some position was used. -/
def RefusesOnlyUsed (execution : ExecutionStore) (run : String) (count : Nat) (fault : Fault) :
    Prop :=
  PositionsUnused execution run count → ¬ fault.IsUniqueViolation

/-- The loop over the due items: where all positions are unused, no constraint of
the database refuses an attempt. -/
theorem prepareDueRecords_ends (hruns : RunIds runs) (hrun : context.workflowRunId ∈ runs)
    (hsound : AttemptsSound runs initial.execution initial.reservations)
    {windows : List DirectCapacityWindow} {due : List DueWorkItemRecord}
    (hdue : due = peekDueWorkItems initial.execution claimBuilderSectionWorkKind
      context.scheduledWorkItemCount) :
    Ends (BatchInvariant runs context initial (0 + due.length))
      (RefusesOnlyUsed initial.execution context.workflowRunId context.scheduledWorkItemCount)
      (prepareDueRecords context (initialProgress initial windows) due) := by
  refine Ends.foldlM ?_ ⟨[], batchSound_initial hsound windows⟩
  intro index record hrecord before ⟨rows, hbefore⟩
  rw [hdue] at hrecord
  rw [Nat.zero_add] at hbefore ⊢
  have hstep : Ends (PrepareStep context record before)
      (RefusesOnlyUsed initial.execution context.workflowRunId context.scheduledWorkItemCount)
      (prepareDueRecord context before record) := by
    refine prepareDueRecord_ends ?_ ?_
    · intro windowIndex window fault _ hfault _
      have hreads := executionSettingsForModelRef_reads context.catalog
        window.capacity.route.modelRef
      rw [hfault] at hreads
      exact Fault.IsValueError.not_isUniqueViolation hreads
    · intro row schedule route settings fault hrow hfault hunused
      have hnew := hbefore.token_new hruns hrun hrecord hunused
      obtain ⟨execution, hok⟩ := hbefore.save_ok hrow hnew
      rw [hok] at hfault
      cases hfault
  exact hstep.mono (fun _ h => batchSound_step hrun hbefore h) fun _ h => h

end Loop

/-! From the command to the end of the loop -/

/-- How far an accepted prepare came. -/
structure BatchPrepared (runs : Set String) (catalog : RouteCatalog) (locked : String → Bool)
    (state : DispatchState) (command : WorkflowCommand) (context : BatchContext)
    (outcome : BatchOutcome) : Prop where
  accepted : ∃ windows, AcceptedPrepare catalog locked state command context windows
  walked : ∀ due progress, outcome = .walked due progress →
    BatchInvariant runs context state due.length progress

section Prepare

variable {runs : Set String} {catalog : RouteCatalog} {locked : String → Bool}
  {state : DispatchState} {command : WorkflowCommand} {context : BatchContext}

theorem prepareBatch_ends (hruns : RunIds runs) (hrun : command.workflowRunId ∈ runs)
    (hsound : AttemptsSound runs state.execution state.reservations) :
    Ends (fun result => BatchPrepared runs catalog locked state command result.1 result.2)
      (fun fault =>
        (∀ count, payloadPositiveInt command.payload "scheduled_work_item_count" = .ok count →
          PositionsUnused state.execution command.workflowRunId count) → ¬ fault.IsUniqueViolation)
      (prepareBatch catalog locked state command) := by
  have hread := readPrepareCommand_ends catalog locked state command
  refine Ends.bind (hread.mono (fun _ h => h) fun fault hfault _ => ?_) fun read _ haccepted => ?_
  · exact Fault.IsValueError.not_isUniqueViolation hfault
  · obtain ⟨context, windows⟩ := read
    have hcontext := haccepted.workflowRunId_eq
    have hwalk : Ends (fun outcome => ∀ due progress, outcome = .walked due progress →
          BatchInvariant runs context state due.length progress)
        (RefusesOnlyUsed state.execution context.workflowRunId context.scheduledWorkItemCount)
        (walkDueItems state context windows) := by
      have hloop : Ends
          (BatchInvariant runs context state (0 + (peekDueWorkItems state.execution
            claimBuilderSectionWorkKind context.scheduledWorkItemCount).length))
          (RefusesOnlyUsed state.execution context.workflowRunId context.scheduledWorkItemCount)
          (prepareDueRecords context (initialProgress state windows)
            (peekDueWorkItems state.execution claimBuilderSectionWorkKind
              context.scheduledWorkItemCount)) :=
        prepareDueRecords_ends hruns (hcontext ▸ hrun) hsound rfl
      unfold walkDueItems
      split
      · intro due progress heq
        cases heq
      · refine hloop.bind fun progress _ hprogress due after heq => ?_
        cases heq
        rw [Nat.zero_add] at hprogress
        exact hprogress
    refine Ends.bind (hwalk.mono (fun _ h => h) fun fault hfault hunused => ?_)
      fun outcome _ houtcome => ⟨⟨windows, haccepted⟩, houtcome⟩
    apply hfault
    rw [hcontext]
    exact hunused _ haccepted.count

end Prepare

/-! The commands of the attempts -/

theorem ForeignCommand.key_ne {runs : Set String} {command : WorkflowCommand}
    (h : ForeignCommand runs command) {run : String} (hrun : run ∈ runs) (other : String)
    (position : Nat) (item : String) :
    command.idempotencyKey ≠
        executeClaimBuilderSectionKey run (claimBuilderAttemptId other position item) ∧
      command.commandId ≠ "workflow-command:" ++
        executeClaimBuilderSectionKey run (claimBuilderAttemptId other position item) := by
  obtain ⟨rest, hkey⟩ := executeKey_eq_front run other position item
  obtain ⟨hfront, hid⟩ := h run hrun
  rw [hkey]
  constructor
  · intro heq
    refine hfront.append_ne rest "" ?_
    rw [String.append_empty]
    exact heq.symm
  · intro heq
    refine hid.append_ne rest "" ?_
    rw [String.append_empty, String.append_assoc]
    exact heq.symm

/-- With a dispatch preparation every attempt gets its execute command. -/
theorem executeCommands_ok {prepare : WorkflowCommand} {preparation : Payload}
    (hpreparation : payloadGet prepare.payload "llm_dispatch_preparation" =
      some (.dict preparation)) (run : String) (occurredAt : Int) (attempts : List StartedAttempt) :
    ∃ commands, attempts.mapM (executeClaimBuilderSectionCommand prepare run occurredAt) =
        .ok commands ∧
      List.Forall₂ (fun attempt command =>
        IsExecuteOf run attempt.attemptId command ∧ command.status = .pending)
        attempts commands := by
  apply exists_mapM_eq_ok
  intro attempt _
  unfold executeClaimBuilderSectionCommand executeClaimBuilderSectionPayload
  simp only [hpreparation]
  exact ⟨_, rfl, ⟨rfl, rfl, rfl⟩, rfl⟩

/-- New commands are appended one after another. -/
theorem appendPendingCommands_of_new {log : CommandLog} {commands : List WorkflowCommand}
    (hkeys : (commands.map WorkflowCommand.idempotencyKey).Nodup)
    (hids : (commands.map WorkflowCommand.commandId).Nodup)
    (hnewKeys : ∀ command ∈ commands, command.idempotencyKey ∉ log.keys)
    (hnewIds : ∀ command ∈ commands, command.commandId ∉ log.uniques) :
    ∃ next, appendPendingCommands log commands = .ok next ∧
      next.rows = log.rows ++ commands := by
  induction commands generalizing log with
  | nil => exact ⟨log, rfl, (List.append_nil _).symm⟩
  | cons command rest ih =>
    rw [List.map_cons, List.nodup_cons] at hkeys hids
    obtain ⟨middle, happend, hrows⟩ := appendPendingCommand_of_new
      (hnewKeys command List.mem_cons_self) (hnewIds command List.mem_cons_self)
    have hrestKeys : ∀ other ∈ rest, other.idempotencyKey ∉ middle.keys := by
      intro other hother hmem
      obtain ⟨row, hrow, hsame⟩ := Table.mem_keys.mp hmem
      rw [hrows, List.mem_append, List.mem_singleton] at hrow
      rcases hrow with hold | rfl
      · exact hnewKeys other (List.mem_cons_of_mem _ hother)
          (Table.mem_keys.mpr ⟨row, hold, hsame⟩)
      · exact hkeys.1 (hsame ▸ List.mem_map_of_mem hother)
    have hrestIds : ∀ other ∈ rest, other.commandId ∉ middle.uniques := by
      intro other hother hmem
      obtain ⟨row, hrow, hsame⟩ := UniqueTable.mem_uniques.mp hmem
      rw [hrows, List.mem_append, List.mem_singleton] at hrow
      rcases hrow with hold | rfl
      · exact hnewIds other (List.mem_cons_of_mem _ hother)
          (UniqueTable.mem_uniques.mpr ⟨row, hold, hsame⟩)
      · exact hids.1 (hsame ▸ List.mem_map_of_mem hother)
    obtain ⟨next, hnext, hnextRows⟩ := ih hkeys.2 hids.2 hrestKeys hrestIds
    refine ⟨next, ?_, ?_⟩
    · unfold appendPendingCommands at hnext ⊢
      rw [List.foldlM_cons, happend]
      exact hnext
    · rw [hnextRows, hrows, List.append_assoc]
      rfl

end CrmBot.ClaimBuilder
