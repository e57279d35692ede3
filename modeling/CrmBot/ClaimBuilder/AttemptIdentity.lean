import CrmBot.ClaimBuilder.AmpleCapacity
import CrmBot.ClaimBuilder.PreparedEvents
import CrmBot.ClaimBuilder.PrepareHistory

/-! The identity of attempts.

The id of an attempt names the run, the position in the batch and the item, but
not the number of the attempt. Whether a due item can be dispatched again thus
depends on the positions of its earlier attempts. -/

namespace CrmBot.ClaimBuilder

open Relational CrmBot.Python CrmBot.ExecutionRuntime CrmBot.LlmRuntime CrmBot.WorkflowRuntime
  FailingFold Delimited

/-- An attempt with an identity of its own: its id is new, it was saved, its
reservation is active, and a fresh execute command for it is pending. -/
structure Identified (run : String) (state next : DispatchState) (attempt : StartedAttempt) :
    Prop where
  new : attempt.attemptId ∉ state.execution.attempts.keys
  saved : ∃ row ∈ next.execution.dispatches.rows, startedAttempt row = attempt
  reserved : ∃ reservation ∈ next.reservations.rows,
    reservation.attemptId = attempt.attemptId ∧ reservation.status = .active
  fresh : executeClaimBuilderSectionKey run attempt.attemptId ∉ state.commandLog.keys
  executes : ∃ command ∈ next.commandLog.rows,
    IsExecuteOf run attempt.attemptId command ∧ command.status = .pending

/-- A prepare that gives every item it leases an attempt with its own identity.
If it fails, then not because an attempt cannot be saved. -/
def IdentifiesAttempts (catalog : RouteCatalog) (locked : String → Bool) (state : DispatchState)
    (command : WorkflowCommand) : Prop :=
  Ends
    (fun result => (result.2.started.map StartedAttempt.attemptId).Nodup ∧
      (result.2.started ≠ [] →
        Ends (fun finished => ∀ attempt ∈ result.2.started,
            Identified command.workflowRunId state finished.2 attempt)
          (fun _ => False) (finishPrepare state command result.1 result.2)))
    (fun fault => ¬ fault.IsUniqueViolation)
    (prepareBatch catalog locked state command)

section Finish

variable {runs : Set String} {state : DispatchState} {command : WorkflowCommand}
  {context : BatchContext} {index : Nat} {progress : BatchProgress} {rows : List DispatchRow}

theorem BatchSound.ids_nodup (h : BatchSound runs context state index progress rows) :
    (state.execution.dispatches.keys ++ rows.map DispatchRow.attemptId).Nodup := by
  have hkeys := progress.execution.dispatches.key_nodup
  rw [h.dispatches, List.map_append] at hkeys
  exact hkeys

theorem BatchSound.started_ids (h : BatchSound runs context state index progress rows) :
    progress.started.map StartedAttempt.attemptId = rows.map DispatchRow.attemptId := by
  rw [h.started, List.map_map]
  rfl

theorem BatchSound.id_new (h : BatchSound runs context state index progress rows)
    {attempt : StartedAttempt} (hattempt : attempt ∈ progress.started) :
    attempt.attemptId ∉ state.execution.dispatches.keys := by
  intro hold
  have hmem : attempt.attemptId ∈ rows.map DispatchRow.attemptId := by
    rw [← h.started_ids]
    exact List.mem_map_of_mem hattempt
  exact (List.nodup_append.mp h.ids_nodup).2.2 _ hold _ hmem rfl

/-- The execute key and command id of a new attempt are new in the log. -/
theorem BatchSound.command_new (hruns : RunIds runs) (hrun : context.workflowRunId ∈ runs)
    (hlog : LogSound runs state.execution state.commandLog)
    (h : BatchSound runs context state index progress rows) {attempt : StartedAttempt}
    (hattempt : attempt ∈ progress.started) {other : WorkflowCommand}
    (hother : other ∈ state.commandLog.rows) :
    other.idempotencyKey ≠ executeClaimBuilderSectionKey context.workflowRunId attempt.attemptId ∧
      other.commandId ≠ "workflow-command:" ++
        executeClaimBuilderSectionKey context.workflowRunId attempt.attemptId := by
  obtain ⟨position, hposition⟩ := List.mem_iff_getElem?.mp hattempt
  have hid := (h.frame.leased position attempt hposition).1
  have hnew := h.id_new hattempt
  rcases hlog other hother with hforeign | ⟨run, hmem, attemptId, hdispatched, _, hkey, hcommandId⟩
  · rw [hid]
    exact hforeign.key_ne hrun _ _ _
  · rw [hkey, hcommandId]
    have hne : executeClaimBuilderSectionKey run attemptId ≠
        executeClaimBuilderSectionKey context.workflowRunId attempt.attemptId := by
      intro heq
      obtain ⟨_, hsame⟩ := executeClaimBuilderSectionKey_inj hruns hmem hrun heq
      exact hnew (hsame ▸ hdispatched)
    exact ⟨hne, fun heq => hne (append_left_inj heq)⟩

theorem executeKey_injective (run : String) :
    Function.Injective (executeClaimBuilderSectionKey run) := by
  intro first second heq
  rw [executeClaimBuilderSectionKey_eq, executeClaimBuilderSectionKey_eq] at heq
  exact append_left_inj (append_left_inj heq)

/-- The execute commands of a batch are appended to a sound log. -/
theorem BatchSound.commands_appended (hruns : RunIds runs) (hrun : context.workflowRunId ∈ runs)
    (hlog : LogSound runs state.execution state.commandLog)
    (h : BatchSound runs context state index progress rows) {commands : List WorkflowCommand}
    (hexecutes : List.Forall₂ (fun attempt command =>
      IsExecuteOf context.workflowRunId attempt.attemptId command ∧ command.status = .pending)
      progress.started commands) :
    ∃ log, appendPendingCommands state.commandLog commands = .ok log ∧
      log.rows = state.commandLog.rows ++ commands := by
  have hkeys : commands.map WorkflowCommand.idempotencyKey =
      (progress.started.map StartedAttempt.attemptId).map
        (executeClaimBuilderSectionKey context.workflowRunId) := by
    rw [List.map_map, ← List.forall₂_eq_eq_eq, List.forall₂_map_left_iff,
      List.forall₂_map_right_iff]
    exact hexecutes.flip.imp fun _ _ h => h.1.2.1
  have hids : commands.map WorkflowCommand.commandId =
      (commands.map WorkflowCommand.idempotencyKey).map ("workflow-command:" ++ ·) := by
    rw [hkeys, List.map_map, List.map_map, ← List.forall₂_eq_eq_eq, List.forall₂_map_left_iff,
      List.forall₂_map_right_iff]
    exact hexecutes.flip.imp fun _ _ h => h.1.2.2
  have hnodup : (commands.map WorkflowCommand.idempotencyKey).Nodup := by
    rw [hkeys, h.started_ids]
    exact (List.nodup_append.mp h.ids_nodup).2.1.map (executeKey_injective _)
  have hattempt : ∀ command ∈ commands, ∃ attempt ∈ progress.started,
      IsExecuteOf context.workflowRunId attempt.attemptId command := by
    intro command hcommand
    obtain ⟨attempt, hattempt, hexecute, _⟩ := exists_of_mem_forall₂ hexecutes.flip hcommand
    exact ⟨attempt, hattempt, hexecute⟩
  refine appendPendingCommands_of_new hnodup ?_ ?_ ?_
  · rw [hids]
    exact hnodup.map fun first second heq => append_left_inj heq
  · intro command hcommand hmem
    obtain ⟨other, hother, hsame⟩ := Table.mem_keys.mp hmem
    obtain ⟨attempt, hstarted, _, hkey, _⟩ := hattempt command hcommand
    exact (h.command_new hruns hrun hlog hstarted hother).1 (hsame.trans hkey)
  · intro command hcommand hmem
    obtain ⟨other, hother, hsame⟩ := UniqueTable.mem_uniques.mp hmem
    obtain ⟨attempt, hstarted, _, _, hid⟩ := hattempt command hcommand
    exact (h.command_new hruns hrun hlog hstarted hother).2 (hsame.trans hid)

/-- After a batch with attempts that can be announced the handler does not fail, and
every attempt is identified. -/
theorem finishPrepare_identifies (hruns : RunIds runs) (hrun : context.workflowRunId ∈ runs)
    (hsound : AttemptsSound runs state.execution state.reservations)
    (hlog : LogSound runs state.execution state.commandLog)
    (hlogged : command ∈ state.commandLog.rows)
    {preparation : Payload}
    (hpreparation : payloadGet command.payload "llm_dispatch_preparation" =
      some (.dict preparation))
    (hbatch : BatchSound runs context state index progress rows)
    (hstarted : progress.started ≠ []) {events : List Payload}
    (hevents : dispatchAttemptPreparedPayloads context progress.started = .ok events)
    (due : List DueWorkItemRecord) :
    ∃ result next, finishPrepare state command context (.walked due progress) =
        .ok (result, next) ∧
      ∀ attempt ∈ progress.started, Identified context.workflowRunId state next attempt := by
  obtain ⟨commands, hcommands, hexecutes⟩ := executeCommands_ok hpreparation
    context.workflowRunId context.occurredAt progress.started
  obtain ⟨log, happended, hrows⟩ := hbatch.commands_appended hruns hrun hlog hexecutes
  have hcommand : command ∈ log.rows := by
    rw [hrows]
    exact List.mem_append_left _ hlogged
  obtain ⟨final, hmark⟩ := setCommandStatus_of_mem hcommand .completed context.occurredAt
  have hfinal := setCommandStatus_rows hmark
  have hfinish : finishPrepare state command context (.walked due progress) =
      .ok ({ started := progress.started, appendedNextCommandCount := 0 + commands.length },
        { state with
          execution := progress.execution, reservations := progress.reservations
          commandLog := final }) := by
    have hskip : ¬ (due ≠ [] ∧ progress.started = []) := fun h => hstarted h.2
    simp only [finishPrepare, hskip, if_false, bind, Except.bind, hevents, hcommands, happended,
      markCommandCompleted, hmark]
    rfl
  refine ⟨_, _, hfinish, ?_⟩
  intro attempt hattempt
  have hrow := hattempt
  rw [hbatch.started] at hrow
  obtain ⟨row, hmem, hsame⟩ := List.mem_map.mp hrow
  have hid : row.attemptId = attempt.attemptId := congrArg StartedAttempt.attemptId hsame
  refine ⟨?_, ⟨row, ?_, hsame⟩, ?_, ?_, ?_⟩
  · exact fun hold => hbatch.id_new hattempt (hsound.attemptId_mem hold)
  · rw [hbatch.dispatches]
    exact List.mem_append_right _ hmem
  · rw [← hid]
    exact hbatch.reserved row hmem
  · intro hold
    obtain ⟨other, hother, hkey⟩ := Table.mem_keys.mp hold
    exact (hbatch.command_new hruns hrun hlog hattempt hother).1 hkey
  · obtain ⟨execute, hexecute, hof, hpending⟩ := exists_of_mem_forall₂ hexecutes hattempt
    -- the completed prepare command is another command of the log
    have hother := (hbatch.command_new hruns hrun hlog hattempt hlogged).2
    have hkept : execute.commandId ≠ command.commandId := by
      intro heq
      rw [← heq] at hother
      exact hother hof.2.2
    refine ⟨execute, ?_, hof, hpending⟩
    rw [hfinal, List.mem_map]
    refine ⟨execute, ?_, if_neg hkept⟩
    rw [hrows]
    exact List.mem_append_right _ hexecute

end Finish

/-- In a sound state a logged prepare command identifies its attempts, if its due
items name their sources and have no earlier attempt at a position that may come
up again. -/
theorem identifiesAttempts_of_positionsUnused {runs : Set String} (hruns : RunIds runs)
    {catalog : RouteCatalog} {locked : String → Bool} {state : DispatchState}
    {command : WorkflowCommand} (hsound : HistorySound runs state)
    (hrun : command.workflowRunId ∈ runs) (hlogged : command ∈ state.commandLog.rows)
    (hunused : ∀ count,
      payloadPositiveInt command.payload "scheduled_work_item_count" = .ok count →
      PositionsUnused state.execution command.workflowRunId count)
    (hnamed : ∀ count,
      payloadPositiveInt command.payload "scheduled_work_item_count" = .ok count →
      SourcesNamed state.execution count) :
    IdentifiesAttempts catalog locked state command := by
  have hends : Ends (fun result =>
      BatchPrepared runs catalog locked state command result.1 result.2)
      _ (prepareBatch catalog locked state command) := prepareBatch_ends hruns hrun hsound.attempts
  unfold IdentifiesAttempts
  cases hbatch : prepareBatch catalog locked state command with
  | error fault =>
    rw [hbatch] at hends
    exact hends hunused
  | ok prepared =>
    obtain ⟨context, outcome⟩ := prepared
    rw [hbatch] at hends
    obtain ⟨⟨windows, haccepted⟩, hwalked⟩ := hends
    cases outcome with
    | closed wakeupAt => exact ⟨List.nodup_nil, fun hstarted => absurd rfl hstarted⟩
    | walked due progress =>
      obtain ⟨rows, hsoundBatch⟩ := hwalked due progress rfl
      obtain ⟨preparation, hpreparation⟩ := haccepted.preparation
      have hcontext : context.workflowRunId = command.workflowRunId := haccepted.workflowRunId_eq
      constructor
      · have hids : progress.started.map StartedAttempt.attemptId =
            rows.map DispatchRow.attemptId := hsoundBatch.started_ids
        change (progress.started.map StartedAttempt.attemptId).Nodup
        rw [hids]
        exact (List.nodup_append.mp hsoundBatch.ids_nodup).2.1
      · intro hstarted
        obtain ⟨hdue, hannounces⟩ := prepareBatch_announces hbatch
        obtain ⟨events, hevents⟩ := hannounces.exists_events
          (hdue ▸ hnamed _ haccepted.count)
        obtain ⟨result, next, hfinish, hidentified⟩ := finishPrepare_identifies hruns
          (hcontext ▸ hrun) hsound.attempts hsound.log hlogged hpreparation hsoundBatch hstarted
          hevents due
        dsimp only
        rw [hfinish, ← hcontext]
        exact hidentified

/-! The condition is exact -/

/-- The due items of an index range are held by another transaction. -/
def lockedBetween (due : List DueWorkItemRecord) (first last : Nat) (workItemId : String) : Bool :=
  ((due.take last).drop first).any fun record => record.workItem.workItemId = workItemId

theorem lockedBetween_eq_true_iff {due : List DueWorkItemRecord}
    (hnodup : (due.map fun record => record.workItem.workItemId).Nodup) {index : Nat}
    {record : DueWorkItemRecord} (hrecord : due[index]? = some record) (first last : Nat) :
    lockedBetween due first last record.workItem.workItemId = true ↔
      first ≤ index ∧ index < last := by
  unfold lockedBetween
  simp only [List.any_eq_true, decide_eq_true_eq]
  constructor
  · rintro ⟨other, hother, hsame⟩
    obtain ⟨offset, hoffset⟩ := List.mem_iff_getElem?.mp hother
    rw [List.getElem?_drop, List.getElem?_take] at hoffset
    split at hoffset
    · next hlt =>
      have heq := dueIndex_unique hnodup hoffset hrecord hsame
      omega
    · cases hoffset
  · rintro ⟨hfirst, hlast⟩
    refine ⟨record, List.mem_iff_getElem?.mpr ⟨index - first, ?_⟩, rfl⟩
    have hindex : first + (index - first) = index := by omega
    rw [List.getElem?_drop, hindex, List.getElem?_take, if_pos hlast]
    exact hrecord

/-- The loop on its way to a due item whose attempt id is taken. -/
structure TowardCollision (state : DispatchState) (context : BatchContext)
    (due : List DueWorkItemRecord) (position last index : Nat) (progress : BatchProgress) :
    Prop where
  index_le : index ≤ last
  frame : BatchFrame context state.execution progress
  started_length : progress.started.length = min index position
  ample : Ample context.profile (due.drop index) progress.windows
  visited : ∀ attempt ∈ progress.started, ∃ earlier < index, ∃ record,
    due[earlier]? = some record ∧ record.workItem.workItemId = attempt.workItemId
  taken : ∀ attemptId ∈ state.execution.dispatches.keys,
    attemptId ∈ progress.execution.dispatches.keys

section Collision

variable {state : DispatchState} {context : BatchContext} {due : List DueWorkItemRecord}
  {position last index : Nat} {record : DueWorkItemRecord} {before : BatchProgress}

theorem TowardCollision.notMem_started
    (hnodup : (due.map fun record => record.workItem.workItemId).Nodup)
    (h : TowardCollision state context due position last index before)
    (hrecord : due[index]? = some record) :
    record.workItem.workItemId ∉ before.started.map StartedAttempt.workItemId := by
  intro hmem
  obtain ⟨attempt, hattempt, hid⟩ := List.mem_map.mp hmem
  obtain ⟨earlier, hlt, other, hother, hsame⟩ := h.visited attempt hattempt
  have heq := dueIndex_unique hnodup hother hrecord (hsame.trans hid)
  omega

/-- An item that is not held by another transaction is dispatched. -/
theorem TowardCollision.cases_of_free
    (hdue : ∀ record ∈ due, record ∈ dueWorkItems state.execution claimBuilderSectionWorkKind)
    (hnodup : (due.map fun record => record.workItem.workItemId).Nodup)
    (hroom : position < context.scheduledWorkItemCount)
    (h : TowardCollision state context due position last index before)
    (hrecord : due[index]? = some record)
    (hfree : context.locked record.workItem.workItemId = false) {after : BatchProgress}
    (hstep : PrepareStep context record before after) :
    ∃ windowIndex window row schedule settings,
      Dispatched context record before windowIndex window row schedule settings after := by
  have hlength := h.started_length
  cases hstep with
  | full hfull => omega
  | noWindow hnone =>
    have hample := h.ample
    rw [drop_eq_cons hrecord] at hample
    obtain ⟨window, hfits, _⟩ := hample.next context.occurredAt
    unfold requiredTokens at hnone
    rw [hfits] at hnone
    cases hnone
  | notLeased hnone =>
    have hmem := hdue record (List.mem_iff_getElem?.mpr ⟨index, hrecord⟩)
    obtain ⟨row, schedule, hleasable⟩ := leasableRow_of_due hmem hfree
    rw [h.frame.leasableRow_eq (h.notMem_started hnodup hrecord), hleasable] at hnone
    cases hnone
  | dispatched hdispatched => exact ⟨_, _, _, _, _, hdispatched⟩

/-- A dispatched item brings the loop one position further. -/
theorem TowardCollision.dispatch (h : TowardCollision state context due position last index before)
    (hindex : index < last) (hposition : index < position) (hrecord : due[index]? = some record)
    {windowIndex : Nat} {window : DirectCapacityWindow} {row : WorkItemRow}
    {schedule : ScheduleRow} {settings : ModelExecutionSettings} {after : BatchProgress}
    (hdispatched : Dispatched context record before windowIndex window row schedule settings
      after) :
    TowardCollision state context due position last (index + 1) after := by
  have hlength := h.started_length
  refine ⟨hindex, batchFrame_step h.frame (.dispatched hdispatched), ?_, ?_, ?_, ?_⟩
  · rw [hdispatched.started, List.length_append, List.length_singleton]
    omega
  · have hample := h.ample
    rw [drop_eq_cons hrecord] at hample
    obtain ⟨only, honly, _, hrest⟩ := hample.next context.occurredAt
    have hfits := hdispatched.fits
    unfold requiredTokens at hfits
    rw [honly] at hfits
    cases hfits
    rw [hdispatched.windows]
    exact hrest
  · intro attempt hattempt
    rw [hdispatched.started, List.mem_append, List.mem_singleton] at hattempt
    rcases hattempt with hold | rfl
    · obtain ⟨earlier, hlt, other, hother, hsame⟩ := h.visited attempt hold
      exact ⟨earlier, by omega, other, hother, hsame⟩
    · exact ⟨index, by omega, record, hrecord, hdispatched.row_workItemId.symm⟩
  · intro attemptId hmem
    obtain ⟨dispatch, hdispatch, hid⟩ := Table.mem_keys.mp (h.taken attemptId hmem)
    rw [Table.mem_keys, hdispatched.saved.dispatches]
    exact ⟨dispatch, List.mem_append_left _ hdispatch, hid⟩

/-- A held item leaves the loop at its position. -/
theorem TowardCollision.skip (h : TowardCollision state context due position last index before)
    (hindex : index < last) (hposition : position ≤ index) (hrecord : due[index]? = some record) :
    TowardCollision state context due position last (index + 1) before := by
  have hlength := h.started_length
  refine ⟨hindex, h.frame, by omega, ?_, ?_, h.taken⟩
  · have hample := h.ample
    rw [drop_eq_cons hrecord] at hample
    exact hample.skip
  · intro attempt hattempt
    obtain ⟨earlier, hlt, other, hother, hsame⟩ := h.visited attempt hattempt
    exact ⟨earlier, by omega, other, hother, hsame⟩

theorem towardCollision_step
    (hdue : ∀ record ∈ due, record ∈ dueWorkItems state.execution claimBuilderSectionWorkKind)
    (hnodup : (due.map fun record => record.workItem.workItemId).Nodup)
    (hroom : position < context.scheduledWorkItemCount)
    (hlocked : context.locked = lockedBetween due position last)
    (h : TowardCollision state context due position last index before) (hindex : index < last)
    (hrecord : due[index]? = some record) {after : BatchProgress}
    (hstep : PrepareStep context record before after) :
    TowardCollision state context due position last (index + 1) after := by
  have hiff := lockedBetween_eq_true_iff hnodup hrecord position last
  rw [← hlocked] at hiff
  rcases Nat.lt_or_ge index position with hlt | hge
  · have hfree : context.locked record.workItem.workItemId = false := by
      rw [Bool.eq_false_iff]
      intro htrue
      have hrange := hiff.mp htrue
      omega
    obtain ⟨_, _, _, _, _, hdispatched⟩ :=
      h.cases_of_free hdue hnodup hroom hrecord hfree hstep
    exact h.dispatch hindex hlt hrecord hdispatched
  · cases hstep with
    | full => exact h.skip hindex hge hrecord
    | noWindow => exact h.skip hindex hge hrecord
    | notLeased => exact h.skip hindex hge hrecord
    | dispatched hdispatched =>
      have hfree := (leasableRow_eq_some_iff.mp hdispatched.leasable).2.2.2.2
      rw [hiff.mpr ⟨hge, hindex⟩] at hfree
      cases hfree

/-- At the item itself the attempt id is taken. -/
theorem towardCollision_last
    (hdue : ∀ record ∈ due, record ∈ dueWorkItems state.execution claimBuilderSectionWorkKind)
    (hnodup : (due.map fun record => record.workItem.workItemId).Nodup)
    (hroom : position < context.scheduledWorkItemCount) (hle : position ≤ last)
    (hlocked : context.locked = lockedBetween due position last)
    (htaken : claimBuilderAttemptId context.workflowRunId position record.workItem.workItemId ∈
      state.execution.dispatches.keys)
    (h : TowardCollision state context due position last last before)
    (hrecord : due[last]? = some record) {after : BatchProgress}
    (hstep : PrepareStep context record before after) : False := by
  have hfree : context.locked record.workItem.workItemId = false := by
    rw [Bool.eq_false_iff, hlocked]
    intro htrue
    have hrange := (lockedBetween_eq_true_iff hnodup hrecord position last).mp htrue
    omega
  obtain ⟨_, _, _, _, _, hdispatched⟩ := h.cases_of_free hdue hnodup hroom hrecord hfree hstep
  have hlength : before.started.length = position := by
    have hstarted := h.started_length
    omega
  refine hdispatched.saved.dispatch_new (h.taken _ ?_)
  rw [← hlength] at htaken
  exact htaken

end Collision

/-- Where an earlier attempt of a due item was started at a position up to the
place of the item among the due items, some prepare violates a constraint. -/
theorem exists_collision (state : DispatchState) {run : String} {count position last : Nat}
    (hrun : isBlank run = false) {record : DueWorkItemRecord}
    (hrecord : (peekDueWorkItems state.execution claimBuilderSectionWorkKind count)[last]? =
      some record) (hle : position ≤ last)
    (htaken : claimBuilderAttemptId run position record.workItem.workItemId ∈
      state.execution.dispatches.keys) (key : String) :
    ∃ locked, Ends (fun _ => False) Fault.IsUniqueViolation
      (prepareBatch defaultGroqLlmModelRouteCatalog locked state
        (ampleCommand state key run count)) := by
  let due := peekDueWorkItems state.execution claimBuilderSectionWorkKind count
  let context := ampleContext state key run count (lockedBetween due position last)
  have hlast : last < due.length := (List.getElem?_eq_some_iff.mp hrecord).1
  have hlength : due.length ≤ count := List.length_take_le _ _
  have hdue : ∀ record ∈ due, record ∈ dueWorkItems state.execution claimBuilderSectionWorkKind :=
    fun record hmem => List.mem_of_mem_take hmem
  have hnodup : (due.map fun record => record.workItem.workItemId).Nodup :=
    peekDueWorkItems_nodup _ _ _
  have hroom : position < context.scheduledWorkItemCount := by
    change position < count
    omega
  have hfirst : TowardCollision state context due position last 0
      (initialProgress state [ampleWindow state count]) :=
    ⟨Nat.zero_le _, batchFrame_initial _ _ _, (Nat.zero_min _).symm,
      ampleWindow_ample state count, by simp [initialProgress], fun _ hmem => hmem⟩
  have hloop : Ends (TowardCollision state context due position last (0 + due.length))
      Fault.IsUniqueViolation
      (prepareDueRecords context (initialProgress state [ampleWindow state count]) due) := by
    refine Ends.foldlM ?_ hfirst
    intro index item hitem before hbefore
    rw [Nat.zero_add] at hbefore ⊢
    have hstep : Ends (PrepareStep context item before) Fault.IsUniqueViolation
        (prepareDueRecord context before item) :=
      prepareDueRecord_violates hbefore.ample.knownModels
    refine hstep.mono ?_ fun _ hfault => hfault
    intro after hafter
    rcases Nat.lt_or_ge index last with hlt | hge
    · exact towardCollision_step hdue hnodup hroom rfl hbefore hlt hitem hafter
    · have heq : index = last := le_antisymm hbefore.index_le hge
      subst heq
      rw [hrecord, Option.some.injEq] at hitem
      subst hitem
      exact (towardCollision_last hdue hnodup hroom hle rfl htaken hbefore hrecord hafter).elim
  -- no run of the loop gets beyond the item
  have hnever : Ends (fun _ => False) Fault.IsUniqueViolation
      (prepareDueRecords context (initialProgress state [ampleWindow state count]) due) := by
    refine hloop.mono (fun progress hend => ?_) fun _ hfault => hfault
    have hbound := hend.index_le
    omega
  have hcount : 0 < count := by omega
  refine ⟨lockedBetween due position last, ?_⟩
  rw [prepareBatch_ampleCommand hrun hcount]
  cases hwalk : prepareDueRecords context (initialProgress state [ampleWindow state count]) due with
  | error fault =>
    rw [hwalk] at hnever
    exact hnever
  | ok progress =>
    rw [hwalk] at hnever
    exact hnever.elim

/-- A prepare that a constraint stops does not identify its attempts. -/
theorem not_identifies_of_violation {catalog : RouteCatalog} {locked : String → Bool}
    {state : DispatchState} {command : WorkflowCommand}
    (h : Ends (fun _ => False) Fault.IsUniqueViolation
      (prepareBatch catalog locked state command)) :
    ¬ IdentifiesAttempts catalog locked state command := by
  unfold IdentifiesAttempts
  cases hbatch : prepareBatch catalog locked state command with
  | error fault =>
    rw [hbatch] at h
    exact fun hidentifies => hidentifies h
  | ok result =>
    rw [hbatch] at h
    exact h.elim

/-- Where a due item does not name its sources, the prepare that can lease only this
item is stopped, at the latest by the event of the attempt. -/
theorem exists_refusal (state : DispatchState) {run : String} {count : Nat}
    (hrun : isBlank run = false) (hcount : 0 < count) {record : DueWorkItemRecord}
    (hrecord : record ∈ peekDueWorkItems state.execution claimBuilderSectionWorkKind count)
    (hunnamed : ¬ NamesSources record.schedulePayload) (key : String) :
    ∃ locked, ¬ IdentifiesAttempts defaultGroqLlmModelRouteCatalog locked state
      (ampleCommand state key run count) := by
  let due := peekDueWorkItems state.execution claimBuilderSectionWorkKind count
  let context := ampleContext state key run count (lockedExcept record.workItem.workItemId)
  have hdue : ∀ record ∈ due, record ∈ dueWorkItems state.execution claimBuilderSectionWorkKind :=
    fun record hmem => List.mem_of_mem_take hmem
  have hnodup : (due.map fun record => record.workItem.workItemId).Nodup :=
    peekDueWorkItems_nodup _ _ _
  have hample := ampleWindow_ample state count
  refine ⟨lockedExcept record.workItem.workItemId, ?_⟩
  have hbatch := @prepareBatch_ampleCommand state key _ _ hrun hcount
    (lockedExcept record.workItem.workItemId)
  intro hidentifies
  unfold IdentifiesAttempts at hidentifies
  cases hloop : prepareDueRecords context (initialProgress state [ampleWindow state count]) due with
  | error fault =>
    have hends : Ends _ Fault.IsUniqueViolation
        (prepareDueRecords context (initialProgress state [ampleWindow state count]) due) :=
      prepareDueRecords_violates hample.knownModels
    rw [hloop] at hends
    rw [hbatch, hloop] at hidentifies
    exact hidentifies hends
  | ok progress =>
    have hprepared : prepareBatch defaultGroqLlmModelRouteCatalog
        (lockedExcept record.workItem.workItemId) state (ampleCommand state key run count) =
          .ok (context, .walked due progress) := by
      rw [hbatch, hloop]
      rfl
    obtain ⟨index, hindex⟩ := List.mem_iff_getElem?.mp hrecord
    have hstarted : record.workItem.workItemId ∈ progress.started.map StartedAttempt.workItemId :=
      prepareDueRecords_starts_free hdue hnodup hindex hcount rfl hample hloop
    have hsome : progress.started ≠ [] := by
      intro hnil
      rw [hnil] at hstarted
      cases hstarted
    rw [hprepared] at hidentifies
    have hends := hidentifies.2 hsome
    cases hfinish : finishPrepare state (ampleCommand state key run count) context
        (.walked due progress) with
    | error fault =>
      rw [hfinish] at hends
      exact hends
    | ok finished =>
      obtain ⟨_, _, events, _, _, _, _, hevents, _⟩ := finishPrepare_walked hfinish
      exact hunnamed ((prepareBatch_announces hprepared).2.namesSources hnodup hevents hrecord
        hstarted)

/-- The state in which a command is handled: the command was logged, or it is
appended just before. -/
inductive Presented (runs : Set String) (state : DispatchState) (command : WorkflowCommand) :
    DispatchState → Prop
  | logged (h : command ∈ state.commandLog.rows) : Presented runs state command state
  | appended {log : CommandLog} (hforeign : ForeignCommand runs command)
      (h : appendPendingCommand state.commandLog command = .ok (command, log)) :
      Presented runs state command { state with commandLog := log }

theorem Presented.historySound {runs : Set String} {state handled : DispatchState}
    {command : WorkflowCommand} (hsound : HistorySound runs state)
    (h : Presented runs state command handled) :
    HistorySound runs handled ∧ command ∈ handled.commandLog.rows ∧
      handled.execution = state.execution := by
  cases h with
  | logged hlogged => exact ⟨hsound, hlogged, rfl⟩
  | appended hforeign happend =>
    refine ⟨⟨hsound.attempts, hsound.log.append (.inl hforeign) happend⟩, ?_, rfl⟩
    rcases appendPendingCommand_cases happend with ⟨hold, _, _, _, _, rfl⟩ | ⟨_, _, _, hrows⟩
    · exact hold
    · dsimp only
      rw [hrows]
      exact List.mem_append_right _ List.mem_cons_self

/-- Every command can be appended under a new number. -/
theorem exists_presented (runs : Set String) (state : DispatchState)
    (command : String → WorkflowCommand)
    (hkey : ∀ key, (command key).idempotencyKey = key)
    (hid : ∀ key, (command key).commandId = "workflow-command:" ++ key) :
    ∃ key log, Presented runs state (command key) { state with commandLog := log } := by
  have hids : Function.Injective fun number : Nat =>
      "workflow-command:" ++ ("prepare:" ++ toString number) := fun first second heq =>
    numbered_injective "prepare:" (append_left_inj heq)
  obtain ⟨number, hnewKey, hnewId⟩ := exists_fresh (numbered_injective "prepare:") hids
    state.commandLog.keys state.commandLog.uniques
  refine ⟨"prepare:" ++ toString number, ?_⟩
  have hfreshKey : (command ("prepare:" ++ toString number)).idempotencyKey ∉
      state.commandLog.keys := by
    rw [hkey]
    exact hnewKey
  have hfreshId : (command ("prepare:" ++ toString number)).commandId ∉
      state.commandLog.uniques := by
    rw [hid]
    exact hnewId
  obtain ⟨log, happend, _⟩ := appendPendingCommand_of_new hfreshKey hfreshId
  have hfront : Diverge "execute-claim-builder-section:" "prepare:" := by decide
  have hforeign : ForeignCommand runs (command ("prepare:" ++ toString number)) := by
    intro run _
    rw [hkey, hid]
    unfold executeFront
    rw [executeClaimBuilderSectionKey_eq]
    have hdiverge := hfront.append_both (run ++ ":" ++ "claim-builder-dispatch:") (toString number)
    exact ⟨hdiverge, hdiverge.prepend _⟩
  exact ⟨log, .appended hforeign happend⟩

/-- All prepares of a run that ask for a number of items identify their attempts. -/
def PreparesIdentify (runs : Set String) (state : DispatchState) (run : String) (count : Nat) :
    Prop :=
  ∀ (catalog : RouteCatalog) (locked : String → Bool) (command : WorkflowCommand)
    (handled : DispatchState), Presented runs state command handled →
    command.workflowRunId = run →
    payloadPositiveInt command.payload "scheduled_work_item_count" = .ok count →
    IdentifiesAttempts catalog locked handled command

/-- In every reachable state, and for every number of items, all prepares of a run
identify their attempts exactly if every earlier attempt of a due item was
started at a position behind the place of the item among the due items, and the
due items name their sources. -/
theorem attempts_identified_iff {runs : Set String} (hruns : RunIds runs) {state : DispatchState}
    (hreach : Reachable runs state) {run : String} (hrun : run ∈ runs) (count : Nat) :
    PreparesIdentify runs state run count ↔
      PositionsUnused state.execution run count ∧ SourcesNamed state.execution count := by
  have hsound := hreach.historySound hruns
  constructor
  · intro hall
    obtain ⟨key, log, hpresented⟩ := exists_presented runs state
      (fun key => ampleCommand state key run count) (fun _ => rfl) fun _ => rfl
    have hidentifies : ∀ locked, 0 < count →
        IdentifiesAttempts defaultGroqLlmModelRouteCatalog locked { state with commandLog := log }
          (ampleCommand state key run count) := fun locked hcount =>
      hall defaultGroqLlmModelRouteCatalog locked _ _ hpresented rfl
        (payloadPositiveInt_of_get rfl hcount)
    constructor
    · intro last record hrecord row hrow hitem position hstarted
      by_contra hbehind
      have htaken : claimBuilderAttemptId run position record.workItem.workItemId ∈
          state.execution.dispatches.keys := by
        rw [← hitem, ← hstarted]
        exact Table.mem_keys.mpr ⟨row, hrow, rfl⟩
      obtain ⟨locked, hcollision⟩ := exists_collision { state with commandLog := log }
        (hruns.named run hrun) hrecord (not_lt.mp hbehind) htaken key
      exact not_identifies_of_violation hcollision
        (hidentifies locked (requestedItems_pos (List.mem_of_getElem? hrecord)))
    · intro record hrecord
      by_contra hunnamed
      obtain ⟨locked, hrefused⟩ := exists_refusal { state with commandLog := log }
        (hruns.named run hrun) (requestedItems_pos hrecord) hrecord hunnamed key
      exact hrefused (hidentifies locked (requestedItems_pos hrecord))
  · rintro ⟨hunused, hnamed⟩ catalog locked command handled hpresented hcommandRun hcount
    obtain ⟨hhandled, hlogged, hexecution⟩ := hpresented.historySound hsound
    refine identifiesAttempts_of_positionsUnused hruns hhandled (hcommandRun ▸ hrun) hlogged ?_ ?_
    · intro other hother
      rw [hcount, Except.ok.injEq] at hother
      rw [hexecution, hcommandRun, ← hother]
      exact hunused
    · intro other hother
      rw [hcount, Except.ok.injEq] at hother
      rw [hexecution, ← hother]
      exact hnamed

/-! A collision: an item is prepared, its lease expires, and it is prepared again. -/

def sampleRun : String := "knowledge-extraction:1"

def sampleItem : WorkItem :=
  { workItemId := "section-1", workKind := claimBuilderSectionWorkKind, status := .ready
    attemptCount := 0, leasedBy := none, leaseToken := none, leaseExpiresAt := none
    lastErrorKind := none, retryPlan := none, workItemId_ne := Eq.refl false
    lease_shape := leaseShape_ready }

/-- A schedule payload with the sources of its item. -/
def sourcePayload : Payload :=
  [("source_document_ref", .str "document-1"), ("source_unit_ref", .str "unit-1")]

theorem sourcePayload_namesSources : NamesSources sourcePayload where
  document := ⟨"document-1", rfl, by decide⟩
  unit := ⟨"unit-1", rfl, by decide⟩

def sampleCapacity : ProviderAccountCapacity :=
  { route := primaryRoute "account", remainingMinuteRequests := 60, remainingMinuteTokens := 6000
    remainingDailyRequests := 1000, remainingDailyTokens := 500000 }

/-- A prepare of one item at a number of seconds. -/
def samplePrepare (key : String) (seconds : Int) : WorkflowCommand :=
  directPrepareCommand key sampleRun (seconds * microsPerSecond)
    (directPreparePayload 1 claimBuilderActiveModelRef plainProfile [sampleCapacity])

def sampleStart : DispatchState :=
  { execution :=
      { workItems :=
          { rows := [{ item := sampleItem, createdAt := 0, updatedAt := 0
                       updated_ge := epoch_le_epoch }]
            key_nodup := by decide }
        schedules :=
          { rows := [{ workItemId := "section-1", idempotencyKey := "schedule:section-1"
                       payloadHash := "hash", payload := sourcePayload }]
            key_nodup := by decide, unique_nodup := by decide }
        attempts := .empty, dispatches := .empty }
    reservations := .empty, observations := .empty
    commandLog :=
      { rows := [samplePrepare "prepare:first" 0, samplePrepare "prepare:second" 100]
        key_nodup := by decide, unique_nodup := by decide } }

/-- The state after a prepare, or before it if the prepare fails. -/
def afterPrepare (state : DispatchState) (command : WorkflowCommand) : DispatchState :=
  match handlePrepareDispatchBatch defaultGroqLlmModelRouteCatalog (fun _ => false) state
    command with
  | .ok (_, next) => next
  | .error _ => state

def samplePrepared : DispatchState := afterPrepare sampleStart (samplePrepare "prepare:first" 0)

def sampleRecovered : DispatchState :=
  { samplePrepared with
    execution := reclaimExpired samplePrepared.execution (fun _ => false)
      (95 * microsPerSecond) 10 }

theorem sampleRun_ids : RunIds {sampleRun} := by
  constructor
  · intro run hrun
    rw [Set.mem_singleton_iff.mp hrun]
    decide
  · intro first hfirst second hsecond
    exact .inl (hfirst.trans hsecond.symm)

theorem sampleStart_noAttempts : NoAttempts {sampleRun} sampleStart := by
  refine ⟨rfl, rfl, rfl, ?_⟩
  intro command hcommand run hrun
  rw [Set.mem_singleton_iff.mp hrun]
  have hlog : command = samplePrepare "prepare:first" 0 ∨
      command = samplePrepare "prepare:second" 100 := by
    simpa [sampleStart] using hcommand
  rcases hlog with rfl | rfl
  · decide
  · decide

theorem afterPrepare_step {runs : Set String} {state : DispatchState} {command : WorkflowCommand}
    (hrun : command.workflowRunId ∈ runs) (hlogged : command ∈ state.commandLog.rows)
    (hok : (handlePrepareDispatchBatch defaultGroqLlmModelRouteCatalog (fun _ => false) state
      command).isOk = true) : HistoryStep runs state (afterPrepare state command) := by
  unfold afterPrepare
  cases h : handlePrepareDispatchBatch defaultGroqLlmModelRouteCatalog (fun _ => false) state
      command with
  | error fault =>
    rw [h] at hok
    cases hok
  | ok result => exact .prepare hrun hlogged h

theorem sampleRecovered_reachable : Reachable {sampleRun} sampleRecovered := by
  refine ⟨sampleStart, sampleStart_noAttempts, ?_⟩
  have hprepare : HistoryStep {sampleRun} sampleStart samplePrepared :=
    afterPrepare_step rfl List.mem_cons_self (by decide)
  exact (Relation.ReflTransGen.single hprepare).tail (.reclaim _ _ _)

/-- The second attempt of the item takes position 0 again, so its id is the one of
the abandoned attempt and cannot be saved. -/
theorem sampleRecovered_not_identified :
    RunIds {sampleRun} ∧ Reachable {sampleRun} sampleRecovered ∧
      samplePrepare "prepare:second" 100 ∈ sampleRecovered.commandLog.rows ∧
      ¬ IdentifiesAttempts defaultGroqLlmModelRouteCatalog (fun _ => false) sampleRecovered
        (samplePrepare "prepare:second" 100) := by
  refine ⟨sampleRun_ids, sampleRecovered_reachable, by decide, ?_⟩
  intro hidentifies
  have hfault : prepareBatch defaultGroqLlmModelRouteCatalog (fun _ => false) sampleRecovered
      (samplePrepare "prepare:second" 100) =
      .error (.uniqueViolation "execution_work_item_attempt_dispatches_pkey") := rfl
  unfold IdentifiesAttempts at hidentifies
  rw [hfault] at hidentifies
  exact hidentifies trivial

/-- Before any attempt every prepare of the item identifies its attempt. -/
theorem sampleStart_identified : PreparesIdentify {sampleRun} sampleStart sampleRun 1 := by
  have hreach : Reachable {sampleRun} sampleStart := ⟨sampleStart, sampleStart_noAttempts, .refl⟩
  refine (attempts_identified_iff sampleRun_ids hreach rfl 1).mpr ⟨?_, ?_⟩
  · intro index record _ row hrow
    cases hrow
  · have hpeek : peekDueWorkItems sampleStart.execution claimBuilderSectionWorkKind 1 =
        [{ workItem := sampleItem, schedulePayload := sourcePayload }] := by decide
    intro record hrecord
    rw [hpeek] at hrecord
    rw [List.mem_singleton.mp hrecord]
    exact sourcePayload_namesSources

end CrmBot.ClaimBuilder
