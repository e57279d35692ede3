import CrmBot.ClaimBuilder.BatchAttempts

/-! Histories of the tables a prepare works on.

A history interleaves prepares of any of the runs with recorded outcomes,
completed items, recoveries of expired leases, state changes that make items due
again, newly scheduled items, attempts of other code, finalized reservations,
observations and commands. -/

namespace CrmBot.ClaimBuilder

open Relational CrmBot.Python CrmBot.ExecutionRuntime CrmBot.LlmRuntime CrmBot.WorkflowRuntime
  FailingFold Delimited

/-- The rows before any attempt: items may be scheduled, commands logged and
capacities observed. -/
structure NoAttempts (runs : Set String) (state : DispatchState) : Prop where
  attempts : state.execution.attempts.rows = []
  dispatches : state.execution.dispatches.rows = []
  reservations : state.reservations.rows = []
  foreign : ∀ command ∈ state.commandLog.rows, ForeignCommand runs command

/-- One transaction of a history; a transaction that fails changes nothing. -/
inductive HistoryStep (runs : Set String) (state : DispatchState) : DispatchState → Prop
  | prepare {catalog : RouteCatalog} {locked : String → Bool} {command : WorkflowCommand}
      {result : PrepareResult} {next : DispatchState} (hrun : command.workflowRunId ∈ runs)
      (hlogged : command ∈ state.commandLog.rows)
      (h : handlePrepareDispatchBatch catalog locked state command = .ok (result, next)) :
      HistoryStep runs state next
  | recordOutcome {record : AttemptOutcomeRecord} {now : Int} {item : WorkItem}
      {execution : ExecutionStore}
      (h : recordAttemptOutcome state.execution record now = .ok (item, execution)) :
      HistoryStep runs state { state with execution := execution }
  | completeItem {workItemId leaseToken : String} {now : Int} {item : WorkItem}
      {execution : ExecutionStore}
      (h : completeWorkItemAfterDomainApply state.execution workItemId leaseToken now =
        .ok (item, execution)) :
      HistoryStep runs state { state with execution := execution }
  | reclaim (locked : String → Bool) (now : Int) (limit : Nat) :
      HistoryStep runs state
        { state with execution := reclaimExpired state.execution locked now limit }
  /-- Every operation of the state machine but a lease ends so. -/
  | changeItem {row : WorkItemRow}
      (hrow : state.execution.workItems.find? row.workItemId = some row)
      (status : WorkItemStatus) (errorKind : Option String) (retryPlan : Option WorkItemRetryPlan)
      (hstatus : status ≠ .leased) (now : Int) :
      HistoryStep runs state
        { state with
          execution := updateWorkItem state.execution row.workItemId
            (WorkItemStateMachine.withoutLease row.item status errorKind retryPlan hstatus)
            (fun _ => retryPlan) now }
  | schedule {item : WorkItem} {idempotencyKey payloadHash : String} {payload : Payload}
      {now : Int} {execution : ExecutionStore}
      (h : saveScheduledWorkItem state.execution item idempotencyKey payloadHash payload now =
        .ok execution) :
      HistoryStep runs state { state with execution := execution }
  /-- An attempt that other code starts, under an id of another form. -/
  | startElsewhere {row : WorkItemRow} {worker : String} {leaseExpiresAt now : Int}
      {record : DispatchRow} {execution : ExecutionStore}
      (hrow : state.execution.workItems.find? record.workItemId = some row)
      (hnumber : record.attemptNumber = row.item.attemptCount + 1)
      (hforeign : Diverge "claim-builder-dispatch:" record.attemptId)
      (h : saveStartedDispatchAttempt
        (updateWorkItem state.execution record.workItemId
          (WorkItemStateMachine.leasedItem row.item worker record.leaseToken leaseExpiresAt)
          (fun old => old.item.retryPlan) now) record now = .ok execution) :
      HistoryStep runs state { state with execution := execution }
  | reserveElsewhere (reservation : RouteReservation)
      (hknown : reservation.attemptId ∈ state.execution.dispatches.keys) :
      HistoryStep runs state
        { state with reservations := reserve state.reservations reservation }
  | finalizeReservation (attemptId : String) (status : ReservationStatus)
      (hfinal : status ≠ .active) (actualTokens : Option Nat) (now : Int) :
      HistoryStep runs state
        { state with
          reservations := finalize state.reservations attemptId status hfinal actualTokens now }
  | observe (observation : CapacityObservation) :
      HistoryStep runs state
        { state with observations := recordObservation state.observations observation }
  | appendCommand {command stored : WorkflowCommand} {log : CommandLog}
      (hforeign : ForeignCommand runs command)
      (h : appendPendingCommand state.commandLog command = .ok (stored, log)) :
      HistoryStep runs state { state with commandLog := log }
  | setStatus {commandId : String} {status : CommandStatus} {now : Int} {log : CommandLog}
      (h : setCommandStatus state.commandLog commandId status now = .ok log) :
      HistoryStep runs state { state with commandLog := log }

/-- The states that some history reaches. -/
def Reachable (runs : Set String) (state : DispatchState) : Prop :=
  ∃ start, NoAttempts runs start ∧ Relation.ReflTransGen (HistoryStep runs) start state

/-- The invariant of histories. -/
structure HistorySound (runs : Set String) (state : DispatchState) : Prop where
  attempts : AttemptsSound runs state.execution state.reservations
  log : LogSound runs state.execution state.commandLog

theorem NoAttempts.historySound {runs : Set String} {state : DispatchState}
    (h : NoAttempts runs state) : HistorySound runs state where
  attempts :=
    { dispatched := by simp [h.attempts], origin := by simp [h.dispatches]
      counted := by simp [h.dispatches], reserved := by simp [h.reservations] }
  log := fun command hcommand => .inl (h.foreign command hcommand)

/-! The command log -/

section Log

variable {runs : Set String} {execution : ExecutionStore} {log next : CommandLog}

theorem SoundCommand.mono {after : ExecutionStore} {command : WorkflowCommand}
    (h : SoundCommand runs execution command)
    (hkeys : ∀ attemptId ∈ execution.dispatches.keys, attemptId ∈ after.dispatches.keys) :
    SoundCommand runs after command := by
  rcases h with hforeign | ⟨run, hrun, attemptId, hmem, hof⟩
  · exact .inl hforeign
  · exact .inr ⟨run, hrun, attemptId, hkeys attemptId hmem, hof⟩

theorem LogSound.append {command stored : WorkflowCommand} (h : LogSound runs execution log)
    (hcommand : SoundCommand runs execution command)
    (happend : appendPendingCommand log command = .ok (stored, next)) :
    LogSound runs execution next := by
  intro row hrow
  rcases mem_of_appendPendingCommand happend row hrow with hold | rfl
  · exact h row hold
  · exact hcommand

theorem LogSound.appendAll {commands : List WorkflowCommand} (h : LogSound runs execution log)
    (hcommands : ∀ command ∈ commands, SoundCommand runs execution command)
    (happend : appendPendingCommands log commands = .ok next) : LogSound runs execution next := by
  induction commands generalizing log with
  | nil =>
    cases happend
    exact h
  | cons command rest ih =>
    unfold appendPendingCommands at happend
    rw [List.foldlM_cons] at happend
    obtain ⟨middle, hfirst, hrest⟩ := bind_eq_ok.mp happend
    obtain ⟨⟨stored, _⟩, hstored, hpair⟩ := bind_eq_ok.mp hfirst
    cases hpair
    exact ih (h.append (hcommands command List.mem_cons_self) hstored)
      (fun other hother => hcommands other (List.mem_cons_of_mem _ hother)) hrest

/-- A status update changes neither keys nor ids. -/
theorem LogSound.setStatus {commandId : String} {status : CommandStatus} {now : Int}
    (h : LogSound runs execution log)
    (hset : setCommandStatus log commandId status now = .ok next) :
    LogSound runs execution next := by
  intro row hrow
  rw [setCommandStatus_rows hset, List.mem_map] at hrow
  obtain ⟨old, hold, rfl⟩ := hrow
  have hsound := h old hold
  split
  · exact hsound
  · exact hsound

end Log

theorem ForeignCommand.rescheduled {runs : Set String} {command : WorkflowCommand}
    (h : ForeignCommand runs command) (runAfter occurredAt : Int) (reason : String) :
    ForeignCommand runs (rescheduledPrepareCommand command runAfter occurredAt reason) := by
  intro run hrun
  obtain ⟨hkey, hid⟩ := h run hrun
  exact ⟨(((hkey.append _).append _).append _).append _,
    (((hid.append _).append _).append _).append _⟩

theorem capacityWindowPrepareWakeup_foreign (runs : Set String) {source wakeup : WorkflowCommand}
    {workflowRunId commandType : String} {observation : CapacityObservation} {occurredAt : Int}
    (h : capacityWindowPrepareWakeup source workflowRunId commandType observation occurredAt =
      some wakeup) : ForeignCommand runs wakeup := by
  have hfront : Diverge "execute-claim-builder-section:" "capacity-window-prepare:" := by decide
  obtain ⟨_, runAfter, _, _, _, rfl⟩ := capacityWindowPrepareWakeup_eq_some h
  intro run _
  unfold executeFront capacityWindowPrepareCommand capacityWindowPrepareKey
  rw [executeClaimBuilderSectionKey_eq]
  simp only [String.append_assoc]
  have hkey := hfront.append_both (run ++ (":" ++ "claim-builder-dispatch:"))
  exact ⟨hkey _, (hkey _).prepend _⟩

theorem executeClaimBuilderSectionCommand_isExecuteOf {prepare command : WorkflowCommand}
    {run : String} {occurredAt : Int} {attempt : StartedAttempt}
    (h : executeClaimBuilderSectionCommand prepare run occurredAt attempt = .ok command) :
    IsExecuteOf run attempt.attemptId command := by
  unfold executeClaimBuilderSectionCommand at h
  obtain ⟨payload, _, hcommand⟩ := bind_eq_ok.mp h
  cases hcommand
  exact ⟨rfl, rfl, rfl⟩

/-! Steps -/

section Prepare

variable {runs : Set String} {state : DispatchState} {command : WorkflowCommand}

/-- The wake-ups of a prepare without attempts are foreign. -/
theorem appendPrepareWakeup_logSound {execution : ExecutionStore} {occurredAt : Int}
    {windows : List DirectCapacityWindow} {log next : CommandLog} {count : Nat}
    (hlog : LogSound runs execution log) (hforeign : ForeignCommand runs command)
    (h : appendPrepareWakeup command occurredAt windows log = .ok (count, next)) :
    LogSound runs execution next := by
  unfold appendPrepareWakeup at h
  split at h
  · obtain ⟨⟨stored, log'⟩, happend, hpair⟩ := bind_eq_ok.mp h
    cases hpair
    exact hlog.append (.inl (hforeign.rescheduled _ _ _)) happend
  · split at h
    · cases h
      exact hlog
    · unfold appendCapacityWindowPrepareWakeup at h
      split at h
      · cases h
        exact hlog
      · next wakeup hwakeup =>
        obtain ⟨⟨stored, log'⟩, happend, hpair⟩ := bind_eq_ok.mp h
        cases hpair
        exact hlog.append (.inl (capacityWindowPrepareWakeup_foreign runs hwakeup)) happend

/-- The end of a prepare keeps the history sound. -/
theorem finishPrepare_historySound {context : BatchContext} {outcome : BatchOutcome}
    {result : PrepareResult} {next : DispatchState} (hrun : context.workflowRunId ∈ runs)
    (hsound : HistorySound runs state) (hforeign : ForeignCommand runs command)
    (hwalked : ∀ due progress, outcome = .walked due progress →
      BatchInvariant runs context state due.length progress)
    (h : finishPrepare state command context outcome = .ok (result, next)) :
    HistorySound runs next := by
  cases outcome with
  | closed wakeupAt =>
    obtain ⟨_, _, _, happend, hmark, _, rfl⟩ := finishPrepare_closed h
    exact ⟨hsound.attempts,
      (hsound.log.append (.inl (hforeign.rescheduled _ _ _)) happend).setStatus hmark⟩
  | walked due progress =>
    obtain ⟨rows, hbatch⟩ := hwalked due progress rfl
    have hkeys : ∀ attemptId ∈ state.execution.dispatches.keys,
        attemptId ∈ progress.execution.dispatches.keys := by
      intro attemptId hmem
      obtain ⟨row, hrow, hid⟩ := Table.mem_keys.mp hmem
      rw [Table.mem_keys, hbatch.dispatches]
      exact ⟨row, List.mem_append_left _ hrow, hid⟩
    have hlog : LogSound runs progress.execution state.commandLog :=
      fun command hcommand => (hsound.log command hcommand).mono hkeys
    have hexecutes : ∀ commands, progress.started.mapM
        (executeClaimBuilderSectionCommand command context.workflowRunId context.occurredAt) =
          .ok commands → ∀ execute ∈ commands, SoundCommand runs progress.execution execute := by
      intro commands hcommands execute hexecute
      obtain ⟨attempt, hattempt, hok⟩ :=
        exists_of_mem_forall₂ (forall₂_of_mapM hcommands).flip hexecute
      refine .inr ⟨context.workflowRunId, hrun, attempt.attemptId, ?_,
        executeClaimBuilderSectionCommand_isExecuteOf hok⟩
      rw [hbatch.started] at hattempt
      obtain ⟨row, hrow, rfl⟩ := List.mem_map.mp hattempt
      rw [Table.mem_keys, hbatch.dispatches]
      exact ⟨row, List.mem_append_right _ hrow, rfl⟩
    obtain ⟨count, log, _, commands, appended, final, hwakeup, _, hcommands, happend, hmark, _,
      rfl⟩ := finishPrepare_walked h
    have hbefore : LogSound runs progress.execution log := by
      split at hwakeup
      · exact appendPrepareWakeup_logSound hlog hforeign hwakeup
      · cases hwakeup
        exact hlog
    exact ⟨hbatch.sound,
      (hbefore.appendAll (hexecutes commands hcommands) happend).setStatus hmark⟩

theorem HistorySound.prepare {catalog : RouteCatalog} {locked : String → Bool}
    {result : PrepareResult} {next : DispatchState} (hruns : RunIds runs)
    (hsound : HistorySound runs state) (hrun : command.workflowRunId ∈ runs)
    (hlogged : command ∈ state.commandLog.rows)
    (h : handlePrepareDispatchBatch catalog locked state command = .ok (result, next)) :
    HistorySound runs next := by
  obtain ⟨⟨context, outcome⟩, hbatch, hfinish⟩ := bind_eq_ok.mp h
  have hends : BatchPrepared runs catalog locked state command context outcome := by
    have hbatchEnds : Ends
        (fun result => BatchPrepared runs catalog locked state command result.1 result.2) _
        (prepareBatch catalog locked state command) := prepareBatch_ends hruns hrun hsound.attempts
    rw [hbatch] at hbatchEnds
    exact hbatchEnds
  obtain ⟨windows, haccepted⟩ := hends.accepted
  -- an execute command is not a prepare command
  have hforeign : ForeignCommand runs command := by
    rcases hsound.log command hlogged with hforeign | ⟨_, _, _, _, htype, _⟩
    · exact hforeign
    · rw [haccepted.isPrepare] at htype
      exact absurd htype (by decide)
  have hcontext : context.workflowRunId ∈ runs := by
    rw [haccepted.workflowRunId_eq]
    exact hrun
  exact finishPrepare_historySound hcontext hsound hforeign hends.walked hfinish

end Prepare

/-- Every transaction keeps the history sound. -/
theorem historySound_step {runs : Set String} (hruns : RunIds runs) {state next : DispatchState}
    (hsound : HistorySound runs state) (hstep : HistoryStep runs state next) :
    HistorySound runs next := by
  have hkept : ∀ {execution}, AttemptsKept state.execution execution →
      HistorySound runs { state with execution := execution } := by
    intro execution hkept
    refine ⟨hsound.attempts.of_kept hkept, ?_⟩
    intro command hcommand
    refine (hsound.log command hcommand).mono fun attemptId hmem => ?_
    rw [hkept.dispatches]
    exact hmem
  cases hstep with
  | prepare hrun hlogged h => exact hsound.prepare hruns hrun hlogged h
  | recordOutcome h => exact hkept (recordAttemptOutcome_attemptsKept h)
  | completeItem h => exact hkept (completeWorkItemAfterDomainApply_attemptsKept h)
  | reclaim locked now limit => exact hkept (reclaimExpired_attemptsKept _ locked now limit)
  | changeItem hrow status errorKind retryPlan hstatus now =>
    exact hkept (updateWorkItem_attemptsKept hrow rfl)
  | schedule h => exact hkept (saveScheduledWorkItem_attemptsKept h)
  | @startElsewhere row worker leaseExpiresAt now record execution hrow hnumber hforeign h =>
    have hends := saveStartedDispatchAttempt_ends
      (updateWorkItem state.execution record.workItemId
        (WorkItemStateMachine.leasedItem row.item worker record.leaseToken leaseExpiresAt)
        (fun old => old.item.retryPlan) now) record now
    rw [h] at hends
    refine ⟨hsound.attempts.of_saved ?_ ?_ ?_ hends ?_ (.inr hforeign), ?_⟩
    · exact updateWorkItem_itemsKept hrow (Nat.le_succ _)
    · rfl
    · rfl
    · exact ⟨_, find?_updateWorkItem_self hrow, hnumber.le⟩
    · intro command hcommand
      refine (hsound.log command hcommand).mono fun attemptId hmem => ?_
      obtain ⟨dispatch, hdispatch, hid⟩ := Table.mem_keys.mp hmem
      rw [Table.mem_keys, hends.dispatches]
      exact ⟨dispatch, List.mem_append_left _ hdispatch, hid⟩
  | reserveElsewhere reservation hknown =>
    refine ⟨hsound.attempts.of_reservations fun other hother => ?_, hsound.log⟩
    rcases Table.mem_insertOrIgnore.mp hother with hold | ⟨_, rfl⟩
    · exact .inl (Table.mem_keys.mpr ⟨other, hold, rfl⟩)
    · exact .inr hknown
  | finalizeReservation attemptId status hfinal actualTokens now =>
    refine ⟨hsound.attempts.of_reservations fun other hother => ?_, hsound.log⟩
    left
    rw [← keys_finalize state.reservations attemptId status hfinal actualTokens now]
    exact Table.mem_keys.mpr ⟨other, hother, rfl⟩
  | observe observation => exact ⟨hsound.attempts, hsound.log⟩
  | appendCommand hforeign h => exact ⟨hsound.attempts, hsound.log.append (.inl hforeign) h⟩
  | setStatus h => exact ⟨hsound.attempts, hsound.log.setStatus h⟩

/-- Every reachable state is sound. -/
theorem Reachable.historySound {runs : Set String} (hruns : RunIds runs) {state : DispatchState}
    (h : Reachable runs state) : HistorySound runs state := by
  obtain ⟨start, hstart, hrun⟩ := h
  have hstep : ∀ before after, HistorySound runs before → HistoryStep runs before after →
      HistorySound runs after := fun _ _ hbefore hstep => historySound_step hruns hbefore hstep
  exact Runs.invariant hstep hrun hstart.historySound

end CrmBot.ClaimBuilder
