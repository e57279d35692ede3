import CrmBot.ClaimBuilder.AmpleCapacity
import CrmBot.ClaimBuilder.PrepareCommand
import CrmBot.ExecutionRuntime.ItemScope

/-! Prepares of one workflow among the items of others.

The due items that a prepare peeks are those of the whole table. Where they all
belong to its own workflow, the prepare does the same as on the store without
the other items. -/

namespace CrmBot.ClaimBuilder

open Relational CrmBot.Python CrmBot.ExecutionRuntime CrmBot.LlmRuntime CrmBot.WorkflowRuntime
  FailingFold

/-- `payload ->> 'workflow_run_id' = …` on the schedule of an item, the condition by
which `summarize_by_work_kind_and_workflow` selects the items of a workflow. -/
def scheduledBy (store : ExecutionStore) (run workItemId : String) : Bool :=
  (store.schedules.find? workItemId).any fun schedule =>
    schedule.payload.get "workflow_run_id" = some (.str run)

/-- The state without the items of other workflows. -/
def DispatchState.ownPart (state : DispatchState) (run : String) : DispatchState :=
  { state with execution := keepItems (scheduledBy state.execution run) state.execution }

/-- The own items that a prepare dispatched, unless it failed. -/
def ownDispatched (state : DispatchState) (run : String)
    (handled : Except Fault (PrepareResult × DispatchState)) : Option (List String) :=
  match handled with
  | .error _ => none
  | .ok (result, _) =>
    some ((result.started.map StartedAttempt.workItemId).filter (scheduledBy state.execution run))

/-- Some capacity window of the command is open and has room for all the items it peeks. -/
def RoomForAll (catalog : RouteCatalog) (locked : String → Bool) (state : DispatchState)
    (command : WorkflowCommand) : Prop :=
  ∃ context windows, readPrepareCommand catalog locked state command = .ok (context, windows) ∧
    ∃ window ∈ windows, AmpleWindow context.profile
      (peekDueWorkItems state.execution claimBuilderSectionWorkKind context.scheduledWorkItemCount)
      window

/-- A prepare that touches only its own workflow. -/
structure Isolates (catalog : RouteCatalog) (locked : String → Bool) (state : DispatchState)
    (command : WorkflowCommand) : Prop where
  own : ∀ result next,
    handlePrepareDispatchBatch catalog locked state command = .ok (result, next) →
    ∀ attempt ∈ result.started,
      scheduledBy state.execution command.workflowRunId attempt.workItemId = true
  others : ∀ result next,
    handlePrepareDispatchBatch catalog locked state command = .ok (result, next) →
    ∀ workItemId, scheduledBy state.execution command.workflowRunId workItemId = false →
      next.execution.workItems.find? workItemId = state.execution.workItems.find? workItemId
  same : RoomForAll catalog locked state command →
    ownDispatched state command.workflowRunId
        (handlePrepareDispatchBatch catalog locked state command) =
      ownDispatched state command.workflowRunId
        (handlePrepareDispatchBatch catalog locked (state.ownPart command.workflowRunId) command)

/-- The first due items all belong to the workflow. -/
def NoForeignDue (store : ExecutionStore) (run : String) (count : Nat) : Prop :=
  ∀ record ∈ peekDueWorkItems store claimBuilderSectionWorkKind count,
    scheduledBy store run record.workItem.workItemId = true

/-- All prepares of a run that ask for a number of items touch only its items, for
every log that holds the command. -/
def PreparesIsolated (state : DispatchState) (run : String) (count : Nat) : Prop :=
  ∀ (catalog : RouteCatalog) (locked : String → Bool) (command : WorkflowCommand)
    (log : CommandLog), command ∈ log.rows → command.workflowRunId = run →
    payloadPositiveInt command.payload "scheduled_work_item_count" = .ok count →
    Isolates catalog locked { state with commandLog := log } command

/-! The prepare on the own part -/

section OwnPart

variable {owned : String → Bool}

def BatchProgress.keepItems (owned : String → Bool) (progress : BatchProgress) : BatchProgress :=
  { progress with execution := ExecutionRuntime.keepItems owned progress.execution }

def BatchOutcome.keepItems (owned : String → Bool) : BatchOutcome → BatchOutcome
  | .closed wakeupAt => .closed wakeupAt
  | .walked due progress => .walked due (progress.keepItems owned)

def DispatchState.keepItems (owned : String → Bool) (state : DispatchState) : DispatchState :=
  { state with execution := ExecutionRuntime.keepItems owned state.execution }

/-- One pass over an owned item does not look at other items. -/
theorem prepareDueRecord_keepItems {record : DueWorkItemRecord}
    (howned : owned record.workItem.workItemId = true) (context : BatchContext)
    (progress : BatchProgress) :
    prepareDueRecord context (progress.keepItems owned) record =
      (prepareDueRecord context progress record).map (BatchProgress.keepItems owned) := by
  unfold prepareDueRecord
  have hstarted : (progress.keepItems owned).started = progress.started := rfl
  have hwindows : (progress.keepItems owned).windows = progress.windows := rfl
  rw [hstarted, hwindows]
  split
  · rfl
  · split
    · rfl
    · next index window _ =>
      have hlease : leasableRow (progress.keepItems owned).execution context.locked
          claimBuilderSectionWorkKind record.workItem.workItemId =
          leasableRow progress.execution context.locked claimBuilderSectionWorkKind
            record.workItem.workItemId := leasableRow_keepItems howned context.locked
      rw [dispatchDueRecord_eq, dispatchDueRecord_eq, hlease]
      cases leasableRow progress.execution context.locked claimBuilderSectionWorkKind
          record.workItem.workItemId with
      | none => rfl
      | some found =>
        obtain ⟨row, schedule⟩ := found
        cases hsettings :
            context.catalog.executionSettingsForModelRef window.capacity.route.modelRef with
        | error fault => rfl
        | ok settings =>
          have hleased : leasedExecution context (progress.keepItems owned).execution
              (progress.nextToken context record.workItem.workItemId) row
              record.workItem.workItemId =
              ExecutionRuntime.keepItems owned (leasedExecution context progress.execution
                (progress.nextToken context record.workItem.workItemId) row
                record.workItem.workItemId) := updateWorkItem_keepItems _ _ _
          have htoken : (progress.keepItems owned).nextToken context record.workItem.workItemId =
              progress.nextToken context record.workItem.workItemId := rfl
          simp only [bind, Except.bind, htoken, hleased, hstarted,
            saveStartedDispatchAttempt_keepItems]
          cases saveStartedDispatchAttempt
              (leasedExecution context progress.execution
                (progress.nextToken context record.workItem.workItemId) row
                record.workItem.workItemId)
              (dispatchRow context (progress.nextToken context record.workItem.workItemId)
                progress.started.length row schedule window.capacity.route settings)
              context.occurredAt with
          | error fault => rfl
          | ok execution => rfl

/-- The loop over peeked items that are all owned does the same. -/
theorem walkDueItems_keepItems {state : DispatchState} {context : BatchContext}
    (hall : ∀ record ∈ peekDueWorkItems state.execution claimBuilderSectionWorkKind
      context.scheduledWorkItemCount, owned record.workItem.workItemId = true)
    (windows : List DirectCapacityWindow) :
    walkDueItems (state.keepItems owned) context windows =
      (walkDueItems state context windows).map (BatchOutcome.keepItems owned) := by
  have hpeek : peekDueWorkItems (state.keepItems owned).execution claimBuilderSectionWorkKind
      context.scheduledWorkItemCount =
      peekDueWorkItems state.execution claimBuilderSectionWorkKind
        context.scheduledWorkItemCount := peekDueWorkItems_keepItems hall
  have hloop := map_foldlM
    (fun record hrecord before => prepareDueRecord_keepItems (hall record hrecord) context before)
    (initialProgress state windows)
  unfold walkDueItems
  rw [hpeek]
  split
  · rfl
  · unfold prepareDueRecords
    have hinitial : initialProgress (state.keepItems owned) windows =
        (initialProgress state windows).keepItems owned := rfl
    dsimp only
    rw [hinitial, hloop]
    cases (peekDueWorkItems state.execution claimBuilderSectionWorkKind
        context.scheduledWorkItemCount).foldlM (prepareDueRecord context)
        (initialProgress state windows) with
    | error fault => rfl
    | ok progress => rfl

/-- The end of a prepare does not read the items. -/
theorem finishPrepare_keepItems (state : DispatchState) (command : WorkflowCommand)
    (context : BatchContext) (outcome : BatchOutcome) :
    finishPrepare (state.keepItems owned) command context (outcome.keepItems owned) =
      (finishPrepare state command context outcome).map fun finished =>
        (finished.1, finished.2.keepItems owned) := by
  have hlog : (state.keepItems owned).commandLog = state.commandLog := rfl
  cases outcome with
  | closed wakeupAt =>
    unfold BatchOutcome.keepItems finishPrepare
    dsimp only
    rw [hlog]
    cases happend : appendPendingCommand state.commandLog (rescheduledPrepareCommand command
        wakeupAt context.occurredAt "capacity_window_unavailable") with
    | error fault => rfl
    | ok appended =>
      simp only [bind, Except.bind]
      cases markCommandCompleted appended.2 command.commandId context.occurredAt with
      | error fault => rfl
      | ok log => rfl
  | walked due progress =>
    unfold BatchOutcome.keepItems finishPrepare
    have hstarted : (progress.keepItems owned).started = progress.started := rfl
    have hwindows : (progress.keepItems owned).windows = progress.windows := rfl
    dsimp only
    rw [hlog, hstarted, hwindows]
    have hend : ∀ (count : Nat) (log : CommandLog),
        (do
          let _ ← dispatchAttemptPreparedPayloads context progress.started
          let commands ← progress.started.mapM
            (executeClaimBuilderSectionCommand command context.workflowRunId context.occurredAt)
          let log ← appendPendingCommands log commands
          let log ← markCommandCompleted log command.commandId context.occurredAt
          return (({ started := progress.started
                     appendedNextCommandCount := count + commands.length } : PrepareResult),
            { state.keepItems owned with
              execution := (progress.keepItems owned).execution
              reservations := (progress.keepItems owned).reservations
              commandLog := log })) =
        (do
          let _ ← dispatchAttemptPreparedPayloads context progress.started
          let commands ← progress.started.mapM
            (executeClaimBuilderSectionCommand command context.workflowRunId context.occurredAt)
          let log ← appendPendingCommands log commands
          let log ← markCommandCompleted log command.commandId context.occurredAt
          return (({ started := progress.started
                     appendedNextCommandCount := count + commands.length } : PrepareResult),
            { state with
              execution := progress.execution
              reservations := progress.reservations
              commandLog := log }) : Except Fault (PrepareResult × DispatchState)).map
            fun finished => (finished.1, finished.2.keepItems owned) := by
      intro count log
      simp only [bind, Except.bind]
      cases dispatchAttemptPreparedPayloads context progress.started with
      | error fault => rfl
      | ok events =>
        dsimp only
        cases progress.started.mapM
            (executeClaimBuilderSectionCommand command context.workflowRunId
              context.occurredAt) with
        | error fault => rfl
        | ok commands =>
          dsimp only
          cases appendPendingCommands log commands with
          | error fault => rfl
          | ok log =>
            dsimp only
            cases markCommandCompleted log command.commandId context.occurredAt with
            | error fault => rfl
            | ok log => rfl
    split
    · cases appendPrepareWakeup command context.occurredAt progress.windows state.commandLog with
      | error fault => rfl
      | ok appended => exact hend appended.1 appended.2
    · exact hend 0 state.commandLog

/-- If all peeked items are owned, the prepare does the same without the others. -/
theorem handlePrepareDispatchBatch_keepItems {catalog : RouteCatalog} {locked : String → Bool}
    {state : DispatchState} {command : WorkflowCommand}
    (hall : ∀ count,
      payloadPositiveInt command.payload "scheduled_work_item_count" = .ok count →
      ∀ record ∈ peekDueWorkItems state.execution claimBuilderSectionWorkKind count,
        owned record.workItem.workItemId = true) :
    handlePrepareDispatchBatch catalog locked (state.keepItems owned) command =
      (handlePrepareDispatchBatch catalog locked state command).map fun finished =>
        (finished.1, finished.2.keepItems owned) := by
  have hread : readPrepareCommand catalog locked (state.keepItems owned) command =
      readPrepareCommand catalog locked state command := rfl
  have hends := readPrepareCommand_ends catalog locked state command
  unfold handlePrepareDispatchBatch prepareBatch
  rw [hread]
  cases hcommand : readPrepareCommand catalog locked state command with
  | error fault => rfl
  | ok read =>
    obtain ⟨context, windows⟩ := read
    rw [hcommand] at hends
    have hcount := hends.count
    simp only [bind, Except.bind, walkDueItems_keepItems (hall _ hcount) windows]
    cases walkDueItems state context windows with
    | error fault => rfl
    | ok outcome => exact finishPrepare_keepItems state command context outcome

end OwnPart

/-- Where the first due items all belong to the workflow, a prepare isolates. -/
theorem isolates_of_noForeignDue {catalog : RouteCatalog} {locked : String → Bool}
    {state : DispatchState} {command : WorkflowCommand}
    (hown : ∀ count,
      payloadPositiveInt command.payload "scheduled_work_item_count" = .ok count →
      NoForeignDue state.execution command.workflowRunId count) :
    Isolates catalog locked state command := by
  have hframe : ∀ result next,
      handlePrepareDispatchBatch catalog locked state command = .ok (result, next) →
      (∀ attempt ∈ result.started,
        scheduledBy state.execution command.workflowRunId attempt.workItemId = true) ∧
      ∀ workItemId, workItemId ∉ result.started.map StartedAttempt.workItemId →
        next.execution.workItems.find? workItemId =
          state.execution.workItems.find? workItemId := by
    intro result next h
    obtain ⟨⟨context, outcome⟩, hbatch, hfinish⟩ := bind_eq_ok.mp h
    obtain ⟨⟨read, windows⟩, hread, hwalk⟩ := bind_eq_ok.mp hbatch
    obtain ⟨walked, hwalked, hpair⟩ := bind_eq_ok.mp hwalk
    cases hpair
    have haccepted := readPrepareCommand_ends catalog locked state command
    rw [hread] at haccepted
    obtain ⟨hstarted, hexecution, _⟩ := finishPrepare_ok hfinish
    rw [hstarted, hexecution]
    unfold walkDueItems at hwalked
    split at hwalked
    · cases hwalked
      exact ⟨by simp [BatchOutcome.started], fun _ _ => rfl⟩
    · obtain ⟨progress, hloop, hpair⟩ := bind_eq_ok.mp hwalked
      cases hpair
      obtain ⟨hbatchFrame, hmem⟩ := prepareDueRecords_frame hloop
      refine ⟨?_, hbatchFrame.untouched⟩
      intro attempt hattempt
      obtain ⟨record, hrecord, hid⟩ := hmem attempt hattempt
      rw [← hid]
      exact hown _ haccepted.count record hrecord
  constructor
  · exact fun result next h => (hframe result next h).1
  · intro result next h workItemId hforeign
    obtain ⟨hstarted, huntouched⟩ := hframe result next h
    apply huntouched
    intro hmem
    obtain ⟨attempt, hattempt, rfl⟩ := List.mem_map.mp hmem
    rw [hstarted attempt hattempt] at hforeign
    cases hforeign
  · intro _
    have hsame : handlePrepareDispatchBatch catalog locked
        (state.ownPart command.workflowRunId) command = _ :=
      handlePrepareDispatchBatch_keepItems hown
    rw [hsame]
    cases handlePrepareDispatchBatch catalog locked state command with
    | error fault => rfl
    | ok finished => rfl

/-! The condition is exact -/

/-- On the own part of a store the only free item is missing, if it is foreign. -/
theorem leasableRow_ownPart {store : ExecutionStore} {run workItemId : String}
    (hforeign : scheduledBy store run workItemId = false) {count : Nat} :
    ∀ record ∈ peekDueWorkItems (keepItems (scheduledBy store run) store)
        claimBuilderSectionWorkKind count,
      leasableRow (keepItems (scheduledBy store run) store) (lockedExcept workItemId)
        claimBuilderSectionWorkKind record.workItem.workItemId = none := by
  intro record hrecord
  have hmem := List.mem_of_mem_take hrecord
  rw [dueWorkItems_keepItems, List.mem_filter] at hmem
  have hne : record.workItem.workItemId ≠ workItemId := by
    intro heq
    rw [heq, hforeign] at hmem
    exact absurd hmem.2 (by simp)
  exact leasableRow_lockedExcept hne

/-- With the ample command and one free due item, a prepare that succeeds has
started that item. -/
theorem handle_ampleCommand_starts_free (state : DispatchState) {key run : String} {count : Nat}
    (hrun : isBlank run = false) (hcount : 0 < count) {record : DueWorkItemRecord}
    (hrecord : record ∈ peekDueWorkItems state.execution claimBuilderSectionWorkKind count)
    {result : PrepareResult} {next : DispatchState}
    (h : handlePrepareDispatchBatch defaultGroqLlmModelRouteCatalog
      (lockedExcept record.workItem.workItemId) state (ampleCommand state key run count) =
        .ok (result, next)) :
    record.workItem.workItemId ∈ result.started.map StartedAttempt.workItemId := by
  obtain ⟨last, hlast⟩ := List.mem_iff_getElem?.mp hrecord
  obtain ⟨⟨context, outcome⟩, hbatch, hfinish⟩ := bind_eq_ok.mp h
  rw [prepareBatch_ampleCommand hrun hcount] at hbatch
  cases hloop : prepareDueRecords
      (ampleContext state key run count (lockedExcept record.workItem.workItemId))
      (initialProgress state [ampleWindow state count])
      (peekDueWorkItems state.execution claimBuilderSectionWorkKind count) with
  | error fault =>
    rw [hloop] at hbatch
    cases hbatch
  | ok progress =>
    rw [hloop] at hbatch
    cases hbatch
    rw [(finishPrepare_ok hfinish).1]
    exact prepareDueRecords_starts_free (fun _ hmem => List.mem_of_mem_take hmem)
      (peekDueWorkItems_nodup _ _ _) hlast hcount rfl (ampleWindow_ample state count) hloop

/-- A log that holds only the command. -/
def logOf (command : WorkflowCommand) : CommandLog :=
  { rows := [command], key_nodup := by simp, unique_nodup := by simp }

/-- For every store and every number of items, all prepares of a run touch only its
items exactly if the first due items of the store all belong to it. -/
theorem preparesIsolated_iff (state : DispatchState) {run : String} (hrun : isBlank run = false)
    (count : Nat) :
    PreparesIsolated state run count ↔ NoForeignDue state.execution run count := by
  constructor
  · intro hall record hrecord
    by_contra hforeign
    rw [Bool.not_eq_true] at hforeign
    have hcount : 0 < count := requestedItems_pos hrecord
    let command := ampleCommand state "prepare" run count
    let handled : DispatchState := { state with commandLog := logOf command }
    let locked := lockedExcept record.workItem.workItemId
    have hread : payloadPositiveInt command.payload "scheduled_work_item_count" = .ok count :=
      payloadPositiveInt_of_get rfl hcount
    have hisolates : Isolates defaultGroqLlmModelRouteCatalog locked handled command :=
      hall _ locked command (logOf command) List.mem_cons_self rfl hread
    have hroom : RoomForAll defaultGroqLlmModelRouteCatalog locked handled command :=
      ⟨_, _, readPrepareCommand_ampleCommand hrun hcount locked, _, List.mem_cons_self,
        ampleWindow_of_ampleCapacity state _ _ _ (le_refl _)⟩
    obtain ⟨ownResult, ownNext, hownHandled, hnoneStarted⟩ :
        ∃ result next, handlePrepareDispatchBatch defaultGroqLlmModelRouteCatalog locked
          (handled.ownPart run) command = .ok (result, next) ∧ result.started = [] :=
      handle_ampleCommand_of_unleasable hrun hcount locked rfl rfl List.mem_cons_self
        (leasableRow_ownPart hforeign)
    cases hhandled : handlePrepareDispatchBatch defaultGroqLlmModelRouteCatalog locked handled
        command with
    | error fault =>
      -- the foreign item makes the prepare fail, which succeeds without it
      have hsame := hisolates.same hroom
      have hown : handlePrepareDispatchBatch defaultGroqLlmModelRouteCatalog locked
          (handled.ownPart command.workflowRunId) command = .ok (ownResult, ownNext) := hownHandled
      rw [hhandled, hown] at hsame
      simp [ownDispatched] at hsame
    | ok finished =>
      obtain ⟨result, next⟩ := finished
      have hmem : record.workItem.workItemId ∈ result.started.map StartedAttempt.workItemId :=
        handle_ampleCommand_starts_free handled hrun hcount hrecord hhandled
      obtain ⟨attempt, hattempt, hid⟩ := List.mem_map.mp hmem
      have howned : scheduledBy state.execution run attempt.workItemId = true :=
        hisolates.own result next hhandled attempt hattempt
      rw [hid, hforeign] at howned
      cases howned
  · intro hown catalog locked command log _ hcommandRun hcount
    apply isolates_of_noForeignDue
    intro other hother
    rw [hcount, Except.ok.injEq] at hother
    rw [hcommandRun, ← hother]
    exact hown

/-! One section item of a workflow, prepared by some workflow. -/

/-- A state whose only due item was scheduled by a workflow run. -/
def singleSectionState (scheduledRun : String) (command : WorkflowCommand) : DispatchState :=
  { execution :=
      { workItems :=
          { rows :=
              [{ item :=
                  { workItemId := "section", workKind := claimBuilderSectionWorkKind
                    status := .ready, attemptCount := 0, leasedBy := none, leaseToken := none
                    leaseExpiresAt := none, lastErrorKind := none, retryPlan := none
                    workItemId_ne := Eq.refl false, lease_shape := leaseShape_ready }
                 createdAt := 0, updatedAt := 0, updated_ge := epoch_le_epoch }]
            key_nodup := by simp }
        schedules :=
          { rows :=
              [{ workItemId := "section", idempotencyKey := "schedule:section"
                 payloadHash := "hash", payload :=
                  [("source_document_ref", .str "document"), ("source_unit_ref", .str "unit"),
                    ("workflow_run_id", .str scheduledRun)] }]
            key_nodup := by simp, unique_nodup := by simp }
        attempts := .empty, dispatches := .empty }
    reservations := .empty, observations := .empty, commandLog := logOf command }

def openCapacity : ProviderAccountCapacity :=
  { route := primaryRoute "account", remainingMinuteRequests := 60, remainingMinuteTokens := 6000
    remainingDailyRequests := 1000, remainingDailyTokens := 500000 }

/-- A prepare of the first workflow for one item. -/
def firstWorkflowPrepare : WorkflowCommand :=
  directPrepareCommand "prepare" "knowledge-extraction:1" 0
    (directPreparePayload 1 claimBuilderActiveModelRef plainProfile [openCapacity])

/-- The prepare of the first workflow dispatches the section of the second. -/
theorem firstWorkflowPrepare_not_isolates :
    ¬ Isolates defaultGroqLlmModelRouteCatalog (fun _ => false)
      (singleSectionState "knowledge-extraction:2" firstWorkflowPrepare) firstWorkflowPrepare := by
  intro hisolates
  have hstarted : ((handlePrepareDispatchBatch defaultGroqLlmModelRouteCatalog (fun _ => false)
      (singleSectionState "knowledge-extraction:2" firstWorkflowPrepare)
      firstWorkflowPrepare).toOption.map fun finished =>
        finished.1.started.map StartedAttempt.workItemId) = some ["section"] := by decide
  cases hhandled : handlePrepareDispatchBatch defaultGroqLlmModelRouteCatalog (fun _ => false)
      (singleSectionState "knowledge-extraction:2" firstWorkflowPrepare) firstWorkflowPrepare with
  | error fault =>
    rw [hhandled] at hstarted
    cases hstarted
  | ok finished =>
    obtain ⟨result, next⟩ := finished
    rw [hhandled] at hstarted
    have hids : result.started.map StartedAttempt.workItemId = ["section"] := by
      simpa [Except.toOption] using hstarted
    have hmem : "section" ∈ result.started.map StartedAttempt.workItemId := by
      rw [hids]
      exact List.mem_cons_self
    obtain ⟨attempt, hattempt, hid⟩ := List.mem_map.mp hmem
    have howned := hisolates.own result next hhandled attempt hattempt
    rw [hid] at howned
    revert howned
    decide

/-- Its own section it may dispatch. -/
theorem firstWorkflowPrepare_isolated :
    PreparesIsolated (singleSectionState "knowledge-extraction:1" firstWorkflowPrepare)
      "knowledge-extraction:1" 1 := by
  refine (preparesIsolated_iff _ (by decide) 1).mpr ?_
  unfold NoForeignDue
  decide

end CrmBot.ClaimBuilder
