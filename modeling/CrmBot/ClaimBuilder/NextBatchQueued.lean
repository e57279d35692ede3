import CrmBot.ClaimBuilder.ReconcileProgress

/-! Reconciles of one command log, and the commands they leave pending.

Between two reconciles anything may happen to the log; a reconcile sees whatever
counts the work items have by then. -/

namespace CrmBot.ClaimBuilder

open Relational CrmBot.Python CrmBot.ExecutionRuntime CrmBot.WorkflowRuntime FailingFold Runs

inductive ReconcileEvent
  | reconcile (commandId : String) (summary : WorkItemProgressSummary)
      (retry : WorkItemRetryActionSummary)
  | log (event : LogEvent)

/-- `SELECT … WHERE command_id`. -/
def findCommand (log : CommandLog) (commandId : String) : Option WorkflowCommand :=
  log.rows.find? fun row => row.commandId = commandId

def performReconcile (setting : ReconcileSetting) (log : CommandLog) :
    ReconcileEvent → CommandLog
  | .reconcile commandId summary retry => match findCommand log commandId with
    | none => log
    | some command =>
      committed log
        ((handleReconcileClaimBuilderProgress setting log command summary retry).map Prod.snd)
  | .log event => performLog log event

/-- A pending command that will prepare the next batch of the run. -/
def PreparesBatch (setting : ReconcileSetting) (workflowRunId : String) (row : WorkflowCommand) :
    Prop :=
  row.status = .pending ∧ row.workflowRunId = workflowRunId ∧
    (row.commandType = prepareClaimBuilderDispatchBatch ∨
      (setting.capacityQueueOwnsDispatch = true ∧
        row.commandType = triggerClaimBuilderCapacityDrain))

/-- What holds of every reconcile of an accepted command that decides to prepare
a batch. -/
def AtPreparingReconcile
    (holds : CommandLog → WorkflowCommand → WorkItemProgressSummary → WorkItemRetryActionSummary →
      String → Prop) (log : CommandLog) : ReconcileEvent → Prop
  | .reconcile commandId summary retry =>
    ∀ command workflowRunId, findCommand log commandId = some command →
      reconciledRun command = .ok workflowRunId →
      (decideProgress summary retry command.updatedAt).prepares →
      holds log command summary retry workflowRunId
  | .log _ => True

/-- The reconcile does not raise, and the log has a command for the next batch. -/
def BatchQueued (setting : ReconcileSetting) (log : CommandLog) (command : WorkflowCommand)
    (summary : WorkItemProgressSummary) (retry : WorkItemRetryActionSummary)
    (workflowRunId : String) : Prop :=
  ∃ next, handleReconcileClaimBuilderProgress setting log command summary retry =
      .ok (decideProgress summary retry command.updatedAt, next) ∧
    ∃ row ∈ next.rows, PreparesBatch setting workflowRunId row

/-- The next command can be built, and fits the log. -/
def BatchFits (setting : ReconcileSetting) (log : CommandLog) (command : WorkflowCommand)
    (summary : WorkItemProgressSummary) (retry : WorkItemRetryActionSummary)
    (workflowRunId : String) : Prop :=
  ∃ next, nextCommand setting command workflowRunId
      (decideProgress summary retry command.updatedAt) summary retry command.updatedAt =
        .ok (some next) ∧
    FitsLog (PreparesBatch setting workflowRunId) log next.toObject

variable {setting : ReconcileSetting} {log next final : CommandLog} {command : WorkflowCommand}
  {summary : WorkItemProgressSummary} {retry : WorkItemRetryActionSummary}
  {workflowRunId : String}

theorem mem_of_findCommand {commandId : String} (h : findCommand log commandId = some command) :
    command ∈ log.rows :=
  List.mem_of_find?_eq_some h

/-- An accepted command is a pending reconcile. -/
theorem commandType_of_reconciledRun (h : reconciledRun command = .ok workflowRunId) :
    command.commandType = reconcileClaimBuilderProgress := by
  unfold reconciledRun at h
  split at h
  · cases h
  · next htype => exact not_not.mp htype

theorem not_preparesBatch_of_reconciledRun {run : String}
    (h : reconciledRun command = .ok workflowRunId) : ¬ PreparesBatch setting run command := by
  rintro ⟨_, _, htype⟩
  rw [commandType_of_reconciledRun h] at htype
  rcases htype with htype | ⟨_, htype⟩
  · exact absurd htype (by decide)
  · exact absurd htype (by decide)

/-! What the next command is. -/

theorem preparesBatch_pendingCommand {commandType idempotencyKey : String} {payload : Payload}
    {runAfter occurredAt : Int}
    (htype : commandType = prepareClaimBuilderDispatchBatch ∨
      (setting.capacityQueueOwnsDispatch = true ∧
        commandType = triggerClaimBuilderCapacityDrain)) :
    PreparesBatch setting workflowRunId
      (pendingCommand commandType workflowRunId idempotencyKey payload runAfter occurredAt) :=
  ⟨rfl, rfl, htype⟩

theorem preparesBatch_prepareDispatchBatchCommand {plan : Option String} {runAfter occurredAt : Int}
    {suffix : String} {prepared : WorkflowCommand}
    (h : prepareDispatchBatchCommand command workflowRunId summary plan runAfter occurredAt suffix =
      .ok prepared) : PreparesBatch setting workflowRunId prepared := by
  obtain ⟨_, _, hprepared⟩ := bind_eq_ok.mp h
  cases hprepared
  exact preparesBatch_pendingCommand (.inl rfl)

theorem preparesBatch_capacityDrainTriggerCommand {decision : ProgressDecision}
    {plan : Option String} {runAfter occurredAt : Int} {trigger : WorkflowCommand}
    (howns : setting.capacityQueueOwnsDispatch = true)
    (h : capacityDrainTriggerCommand command workflowRunId decision summary plan runAfter
      occurredAt = .ok trigger) : PreparesBatch setting workflowRunId trigger := by
  unfold capacityDrainTriggerCommand at h
  split at h
  · obtain ⟨_, _, hbuilt⟩ := bind_eq_ok.mp h
    obtain ⟨_, _, htrigger⟩ := bind_eq_ok.mp hbuilt
    cases htrigger
    exact preparesBatch_pendingCommand (.inr ⟨howns, rfl⟩)
  · cases h

/-- A preparation that succeeds, as the optional command of the handler. -/
theorem preparesBatch_of_map_some {built : Except Fault WorkflowCommand}
    {found : Option WorkflowCommand} (h : built.map some = .ok found)
    (hbuilt : ∀ prepared, built = .ok prepared → PreparesBatch setting workflowRunId prepared) :
    ∃ prepared, found = some prepared ∧ PreparesBatch setting workflowRunId prepared := by
  cases built with
  | error fault => cases h
  | ok prepared =>
    cases h
    exact ⟨prepared, rfl, hbuilt prepared rfl⟩

/-- A decision to prepare is followed by a command that prepares. -/
theorem preparesBatch_of_nextCommand {decision : ProgressDecision} {occurredAt : Int}
    {found : Option WorkflowCommand} (hprepares : decision.prepares)
    (h : nextCommand setting command workflowRunId decision summary retry occurredAt = .ok found) :
    ∃ prepared, found = some prepared ∧ PreparesBatch setting workflowRunId prepared := by
  unfold nextCommand at h
  dsimp only at h
  split at h
  · next howns =>
    obtain ⟨_, _, hbuilt⟩ := bind_eq_ok.mp h
    obtain ⟨trigger, htrigger, hfound⟩ := bind_eq_ok.mp hbuilt
    cases hfound
    exact ⟨trigger, rfl, preparesBatch_capacityDrainTriggerCommand howns.1 htrigger⟩
  · obtain ⟨_, _, hbuilt⟩ := bind_eq_ok.mp h
    rcases hprepares with rfl | rfl
    · exact preparesBatch_of_map_some hbuilt
        fun _ => preparesBatch_prepareDispatchBatchCommand
    · obtain ⟨_, _, hlater⟩ := bind_eq_ok.mp hbuilt
      exact preparesBatch_of_map_some hlater
        fun _ => preparesBatch_prepareDispatchBatchCommand

/-! The reconcile. -/

/-- Completing the reconcile command leaves the commands that prepare alone. -/
theorem preparesBatch_of_completed {completedAt : Int} (hmem : command ∈ next.rows)
    (hrun : reconciledRun command = .ok workflowRunId)
    (h : markCommandCompleted next command.commandId completedAt = .ok final) :
    (∃ row ∈ final.rows, PreparesBatch setting workflowRunId row) ↔
      ∃ row ∈ next.rows, PreparesBatch setting workflowRunId row := by
  have hrows := setCommandStatus_rows h
  constructor
  · rintro ⟨row, hrow, hprepares⟩
    rw [hrows] at hrow
    obtain ⟨before, hbefore, rfl⟩ := List.mem_map.mp hrow
    split at hprepares
    · exact absurd hprepares.1 (by simp)
    · exact ⟨before, hbefore, hprepares⟩
  · rintro ⟨row, hrow, hprepares⟩
    refine ⟨row, ?_, hprepares⟩
    have hne : row.commandId ≠ command.commandId := by
      intro heq
      rw [next.eq_of_unique_eq hrow hmem heq] at hprepares
      exact not_preparesBatch_of_reconciledRun hrun hprepares
    rw [hrows]
    apply List.mem_map.mpr
    exact ⟨row, hrow, if_neg hne⟩

theorem mem_of_appendCommandObject {object : CommandObject} {stored : WorkflowCommand}
    (hmem : command ∈ log.rows) (h : appendCommandObject log object = .ok (stored, next)) :
    command ∈ next.rows := by
  rcases appendCommandObject_cases h with ⟨_, _, _, rfl⟩ | ⟨_, _, hrows⟩
  · exact hmem
  · rw [hrows]
    exact List.mem_append_left _ hmem

/-- A reconcile that decides to prepare queues a batch exactly when its command
fits the log. -/
theorem batchQueued_iff_fits (hmem : command ∈ log.rows)
    (hrun : reconciledRun command = .ok workflowRunId)
    (hprepares : (decideProgress summary retry command.updatedAt).prepares) :
    BatchQueued setting log command summary retry workflowRunId ↔
      BatchFits setting log command summary retry workflowRunId := by
  constructor
  · rintro ⟨final, hhandle, hqueued⟩
    obtain ⟨run, hrun', hdecide⟩ := bind_eq_ok.mp hhandle
    obtain rfl : workflowRunId = run := Except.ok.inj (hrun.symm.trans hrun')
    obtain ⟨found, hnext, happended⟩ := bind_eq_ok.mp hdecide
    obtain ⟨prepared, rfl, hprepared⟩ := preparesBatch_of_nextCommand hprepares hnext
    obtain ⟨next, happend, hcompleted⟩ := bind_eq_ok.mp happended
    obtain ⟨last, hmark, hlast⟩ := bind_eq_ok.mp hcompleted
    cases hlast
    refine ⟨prepared, hnext, ?_⟩
    rw [fitsLog_iff (by rwa [WorkflowCommand.stored_toObject])]
    cases hobject : appendCommandObject log prepared.toObject with
    | error fault =>
      simp only [appendNext, hobject] at happend
      cases happend
    | ok result =>
      obtain ⟨stored, appended⟩ := result
      simp only [appendNext, hobject] at happend
      cases happend
      have hlogged := mem_of_appendCommandObject hmem hobject
      exact ⟨stored, appended, rfl, (preparesBatch_of_completed hlogged hrun hmark).mp hqueued⟩
  · rintro ⟨prepared, hnext, hfits⟩
    obtain ⟨_, hsome, hprepared⟩ := preparesBatch_of_nextCommand hprepares hnext
    cases hsome
    rw [fitsLog_iff (by rwa [WorkflowCommand.stored_toObject])] at hfits
    obtain ⟨stored, next, hobject, hqueued⟩ := hfits
    have hlogged := mem_of_appendCommandObject hmem hobject
    obtain ⟨final, hmark⟩ := setCommandStatus_of_mem hlogged .completed command.updatedAt
    refine ⟨final, ?_, (preparesBatch_of_completed hlogged hrun hmark).mpr hqueued⟩
    have happend : appendNext log (some prepared) = .ok next := by
      simp only [appendNext, hobject]
      rfl
    apply bind_eq_ok.mpr
    refine ⟨workflowRunId, hrun, ?_⟩
    apply bind_eq_ok.mpr
    refine ⟨some prepared, hnext, ?_⟩
    apply bind_eq_ok.mpr
    refine ⟨next, happend, ?_⟩
    apply bind_eq_ok.mpr
    exact ⟨final, hmark, rfl⟩

/-- In every run of reconciles and of anything else that happens to the log, the
batches that are decided on are queued exactly where their commands fit. -/
theorem nextBatchQueued_iff (setting : ReconcileSetting) (start : CommandLog)
    (events : List ReconcileEvent) :
    EveryStep (performReconcile setting) (AtPreparingReconcile (BatchQueued setting)) start
        events ↔
      EveryStep (performReconcile setting) (AtPreparingReconcile (BatchFits setting)) start
        events := by
  apply everyStep_congr
  intro before event
  cases event with
  | log _ => exact Iff.rfl
  | reconcile commandId summary retry =>
    constructor
    · intro h command workflowRunId hfind hrun hprepares
      apply (batchQueued_iff_fits (mem_of_findCommand hfind) hrun hprepares).mp
      exact h command workflowRunId hfind hrun hprepares
    · intro h command workflowRunId hfind hrun hprepares
      apply (batchQueued_iff_fits (mem_of_findCommand hfind) hrun hprepares).mpr
      exact h command workflowRunId hfind hrun hprepares

/-! Two attempts of one run that end in the same retry plan. -/

def sampleSetting : ReconcileSetting where
  sha256Hexdigest := id
  capacityQueueOwnsDispatch := false

/-- The reconcile command of the prepare command with the given id. -/
def sampleReconcile (commandId originCommandId : String) (occurredAt : Int) : WorkflowCommand where
  commandId := commandId
  commandType := reconcileClaimBuilderProgress
  workflowRunId := "run"
  idempotencyKey := commandId
  payload := Payload.ofEntries [("claim_builder_prepare_command_id", .str originCommandId)]
  status := .pending
  runAfter := occurredAt
  createdAt := occurredAt
  updatedAt := occurredAt
  causationEventId := none
  correlationId := none
  attemptCount := 0

/-- Two completed items, and one to retry. -/
def sampleSummary : WorkItemProgressSummary where
  readyCount := 0
  leasedCount := 0
  deferredCount := 0
  retryableFailedCount := 1
  completedCount := 2
  terminalFailedCount := 0
  cancelledCount := 0
  splitSupersededCount := 0
  userActionRequiredCount := 0
  totalCount := 3
  nextDueAt := none
  dueDeferredCount := 0
  dueRetryableFailedCount := 1
  total_eq := rfl
  dueDeferred_le := Nat.le_refl 0
  dueRetryable_le := Nat.le_refl 1

def sampleRetry : WorkItemRetryActionSummary where
  retrySameRouteCount := 1
  retryEmptyClaimsCheckModelCount := 0
  retryFallbackModelCount := 0
  retryLargerOutputLimitRouteCount := 0
  retryLargerInputModelCount := 0
  splitRequiredCount := 0
  nextRunAfter := none
  recordPlans := []

def samplePrepareId : String :=
  "workflow-command:prepare-claim-builder-dispatch-batch:run:now:retry_same_route:scheduled:3"

/-- The item fails again after the batch that the first reconcile asked for. -/
def secondRetryRun : List ReconcileEvent :=
  [.log (.append (sampleReconcile "first" "prepare-1" 10).toObject),
    .reconcile "first" sampleSummary sampleRetry,
    .log (.complete samplePrepareId 20),
    .log (.append (sampleReconcile "second" samplePrepareId 30).toObject),
    .reconcile "second" sampleSummary sampleRetry]

/-- The log that the second reconcile finds. -/
def secondRetryLog : CommandLog :=
  (secondRetryRun.take 4).foldl (performReconcile sampleSetting) .empty

theorem exists_secondReconcile :
    ∃ final, handleReconcileClaimBuilderProgress sampleSetting secondRetryLog
        (sampleReconcile "second" samplePrepareId 30) sampleSummary sampleRetry =
          .ok (.prepareNextBatchNow, final) ∧
      ∀ row ∈ final.rows, row.status = .completed :=
  ⟨_, rfl, by decide⟩

/-- The second reconcile finds the completed command of the first one. -/
theorem secondRetryRun_not_queued :
    ¬ EveryStep (performReconcile sampleSetting)
      (AtPreparingReconcile (BatchQueued sampleSetting)) .empty secondRetryRun := by
  rintro ⟨_, _, _, _, hlast, _⟩
  obtain ⟨final, hhandle, row, hrow, hpending, _⟩ :=
    hlast (sampleReconcile "second" samplePrepareId 30) "run" rfl rfl (.inl rfl)
  obtain ⟨last, hsecond, hcompleted⟩ := exists_secondReconcile
  have hsame : last = final := congrArg Prod.snd (Except.ok.inj (hsecond.symm.trans hhandle))
  rw [← hsame] at hrow
  rw [hcompleted row hrow] at hpending
  cases hpending

end CrmBot.ClaimBuilder
