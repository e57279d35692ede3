import CrmBot.ClaimBuilder.KeyedCommands

/-! Runs of the claim-builder phase, and the commands that are built in them
under one key. -/

namespace CrmBot.ClaimBuilder

open Relational CrmBot.Python CrmBot.ExecutionRuntime CrmBot.LlmRuntime CrmBot.WorkflowRuntime
  FailingFold

/-- A reconcile, a wake-up for the observation that a handler made with the named
command, a schedule command that has scheduled its items, or anything else that
happens to the log. -/
inductive PhaseEvent
  | reconciling (event : ReconcileEvent)
  | wakeup (commandId : String) (observation : CapacityObservation) (occurredAt : Int)
  | schedule (commandId : String) (providerAccountRefs : List String) (scheduledCount : Nat)

/-- The wake-up that the named command asks for. -/
def wakeupOf (log : CommandLog) (commandId : String) (observation : CapacityObservation)
    (occurredAt : Int) : Option (WorkflowCommand × WorkflowCommand) := do
  let source ← findCommand log commandId
  let wakeup ← capacityWindowPrepareWakeup source source.workflowRunId
    prepareClaimBuilderDispatchBatch observation occurredAt
  return (source, wakeup)

def performPhase (setting : ReconcileSetting) (log : CommandLog) : PhaseEvent → CommandLog
  | .reconciling event => performReconcile setting log event
  | .wakeup commandId observation occurredAt =>
    match wakeupOf log commandId observation occurredAt with
    | none => log
    | some (_, wakeup) => committed log ((appendCommandObject log wakeup.toObject).map Prod.snd)
  | .schedule commandId providerAccountRefs scheduledCount =>
    match findCommand log commandId with
    | none => log
    | some command => committed log (handleScheduleSectionWork setting.capacityQueueOwnsDispatch log
        command providerAccountRefs scheduledCount)

/-- What the next command of a reconcile takes beyond its key. -/
def reconcileContext (setting : ReconcileSetting) (command : WorkflowCommand)
    (workflowRunId : String) (decision : ProgressDecision) (summary : WorkItemProgressSummary)
    (retry : WorkItemRetryActionSummary) : CommandContext :=
  if setting.capacityQueueOwnsDispatch then
    .trigger (sourceDocumentRef command workflowRunId)
      (command.payload.get "llm_dispatch_preparation") command.commandId decision
      summary.totalCount (selectedRetryPlan retry)
  else
    .prepare (payloadGet command.payload "llm_dispatch_preparation") summary.totalCount
      (selectedRetryPlan retry)

/-- The command that a reconcile builds when it decides to prepare a batch, with
its context. -/
def reconcileBuilt (setting : ReconcileSetting) (log : CommandLog) (commandId : String)
    (summary : WorkItemProgressSummary) (retry : WorkItemRetryActionSummary) :
    Option (CommandContext × WorkflowCommand) :=
  match findCommand log commandId with
  | none => none
  | some command => match reconciledRun command with
    | .error _ => none
    | .ok workflowRunId =>
      let decision := decideProgress summary retry command.updatedAt
      if decision = .prepareNextBatchNow ∨ decision = .prepareNextBatchLater then
        match nextCommand setting command workflowRunId decision summary retry
            command.updatedAt with
        | .ok (some next) =>
          some (reconcileContext setting command workflowRunId decision summary retry, next)
        | _ => none
      else none

/-- The trigger that the schedule handler builds, with its context. -/
def scheduleBuilt (setting : ReconcileSetting) (log : CommandLog) (commandId : String)
    (providerAccountRefs : List String) (scheduledCount : Nat) :
    Option (CommandContext × WorkflowCommand) :=
  match findCommand log commandId with
  | none => none
  | some command => match scheduledDocument command with
    | .error _ => none
    | .ok (workflowRunId, ref) =>
      if setting.capacityQueueOwnsDispatch then
        match scheduleDrainTriggerCommand workflowRunId ref providerAccountRefs scheduledCount
          command.updatedAt with
        | .ok trigger => some (.scheduled ref providerAccountRefs scheduledCount, trigger)
        | .error _ => none
      else none

/-- The command built at an event by one of the three builders, with its context. -/
def builtAt (setting : ReconcileSetting) (log : CommandLog) :
    PhaseEvent → Option (CommandContext × WorkflowCommand)
  | .reconciling (.reconcile commandId summary retry) =>
    reconcileBuilt setting log commandId summary retry
  | .reconciling (.log _) => none
  | .wakeup commandId observation occurredAt =>
    (wakeupOf log commandId observation occurredAt).map fun found =>
      (wakeupContext found.1.payload observation, found.2)
  | .schedule commandId providerAccountRefs scheduledCount =>
    scheduleBuilt setting log commandId providerAccountRefs scheduledCount

/-- The commands built in a run, in order. -/
def builtIn (setting : ReconcileSetting) : CommandLog → List PhaseEvent →
    List (CommandContext × WorkflowCommand)
  | _, [] => []
  | log, event :: rest =>
    (builtAt setting log event).toList ++ builtIn setting (performPhase setting log event) rest

/-- Appending the second command after the first one raises nothing. -/
def AppendsTogether (first second : WorkflowCommand) : Prop :=
  ∀ log stored next, appendCommandObject log first.toObject = .ok (stored, next) →
    ∃ row, appendCommandObject next second.toObject = .ok (row, next)

/-- One key of one run stands for one command, among the given commands. -/
def KeysDetermine (commands : List (CommandContext × WorkflowCommand)) : Prop :=
  ∀ first ∈ commands, ∀ second ∈ commands, first.2.workflowRunId = second.2.workflowRunId →
    first.2.idempotencyKey = second.2.idempotencyKey →
      SameCommand first.2 second.2 ∧ AppendsTogether first.2 second.2

/-- Whatever enters the commands of one key is the same for all of them. -/
def ContextsAgree (commands : List (CommandContext × WorkflowCommand)) : Prop :=
  ∀ first ∈ commands, ∀ second ∈ commands, first.2.workflowRunId = second.2.workflowRunId →
    first.2.idempotencyKey = second.2.idempotencyKey → first.1 = second.1

/-! Appending the same command again. -/

variable {first second command : WorkflowCommand}

theorem assertIdempotentConflict_of_same {row : WorkflowCommand} (hsame : SameCommand first second)
    (hrun : first.workflowRunId = second.workflowRunId)
    (hfirst : assertIdempotentConflict first.toObject row = .ok ()) :
    assertIdempotentConflict second.toObject row = .ok () := by
  unfold assertIdempotentConflict at hfirst ⊢
  rw [assertSame_eq_ok_iff] at hfirst ⊢
  have htype : first.toObject.commandType = second.toObject.commandType := hsame.1
  have hrun : first.toObject.workflowRunId = second.toObject.workflowRunId := hrun
  have hpayload : first.toObject.payload = second.toObject.payload :=
    congrArg PyObject.ofJsonEntries hsame.2
  rw [← htype, ← hrun, ← hpayload]
  exact hfirst

/-- A plain command is the same as itself read back. -/
theorem assertIdempotentConflict_self (command : WorkflowCommand) :
    assertIdempotentConflict command.toObject command = .ok () := by
  unfold assertIdempotentConflict
  rw [assertSame_eq_ok_iff]
  refine ⟨rfl, rfl, ?_⟩
  have hequal := PyObject.equalEntries_decoded (PyObject.ofJsonEntries command.payload)
  rw [PyObject.decodedEntries_ofJsonEntries, PyObject.jsonEntries_ofJsonEntries] at hequal
  exact hequal

theorem appendsTogether_of_same (hsame : SameCommand first second)
    (hrun : first.workflowRunId = second.workflowRunId)
    (hkey : first.idempotencyKey = second.idempotencyKey) : AppendsTogether first second := by
  intro log stored next happend
  have hrow : stored ∈ next.rows ∧ stored.idempotencyKey = first.idempotencyKey ∧
      assertIdempotentConflict first.toObject stored = .ok () := by
    rcases appendCommandObject_cases happend with ⟨hmem, hstored, hassert, rfl⟩ |
      ⟨rfl, _, hrows⟩
    · exact ⟨hmem, hstored, hassert⟩
    · rw [hrows, WorkflowCommand.stored_toObject]
      exact ⟨List.mem_append_right _ List.mem_cons_self, rfl,
        assertIdempotentConflict_self first⟩
  obtain ⟨hmem, hstored, hassert⟩ := hrow
  refine ⟨stored, ?_⟩
  rw [appendCommandObject_of_mem hmem (hstored.trans hkey),
    assertIdempotentConflict_of_same hsame hrun hassert]
  rfl

/-! Every command of a run was built by one of the three builders. -/

variable {setting : ReconcileSetting} {log : CommandLog}

theorem eq_ok_of_map_some {built : Except Fault WorkflowCommand} {next : WorkflowCommand}
    (h : built.map some = .ok (some next)) : built = .ok next := by
  cases built with
  | error fault => cases h
  | ok prepared =>
    cases h
    rfl

theorem exists_build_of_nextCommand {workflowRunId : String} {decision : ProgressDecision}
    {summary : WorkItemProgressSummary} {retry : WorkItemRetryActionSummary} {occurredAt : Int}
    {next : WorkflowCommand}
    (hprepares : decision = .prepareNextBatchNow ∨ decision = .prepareNextBatchLater)
    (h : nextCommand setting command workflowRunId decision summary retry occurredAt =
      .ok (some next)) :
    ∃ build : KeyedBuild, build.built = .ok next ∧
      build.context = reconcileContext setting command workflowRunId decision summary retry := by
  unfold nextCommand at h
  dsimp only at h
  unfold reconcileContext
  split at h
  · next howns =>
    obtain ⟨runAfter, _, h⟩ := bind_eq_ok.mp h
    obtain ⟨trigger, htrigger, h⟩ := bind_eq_ok.mp h
    cases h
    rw [if_pos howns.1]
    exact ⟨.trigger command workflowRunId decision summary (selectedRetryPlan retry) runAfter
      occurredAt, htrigger, rfl⟩
  · next hnot =>
    have howns : ¬ setting.capacityQueueOwnsDispatch = true := fun howns => hnot ⟨howns, hprepares⟩
    rw [if_neg howns]
    obtain ⟨causation, _, h⟩ := bind_eq_ok.mp h
    rcases hprepares with rfl | rfl
    · exact ⟨.prepare command workflowRunId summary (selectedRetryPlan retry) _ occurredAt _,
        eq_ok_of_map_some h, rfl⟩
    · obtain ⟨dueAt, _, h⟩ := bind_eq_ok.mp h
      exact ⟨.prepare command workflowRunId summary (selectedRetryPlan retry) _ occurredAt _,
        eq_ok_of_map_some h, rfl⟩

/-- A command of the run, and the call that built it. -/
def IsBuilt (entry : CommandContext × WorkflowCommand) : Prop :=
  ∃ build : KeyedBuild, build.built = .ok entry.2 ∧ build.context = entry.1

theorem isBuilt_of_reconcileBuilt {commandId : String} {summary : WorkItemProgressSummary}
    {retry : WorkItemRetryActionSummary} {entry : CommandContext × WorkflowCommand}
    (h : reconcileBuilt setting log commandId summary retry = some entry) : IsBuilt entry := by
  unfold reconcileBuilt at h
  split at h
  · cases h
  · split at h
    · cases h
    · dsimp only at h
      split at h
      · next hprepares =>
        split at h
        · next hnext =>
          cases h
          exact exists_build_of_nextCommand hprepares hnext
        · cases h
      · cases h

theorem isBuilt_of_scheduleBuilt {commandId : String} {providerAccountRefs : List String}
    {scheduledCount : Nat} {entry : CommandContext × WorkflowCommand}
    (h : scheduleBuilt setting log commandId providerAccountRefs scheduledCount = some entry) :
    IsBuilt entry := by
  unfold scheduleBuilt at h
  split at h
  · cases h
  · next command _ =>
    split at h
    · cases h
    · next workflowRunId ref _ =>
      split at h
      · split at h
        · next trigger htrigger =>
          cases h
          exact ⟨.scheduled workflowRunId ref providerAccountRefs scheduledCount command.updatedAt,
            htrigger, rfl⟩
        · cases h
      · cases h

theorem isBuilt_of_builtAt {event : PhaseEvent} {entry : CommandContext × WorkflowCommand}
    (h : builtAt setting log event = some entry) : IsBuilt entry := by
  cases event with
  | reconciling event => cases event with
    | reconcile commandId summary retry => exact isBuilt_of_reconcileBuilt h
    | log _ => cases h
  | wakeup commandId observation occurredAt =>
    obtain ⟨⟨source, wakeup⟩, hfound, rfl⟩ := Option.map_eq_some_iff.mp h
    unfold wakeupOf at hfound
    obtain ⟨source, _, hfound⟩ := Option.bind_eq_some_iff.mp hfound
    obtain ⟨wakeup, hwakeup, hfound⟩ := Option.bind_eq_some_iff.mp hfound
    cases hfound
    obtain ⟨_, runAfter, _, _, _, rfl⟩ := capacityWindowPrepareWakeup_eq_some hwakeup
    exact ⟨.wakeup source source.workflowRunId observation runAfter occurredAt, rfl, rfl⟩
  | schedule commandId providerAccountRefs scheduledCount => exact isBuilt_of_scheduleBuilt h

theorem isBuilt_of_mem_builtIn {events : List PhaseEvent}
    {entry : CommandContext × WorkflowCommand} (h : entry ∈ builtIn setting log events) :
    IsBuilt entry := by
  induction events generalizing log with
  | nil => exact absurd h List.not_mem_nil
  | cons event rest ih =>
    rcases List.mem_append.mp h with hhere | hlater
    · exact isBuilt_of_builtAt (Option.mem_toList.mp hhere)
    · exact ih hlater

/-- In every run of the phase, one key stands for one command exactly when
whatever enters the commands of one key is the same for all of them. -/
theorem keysDetermine_iff_contextsAgree (setting : ReconcileSetting) (log : CommandLog)
    (events : List PhaseEvent) :
    KeysDetermine (builtIn setting log events) ↔ ContextsAgree (builtIn setting log events) := by
  constructor
  · intro h first hfirst second hsecond hrun hkey
    obtain ⟨firstBuild, hfirstBuilt, hfirstContext⟩ := isBuilt_of_mem_builtIn hfirst
    obtain ⟨secondBuild, hsecondBuilt, hsecondContext⟩ := isBuilt_of_mem_builtIn hsecond
    have hsame := (h first hfirst second hsecond hrun hkey).1
    rw [sameCommand_iff_context hfirstBuilt hsecondBuilt hrun hkey] at hsame
    rw [← hfirstContext, ← hsecondContext]
    exact hsame
  · intro h first hfirst second hsecond hrun hkey
    obtain ⟨firstBuild, hfirstBuilt, hfirstContext⟩ := isBuilt_of_mem_builtIn hfirst
    obtain ⟨secondBuild, hsecondBuilt, hsecondContext⟩ := isBuilt_of_mem_builtIn hsecond
    have hcontext := h first hfirst second hsecond hrun hkey
    rw [← hfirstContext, ← hsecondContext] at hcontext
    have hsame := (sameCommand_iff_context hfirstBuilt hsecondBuilt hrun hkey).mpr hcontext
    exact ⟨hsame, appendsTogether_of_same hsame hrun hkey⟩

/-! Two attempts of one batch that meet the same limit. -/

/-- The execute command of an attempt of the batch. -/
def attemptExecute (commandId workItemId : String) : WorkflowCommand :=
  { sampleReconcile commandId "prepare" 10 with
    commandType := executeClaimBuilderSection
    payload := [("dispatch_attempt_id", .str commandId), ("scheduled_work_item_count", .int 2),
      ("work_item_id", .str workItemId)] }

/-- What both attempts hear of their window. -/
def minuteLimitHit : CapacityObservation where
  observationId := "limit"
  route := { provider := "groq", accountRef := "main", modelRef := "qwen/qwen3-32b" }
  remainingMinuteRequests := some 0
  remainingMinuteTokens := some 0
  remainingDailyRequests := none
  remainingDailyTokens := none
  minuteResetAt := some 60000000
  dailyResetAt := none
  outcomeClass := "rate_limited"
  observedAt := 20

def twoLimitHits : List PhaseEvent :=
  [.reconciling (.log (.append (attemptExecute "execute-1" "item-1").toObject)),
    .reconciling (.log (.append (attemptExecute "execute-2" "item-2").toObject)),
    .wakeup "execute-1" minuteLimitHit 20, .wakeup "execute-2" minuteLimitHit 30]

/-- The wake-up of one of the attempts. -/
def limitWakeup (commandId workItemId : String) (occurredAt : Int) :
    CommandContext × WorkflowCommand :=
  (wakeupContext (attemptExecute commandId workItemId).payload minuteLimitHit,
    capacityWindowPrepareCommand (attemptExecute commandId workItemId) "run"
      prepareClaimBuilderDispatchBatch minuteLimitHit 60000000 occurredAt)

theorem twoLimitHits_built : builtIn sampleSetting .empty twoLimitHits =
    [limitWakeup "execute-1" "item-1" 20, limitWakeup "execute-2" "item-2" 30] := rfl

/-- Both wake-ups have one key, and the second cannot be appended. -/
theorem twoLimitHits_not_keysDetermine :
    (∃ log stored, appendCommandObject .empty (limitWakeup "execute-1" "item-1" 20).2.toObject =
        .ok (stored, log) ∧
      appendCommandObject log (limitWakeup "execute-2" "item-2" 30).2.toObject =
        .error (.valueError "idempotency_key conflict has different payload")) ∧
      ¬ KeysDetermine (builtIn sampleSetting .empty twoLimitHits) := by
  refine ⟨⟨_, _, rfl, rfl⟩, ?_⟩
  rw [twoLimitHits_built]
  intro h
  have hsame := (h (limitWakeup "execute-1" "item-1" 20) List.mem_cons_self
    (limitWakeup "execute-2" "item-2" 30) (List.mem_cons_of_mem _ List.mem_cons_self) rfl rfl).1.2
  have hitem := congrArg (fun payload => Payload.get payload "work_item_id") hsame
  exact absurd hitem (by decide)

end CrmBot.ClaimBuilder
