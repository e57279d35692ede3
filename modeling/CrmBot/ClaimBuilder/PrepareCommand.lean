import CrmBot.ClaimBuilder.PrepareDispatchBatch

/-! What the prepare handler takes from its command, and how it refuses one.

All readers of payloads refuse with a `ValueError`, so a constraint of the
database can only be violated by the statements that come after them. -/

namespace CrmBot.ClaimBuilder

open Relational CrmBot.Python CrmBot.ExecutionRuntime CrmBot.LlmRuntime CrmBot.WorkflowRuntime
  FailingFold

universe u

/-- A reader returns a value or refuses what it reads. -/
def ReadsOrRefuses {Value : Type u} (read : Except Fault Value) : Prop :=
  Ends (fun _ => True) Fault.IsValueError read

namespace ReadsOrRefuses

theorem ok {Value : Type u} (value : Value) :
    ReadsOrRefuses (.ok value : Except Fault Value) := trivial

theorem refuse {Value : Type u} (message : String) :
    ReadsOrRefuses (.error (.valueError message) : Except Fault Value) := trivial

theorem bind {Value Result : Type u} {first : Except Fault Value}
    {next : Value → Except Fault Result} (hfirst : ReadsOrRefuses first)
    (hnext : ∀ value, ReadsOrRefuses (next value)) : ReadsOrRefuses (first >>= next) :=
  Ends.bind hfirst fun value _ _ => hnext value

theorem mapM {Value Result : Type u} {read : Value → Except Fault Result} {items : List Value}
    (hread : ∀ item, ReadsOrRefuses (read item)) : ReadsOrRefuses (items.mapM read) := by
  have hall : Ends (fun results => ∀ result ∈ results, True) Fault.IsValueError
      (items.mapM read) := Ends.mapM fun item _ => hread item
  exact hall.mono (fun _ _ => trivial) fun _ hfault => hfault

end ReadsOrRefuses

open ReadsOrRefuses

section Readers

variable (payload : Payload) (key : String)

theorem payloadText_reads (fallback : Option String) :
    ReadsOrRefuses (payloadText payload key fallback) := by
  unfold payloadText
  split
  · split
    · exact refuse _
    · exact ok _
  · exact refuse _
  · split
    · split
      · exact refuse _
      · exact ok _
    · exact refuse _

theorem payloadPositiveInt_reads : ReadsOrRefuses (payloadPositiveInt payload key) := by
  unfold payloadPositiveInt
  split
  · split
    · exact refuse _
    · exact ok _
  · exact refuse _

theorem payloadNonNegativeInt_reads : ReadsOrRefuses (payloadNonNegativeInt payload key) := by
  unfold payloadNonNegativeInt
  split
  · split
    · exact refuse _
    · exact ok _
  · exact refuse _

theorem payloadMapping_reads : ReadsOrRefuses (payloadMapping payload key) := by
  unfold payloadMapping
  split
  · exact ok _
  · exact refuse _

theorem optionalPayloadMapping_reads : ReadsOrRefuses (optionalPayloadMapping payload key) := by
  unfold optionalPayloadMapping
  split
  · exact ok _
  · exact ok _
  · exact refuse _

theorem payloadMappingSequence_reads : ReadsOrRefuses (payloadMappingSequence payload key) := by
  unfold payloadMappingSequence
  split
  · apply mapM
    intro item
    split
    · exact ok _
    · exact refuse _
  · exact refuse _

theorem providerAccountRefsFromPayload_reads :
    ReadsOrRefuses (providerAccountRefsFromPayload payload) := by
  unfold providerAccountRefsFromPayload
  split
  · exact ok _
  · apply mapM
    intro item
    split
    · split
      · exact refuse _
      · exact ok _
    · exact refuse _
  · exact refuse _

theorem firstPayloadText_reads (keys : List String) :
    ReadsOrRefuses (firstPayloadText payload keys) := by
  induction keys with
  | nil => exact ok _
  | cons key rest ih =>
    unfold firstPayloadText
    split
    · exact ih
    · split
      · exact refuse _
      · exact ok _
    · exact refuse _

theorem retryPlanFromPayload_reads : ReadsOrRefuses (retryPlanFromPayload payload) := by
  refine (firstPayloadText_reads payload _).bind fun found => ?_
  split
  · exact ok _
  · split
    · exact refuse _
    · exact ok _

theorem legacyStrategyFromPayload_reads : ReadsOrRefuses (legacyStrategyFromPayload payload) := by
  refine (retryPlanFromPayload_reads payload).bind fun plan => ?_
  split
  · exact ok _
  · exact (firstPayloadText_reads payload _).bind fun _ => ok _

theorem baseActiveModelRef_reads : ReadsOrRefuses (baseActiveModelRef payload) := by
  refine (optionalPayloadMapping_reads payload _).bind fun preparation => ?_
  split
  · exact payloadText_reads _ _ _
  · exact payloadText_reads _ _ _

end Readers

section Strategies

variable (catalog : RouteCatalog) (currentModelRef : String)

theorem firstFallback_reads (candidates : List String) (message : String) :
    ReadsOrRefuses (firstFallback candidates message) := by
  unfold firstFallback
  split
  · exact refuse _
  · exact ok _

theorem largerFallback_reads (limit : ModelRoute → Nat) (message : String) :
    ReadsOrRefuses (do
      firstFallback (← catalog.automaticFallbackModelRefsWithLarger limit currentModelRef)
        message) := by
  have hlarger : ReadsOrRefuses
      (catalog.automaticFallbackModelRefsWithLarger limit currentModelRef) := by
    unfold RouteCatalog.automaticFallbackModelRefsWithLarger
    split
    · exact refuse _
    · exact ok _
  exact hlarger.bind fun candidates => firstFallback_reads candidates message

theorem validationCheckModelRef_reads : ReadsOrRefuses (validationCheckModelRef catalog) := by
  unfold validationCheckModelRef
  split
  · exact refuse _
  · exact ok _

theorem resolveRetryPlan_reads (plan : WorkItemRetryPlan) :
    ReadsOrRefuses (resolveRetryPlan catalog currentModelRef plan) := by
  cases plan with
  | retrySameRoute | retryAlternateRoute | waitNearestAdmissionWindow => exact ok _
  | retryValidationCheckRoute => exact validationCheckModelRef_reads catalog
  | retryDailyFallbackRoute => exact firstFallback_reads _ _
  | retryLargerOutputLimitRoute => exact largerFallback_reads catalog currentModelRef _ _
  | retryLargerInputLimitRoute => exact largerFallback_reads catalog currentModelRef _ _
  | splitWorkPayload | waitDailyAdmissionReset | terminal => exact refuse _

theorem resolveLegacyStrategy_reads (strategy : Option String) :
    ReadsOrRefuses (resolveLegacyStrategy catalog currentModelRef strategy) := by
  cases strategy with
  | none => exact ok _
  | some name =>
    unfold resolveLegacyStrategy
    dsimp only
    split
    · exact ok _
    · split
      · exact refuse _
      · split
        · exact refuse _
        · split
          · exact firstFallback_reads _ _
          · split
            · exact firstFallback_reads _ _
            · split
              · exact largerFallback_reads catalog currentModelRef _ _
              · split
                · exact largerFallback_reads catalog currentModelRef _ _
                · exact refuse _

theorem resolveLlmDispatchPreparationStrategy_reads (plan : Option WorkItemRetryPlan)
    (strategy : Option String) :
    ReadsOrRefuses
      (resolveLlmDispatchPreparationStrategy catalog currentModelRef plan strategy) := by
  cases plan with
  | none => exact resolveLegacyStrategy_reads catalog currentModelRef strategy
  | some plan => exact resolveRetryPlan_reads catalog currentModelRef plan

theorem executionSettingsForModelRef_reads :
    ReadsOrRefuses (catalog.executionSettingsForModelRef currentModelRef) := by
  unfold RouteCatalog.executionSettingsForModelRef
  split
  · exact refuse _
  · exact ok _

end Strategies

theorem activeModelRefFromPayload_reads (payload : Payload) :
    ReadsOrRefuses (activeModelRefFromPayload payload) := by
  refine (baseActiveModelRef_reads payload).bind fun base => ?_
  refine (retryPlanFromPayload_reads payload).bind fun plan => ?_
  refine (legacyStrategyFromPayload_reads payload).bind fun strategy => ?_
  split
  · exact ok _
  · exact resolveLlmDispatchPreparationStrategy_reads _ _ _ _

theorem profileFromDispatchPreparation_reads (payload : Payload) :
    ReadsOrRefuses (profileFromDispatchPreparation payload) := by
  refine (optionalPayloadMapping_reads payload _).bind fun found => ?_
  split
  · exact refuse _
  · next preparation =>
    refine (payloadMapping_reads preparation _).bind fun profile => ?_
    refine (payloadText_reads profile _ _).bind fun profileId => ?_
    refine (payloadPositiveInt_reads profile _).bind fun inputTokens => ?_
    refine (payloadNonNegativeInt_reads profile _).bind fun artifactTokens => ?_
    refine (payloadPositiveInt_reads profile _).bind fun requestCount => ?_
    split
    · split
      · exact ok _
      · exact refuse _
    · exact refuse _

theorem accountCapacityFromPayload_reads (entry : Payload) :
    ReadsOrRefuses (accountCapacityFromPayload entry) := by
  refine (payloadText_reads entry _ _).bind fun provider => ?_
  refine (payloadText_reads entry _ _).bind fun accountRef => ?_
  refine (payloadText_reads entry _ _).bind fun modelRef => ?_
  refine (payloadNonNegativeInt_reads entry _).bind fun minuteRequests => ?_
  refine (payloadNonNegativeInt_reads entry _).bind fun minuteTokens => ?_
  refine (payloadNonNegativeInt_reads entry _).bind fun dailyRequests => ?_
  exact (payloadNonNegativeInt_reads entry _).bind fun dailyTokens => ok _

theorem accountCapacitiesFromDispatchPreparation_reads (payload : Payload) :
    ReadsOrRefuses (accountCapacitiesFromDispatchPreparation payload) := by
  refine (optionalPayloadMapping_reads payload _).bind fun found => ?_
  split
  · exact ok _
  · next preparation =>
    have hentries : ReadsOrRefuses (do
        let raw ← payloadMappingSequence preparation "account_capacities"
        raw.mapM accountCapacityFromPayload) :=
      (payloadMappingSequence_reads preparation _).bind fun _ =>
        mapM accountCapacityFromPayload_reads
    dsimp only
    split
    · exact hentries
    · refine (providerAccountRefsFromPayload_reads payload).bind fun refs => ?_
      split
      · exact ok _
      · exact hentries

theorem capacitiesForDirectPrepare_reads (payload : Payload) (activeModelRef : String) :
    ReadsOrRefuses (capacitiesForDirectPrepare payload activeModelRef) := by
  refine (accountCapacitiesFromDispatchPreparation_reads payload).bind fun listed => ?_
  split
  · exact refuse _
  · refine (providerAccountRefsFromPayload_reads payload).bind fun refs => ?_
    split
    · exact ok _
    · exact ok _

theorem validatePrepareCommand_reads (command : WorkflowCommand) :
    ReadsOrRefuses (validatePrepareCommand command) := by
  unfold validatePrepareCommand
  split
  · exact refuse _
  · split
    · exact refuse _
    · refine (payloadText_reads _ _ _).bind fun runId => ?_
      split
      · exact refuse _
      · exact ok _

/-- What an accepted command gives the batch: the context is the one of the
command, and each listed capacity has its window. -/
structure AcceptedPrepare (catalog : RouteCatalog) (locked : String → Bool)
    (state : DispatchState) (command : WorkflowCommand) (context : BatchContext)
    (windows : List DirectCapacityWindow) : Prop where
  isPrepare : command.commandType = prepareClaimBuilderDispatchBatch
  isPending : command.status = .pending
  count : payloadPositiveInt command.payload "scheduled_work_item_count" =
    .ok context.scheduledWorkItemCount
  profile : profileFromDispatchPreparation command.payload = .ok context.profile
  context_eq : context =
    batchContext command context.scheduledWorkItemCount context.profile catalog locked
  windows_eq : ∃ activeModelRef capacities,
    activeModelRefFromPayload command.payload = .ok activeModelRef ∧
      capacitiesForDirectPrepare command.payload activeModelRef = .ok capacities ∧
      windows = capacities.map (directCapacityWindow state command.runAfter)

theorem validatePrepareCommand_ok {command : WorkflowCommand}
    (h : validatePrepareCommand command = .ok ()) :
    command.commandType = prepareClaimBuilderDispatchBatch ∧ command.status = .pending := by
  unfold validatePrepareCommand at h
  split at h
  · cases h
  · next htype =>
    split at h
    · cases h
    · next hstatus => exact ⟨not_not.mp htype, not_not.mp hstatus⟩

/-- The handler accepts a command or refuses it with a `ValueError`. -/
theorem readPrepareCommand_ends (catalog : RouteCatalog) (locked : String → Bool)
    (state : DispatchState) (command : WorkflowCommand) :
    Ends (fun read => AcceptedPrepare catalog locked state command read.1 read.2)
      Fault.IsValueError (readPrepareCommand catalog locked state command) := by
  refine Ends.bind (validatePrepareCommand_reads command) fun _ hvalid _ => ?_
  refine Ends.bind (payloadPositiveInt_reads _ _) fun count hcount _ => ?_
  refine Ends.bind (profileFromDispatchPreparation_reads _) fun profile hprofile _ => ?_
  refine Ends.bind (activeModelRefFromPayload_reads _) fun activeModelRef hmodel _ => ?_
  have hwindows : Ends (fun windows => ∃ capacities,
      capacitiesForDirectPrepare command.payload activeModelRef = .ok capacities ∧
        windows = capacities.map (directCapacityWindow state command.runAfter))
      Fault.IsValueError
      (directCapacityWindows state command.payload activeModelRef command.runAfter) :=
    Ends.bind (capacitiesForDirectPrepare_reads _ _) fun capacities hcapacities _ =>
      ⟨capacities, hcapacities, rfl⟩
  refine Ends.bind hwindows fun windows _ hwindow => ?_
  obtain ⟨capacities, hcapacities, heq⟩ := hwindow
  obtain ⟨htype, hstatus⟩ := validatePrepareCommand_ok hvalid
  exact ⟨htype, hstatus, hcount, hprofile, rfl, activeModelRef, capacities, hmodel, hcapacities,
    heq⟩

theorem AcceptedPrepare.workflowRunId_eq {catalog : RouteCatalog} {locked : String → Bool}
    {state : DispatchState} {command : WorkflowCommand} {context : BatchContext}
    {windows : List DirectCapacityWindow}
    (h : AcceptedPrepare catalog locked state command context windows) :
    context.workflowRunId = command.workflowRunId := by
  rw [h.context_eq]
  rfl

/-- A command with a profile has a dispatch preparation. -/
theorem AcceptedPrepare.preparation {catalog : RouteCatalog} {locked : String → Bool}
    {state : DispatchState} {command : WorkflowCommand} {context : BatchContext}
    {windows : List DirectCapacityWindow}
    (h : AcceptedPrepare catalog locked state command context windows) :
    ∃ preparation, payloadGet command.payload "llm_dispatch_preparation" =
      some (.dict preparation) := by
  have hprofile := h.profile
  unfold profileFromDispatchPreparation at hprofile
  obtain ⟨found, hfound, hrest⟩ := bind_eq_ok.mp hprofile
  unfold optionalPayloadMapping at hfound
  split at hfound
  · cases hfound
    cases hrest
  · next preparation hget => exact ⟨preparation, hget⟩
  · cases hfound

/-- The execution tables a batch leaves. -/
def BatchOutcome.execution (initial : ExecutionStore) : BatchOutcome → ExecutionStore
  | .closed _ => initial
  | .walked _ progress => progress.execution

/-- The reservations a batch leaves. -/
def BatchOutcome.reservations (initial : Table RouteReservation.attemptId) :
    BatchOutcome → Table RouteReservation.attemptId
  | .closed _ => initial
  | .walked _ progress => progress.reservations

section Finish

variable {state next : DispatchState} {command : WorkflowCommand} {context : BatchContext}
  {result : PrepareResult}

/-- The end of a prepare whose windows are all closed: the command is rescheduled. -/
theorem finishPrepare_closed {wakeupAt : Int}
    (h : finishPrepare state command context (.closed wakeupAt) = .ok (result, next)) :
    ∃ stored log final,
      appendPendingCommand state.commandLog
        (rescheduledPrepareCommand command wakeupAt context.occurredAt
          "capacity_window_unavailable") = .ok (stored, log) ∧
      markCommandCompleted log command.commandId context.occurredAt = .ok final ∧
      result = { started := [], appendedNextCommandCount := 1 } ∧
      next = { state with commandLog := final } := by
  obtain ⟨⟨stored, log⟩, happend, hrest⟩ := bind_eq_ok.mp h
  obtain ⟨final, hmark, hpair⟩ := bind_eq_ok.mp hrest
  cases hpair
  exact ⟨stored, log, final, happend, hmark, rfl, rfl⟩

/-- The end of a prepare that walked over its due items: a wake-up if nothing was
started, an event and an execute command for each started attempt. -/
theorem finishPrepare_walked {due : List DueWorkItemRecord} {batch : BatchProgress}
    (h : finishPrepare state command context (.walked due batch) = .ok (result, next)) :
    ∃ count log events commands appended final,
      (if due ≠ [] ∧ batch.started = [] then
          appendPrepareWakeup command context.occurredAt batch.windows state.commandLog
        else .ok (0, state.commandLog)) = .ok (count, log) ∧
      dispatchAttemptPreparedPayloads context batch.started = .ok events ∧
      batch.started.mapM (executeClaimBuilderSectionCommand command context.workflowRunId
        context.occurredAt) = .ok commands ∧
      appendPendingCommands log commands = .ok appended ∧
      markCommandCompleted appended command.commandId context.occurredAt = .ok final ∧
      result =
        { started := batch.started, appendedNextCommandCount := count + commands.length } ∧
      next = { state with
        execution := batch.execution, reservations := batch.reservations
        commandLog := final } := by
  unfold finishPrepare at h
  dsimp only at h
  split at h
  · next hwakeup =>
    obtain ⟨⟨count, log⟩, hcount, hrest⟩ := bind_eq_ok.mp h
    obtain ⟨events, hevents, hrest⟩ := bind_eq_ok.mp hrest
    obtain ⟨commands, hcommands, hrest⟩ := bind_eq_ok.mp hrest
    obtain ⟨appended, happended, hrest⟩ := bind_eq_ok.mp hrest
    obtain ⟨final, hmark, hpair⟩ := bind_eq_ok.mp hrest
    cases hpair
    rw [if_pos hwakeup]
    exact ⟨count, log, events, commands, appended, final, hcount, hevents, hcommands, happended,
      hmark, rfl, rfl⟩
  · next hwakeup =>
    obtain ⟨⟨count, log⟩, hcount, hrest⟩ := bind_eq_ok.mp h
    obtain ⟨events, hevents, hrest⟩ := bind_eq_ok.mp hrest
    obtain ⟨commands, hcommands, hrest⟩ := bind_eq_ok.mp hrest
    obtain ⟨appended, happended, hrest⟩ := bind_eq_ok.mp hrest
    obtain ⟨final, hmark, hpair⟩ := bind_eq_ok.mp hrest
    cases hpair
    rw [if_neg hwakeup]
    exact ⟨count, log, events, commands, appended, final, hcount, hevents, hcommands, happended,
      hmark, rfl, rfl⟩

/-- The end of a prepare reports the started attempts and keeps the tables of the batch. -/
theorem finishPrepare_ok {outcome : BatchOutcome}
    (h : finishPrepare state command context outcome = .ok (result, next)) :
    result.started = outcome.started ∧ next.execution = outcome.execution state.execution ∧
      next.reservations = outcome.reservations state.reservations := by
  cases outcome with
  | closed wakeupAt =>
    obtain ⟨_, _, _, _, _, rfl, rfl⟩ := finishPrepare_closed h
    exact ⟨rfl, rfl, rfl⟩
  | walked due batch =>
    obtain ⟨_, _, _, _, _, _, _, _, _, _, _, rfl, rfl⟩ := finishPrepare_walked h
    exact ⟨rfl, rfl, rfl⟩

end Finish

end CrmBot.ClaimBuilder
