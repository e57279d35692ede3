import CrmBot.CapacityAdmissionQueue.CapacityWindowDrain
import CrmBot.ClaimBuilder.DispatchPayload
import CrmBot.Library.Fold
import CrmBot.WorkflowRuntime.AppendAgain

/-! `ClaimBuilderCapacityDrainBridge`: what the drain of claim-builder work does
with an item it admits.

The bridge appends an execute command and an event of the prepared attempt. It
never pauses a drain, and its result says that no provider call was started. -/

namespace CrmBot.ClaimBuilder

open Relational CrmBot.Python CrmBot.CapacityAdmissionQueue CrmBot.WorkflowRuntime Runs

/-! One admission of the drain. -/

/-- The item that an iteration leases, with its reservation and the tables after
the lease. -/
def admitNext (queue : QueueState) (command : DrainCommand) (itemLocked : WorkItemRow → Bool) :
    Option (WorkItemRow × CapacityReservation × QueueState) :=
  let (snapshot, windows) := applyCapacityObservation queue.windows command.observation
  if snapshot.frozenUntil.any (fun frozen => decide (command.now < frozen)) then none
  else
    match selectCapacityAdmissionWorkItem queue.workItems itemLocked command.selectionLane
        (budgetFromSnapshot snapshot) with
    | none => none
    | some item =>
      match tryReserve windows command.window 1 item.requiredWindowTokens command.now with
      | .ok (some reservation, reserved) =>
        some (item, reservation, syncProjectionLifecycle { queue with windows := reserved }
          (leasedUpdate item.workItemId command.now))
      | .ok (none, _) | .error _ => none

/-- Every item that an iteration of the drain executes was admitted so. -/
theorem admitNext_of_drainIteration {environment : DrainEnvironment} {command : DrainCommand}
    {iteration : Nat} {progress next : DrainProgress}
    (h : drainIteration environment command iteration progress = .running next) :
    ∃ item reservation leased state result,
      admitNext progress.state command (environment.itemLocked iteration) =
        some (item, reservation, leased) ∧
      environment.executeAdmittedWorkItem iteration leased item.workItemId reservation =
        (state, .ok result) ∧
      next.executed = progress.executed ++ [(item, result)] ∧
      next.state = { state with
        windows := settleReservation command state.windows reservation result } := by
  unfold drainIteration at h
  split at h
  · split at h
    · cases h
    · cases h
    · dsimp only at h
      split at h
      · cases h
      · next hopen =>
        split at h
        · cases h
        · next item hselected =>
          unfold executeSelected at h
          dsimp only at h
          split at h
          · cases h
          · cases h
          · next reservation reserved hreserved =>
            split at h
            · cases h
            · next state result hexecuted =>
              cases h
              refine ⟨item, reservation, _, state, result, ?_, hexecuted, rfl, rfl⟩
              unfold admitNext
              dsimp only
              rw [if_neg hopen, hselected]
              dsimp only
              rw [hreserved]
  · cases h

/-! The bridge. -/

/-- The part of `CapacityAdmissionDispatchContextSummary` that the bridge reads. -/
structure DispatchContext where
  sourceRef : Option String
  sourceUnitRef : Option String

structure DrainBridge where
  workflowRunId : String
  resolveDispatchContext : String → Option DispatchContext
  sourceDocumentRef : Option String
  activeModelRef : Option String
  scheduledWorkItemCount : Option Nat

/-- `value or other` on texts. -/
def textOr (value : Option String) (other : String) : String :=
  match value with
  | some text => if text = "" then other else text
  | none => other

/-- An entry that is written only if there is a value. -/
def optionalText (key : String) (value : Option String) : ObjectPayload :=
  (value.map fun text => (key, PyObject.str text)).toList

/-- `_dispatch_attempt_id`. -/
def bridgeAttemptId (uuid5 : String → String) (workflowRunId workItemId accountRef : String) :
    String :=
  "claim-builder-capacity-drain:" ++
    uuid5 (workflowRunId ++ ":" ++ workItemId ++ ":" ++ textOr (some accountRef) "-")

/-- `_execute_claim_builder_section_command`. -/
def DrainBridge.executeCommand (bridge : DrainBridge) (workItemId attemptId modelRef : String)
    (occurredAt : Int) : CommandObject :=
  let context := bridge.resolveDispatchContext workItemId
  let activeModelRef := textOr bridge.activeModelRef modelRef
  let prepareRef := "capacity-drain-bridge:" ++ bridge.workflowRunId ++ ":" ++ attemptId
  let key := "execute-claim-builder-section:" ++ bridge.workflowRunId ++ ":" ++ attemptId
  { commandId := "workflow-command:" ++ key
    commandType := executeClaimBuilderSection
    workflowRunId := bridge.workflowRunId
    idempotencyKey := key
    payload :=
      [("active_model_ref", .str activeModelRef),
        ("claim_builder_prepare_command_id", .str prepareRef),
        ("claim_builder_prepare_idempotency_key", .str prepareRef),
        ("dispatch_attempt_id", .str attemptId),
        ("llm_dispatch_preparation", .dict
          [("active_model_ref", .str activeModelRef),
            ("bridge", .str "claim_builder_capacity_drain")])] ++
        (bridge.scheduledWorkItemCount.map fun count =>
          ("scheduled_work_item_count", PyObject.int count)).toList ++
        optionalText "source_document_ref" bridge.sourceDocumentRef ++
        optionalText "source_ref" (context.bind DispatchContext.sourceRef) ++
        optionalText "source_unit_ref" (context.bind DispatchContext.sourceUnitRef) ++
        [("work_item_id", .str workItemId), ("work_kind", .str claimBuilderSectionWorkKind),
          ("workflow_run_id", .str bridge.workflowRunId)]
    status := .pending
    runAfter := occurredAt
    createdAt := occurredAt
    updatedAt := occurredAt
    causationEventId := none
    correlationId := none
    attemptCount := 0 }

def claimBuilderDispatchAttemptPrepared : String := "ClaimBuilderDispatchAttemptPrepared"

def optionalTextOrNone (value : Option String) : PyObject :=
  (value.map PyObject.str).getD .none

/-- `_prepared_attempt_event`. -/
def DrainBridge.preparedAttemptEvent (bridge : DrainBridge) (workItemId attemptId : String)
    (command : DrainCommand) (reservation : CapacityReservation) : EventObject :=
  let context := bridge.resolveDispatchContext workItemId
  { eventId := "workflow-event:" ++ bridge.workflowRunId ++ ":" ++
      claimBuilderDispatchAttemptPrepared ++ ":" ++ attemptId
    eventType := claimBuilderDispatchAttemptPrepared
    workflowRunId := bridge.workflowRunId
    payload :=
      [("account_ref", .str command.executionAccountRef), ("dispatch_attempt_id", .str attemptId),
        ("model_ref", .str command.window.modelRef), ("provider", .str command.window.provider),
        ("reserved_requests", .int reservation.requestCount),
        ("reserved_tokens", .int reservation.tokenCount),
        ("selection_account_ref", optionalTextOrNone command.selectionLane.accountRef)] ++
        optionalText "source_ref" (context.bind DispatchContext.sourceRef) ++
        optionalText "source_unit_ref" (context.bind DispatchContext.sourceUnitRef) ++
        [("work_item_id", .str workItemId), ("work_kind", .str claimBuilderSectionWorkKind),
          ("workflow_run_id", .str bridge.workflowRunId)]
    occurredAt := command.now
    causationCommandId := none
    correlationId := some attemptId }

/-- What an admission is about. -/
structure Admission where
  bridge : DrainBridge
  command : DrainCommand
  workItemId : String
  reservation : CapacityReservation

variable (uuid5 : String → String)

def Admission.attemptId (admission : Admission) : String :=
  bridgeAttemptId uuid5 admission.bridge.workflowRunId admission.workItemId
    admission.command.executionAccountRef

def Admission.executeCommand (admission : Admission) : CommandObject :=
  admission.bridge.executeCommand admission.workItemId (admission.attemptId uuid5)
    admission.command.window.modelRef admission.command.now

def Admission.preparedEvent (admission : Admission) : EventObject :=
  admission.bridge.preparedAttemptEvent admission.workItemId (admission.attemptId uuid5)
    admission.command admission.reservation

/-- `execute_admitted_work_item`, without the attempt id that it returns. The
tables hold no item with an empty id. -/
def executeAdmittedWorkItem (log : CommandLog) (outbox : Outbox) (admission : Admission) :
    Except Fault (CommandLog × Outbox) := do
  let (_, log) ← appendCommandObject log (admission.executeCommand uuid5)
  let (_, outbox) ← appendEvent outbox (admission.preparedEvent uuid5)
  return (log, outbox)

/-! Runs of drains. -/

structure DrainWorld where
  queue : QueueState
  log : CommandLog
  outbox : Outbox

/-- An iteration of a drain, or what other components do to the stores. -/
inductive DrainEvent
  | drainOnce (bridge : DrainBridge) (command : DrainCommand) (itemLocked : WorkItemRow → Bool)
  | lifecycle (update : LifecycleUpdate)
  | queue (next : QueueState)
  | log (event : LogEvent)
  | outbox (event : OutboxEvent)

/-- An admission whose strategy raises is rolled back with its transaction. -/
def performDrain (before : DrainWorld) : DrainEvent → DrainWorld
  | .drainOnce bridge command itemLocked =>
    match admitNext before.queue command itemLocked with
    | none => before
    | some (item, reservation, leased) =>
      match executeAdmittedWorkItem uuid5 before.log before.outbox
          ⟨bridge, command, item.workItemId, reservation⟩ with
      | .error _ => before
      | .ok (log, outbox) =>
        { queue :=
            { leased with windows := releaseReservation leased.windows reservation command.now }
          log := log
          outbox := outbox }
  | .lifecycle update => { before with queue := syncProjectionLifecycle before.queue update }
  | .queue next => { before with queue := next }
  | .log event => { before with log := performLog before.log event }
  | .outbox event => { before with outbox := performOutbox before.outbox event }

/-- A pending execute command that refers to the admission. -/
def Executes (admission : Admission) (row : WorkflowCommand) : Prop :=
  row.status = .pending ∧ row.commandType = executeClaimBuilderSection ∧
    row.workflowRunId = admission.bridge.workflowRunId ∧
    row.payload.get "work_item_id" = some (.str admission.workItemId) ∧
    row.payload.get "dispatch_attempt_id" = some (.str (admission.attemptId uuid5))

/-- What the event admits has a pending execute command afterwards. -/
def AdmissionExecuted (before : DrainWorld) : DrainEvent → Prop
  | .drainOnce bridge command itemLocked => ∀ item reservation leased,
      admitNext before.queue command itemLocked = some (item, reservation, leased) →
      ∃ log outbox, executeAdmittedWorkItem uuid5 before.log before.outbox
          ⟨bridge, command, item.workItemId, reservation⟩ = .ok (log, outbox) ∧
        ∃ row ∈ log.rows, Executes uuid5 ⟨bridge, command, item.workItemId, reservation⟩ row
  | _ => True

/-- Nothing is stored under the id of the event, or an equal event is. -/
def EventFits (outbox : Outbox) (admission : Admission) : Prop :=
  ∀ row ∈ outbox.events.rows, row.eventId = (admission.preparedEvent uuid5).eventId →
    assertIdempotentEventIsSame (admission.preparedEvent uuid5) row = .ok ()

def AdmissionFits (before : DrainWorld) : DrainEvent → Prop
  | .drainOnce bridge command itemLocked => ∀ item reservation leased,
      admitNext before.queue command itemLocked = some (item, reservation, leased) →
      let admission : Admission := ⟨bridge, command, item.workItemId, reservation⟩
      FitsLog (Executes uuid5 admission) before.log (admission.executeCommand uuid5) ∧
        EventFits uuid5 before.outbox admission
  | _ => True

/-! One admission. -/

variable {uuid5} {log : CommandLog} {outbox : Outbox} {admission : Admission}

/-- A text that a payload in memory holds is held by an equal stored one. -/
theorem get_of_equalEntries {entries : ObjectPayload} {payload : Payload} {key text : String}
    (h : PyObject.equalEntries entries payload = true)
    (hfind : (entries.find? fun entry => entry.1 = key).map Prod.snd = some (.str text)) :
    payload.get key = some (.str text) := by
  induction entries generalizing payload with
  | nil => cases hfind
  | cons entry rest ih =>
    obtain ⟨name, value⟩ := entry
    cases payload with
    | nil => simp [PyObject.equalEntries] at h
    | cons first storedRest =>
      obtain ⟨storedName, stored⟩ := first
      simp only [PyObject.equalEntries, Bool.and_eq_true, beq_iff_eq] at h
      obtain ⟨⟨hname, hvalue⟩, hrest⟩ := h
      subst hname
      unfold Payload.get
      by_cases hkey : name = key
      · rw [if_pos hkey]
        simp only [List.find?_cons, hkey, decide_true, Option.map_some, Option.some.injEq] at hfind
        subst hfind
        cases stored with
        | str storedText =>
          have htext : text = storedText := by simpa [PyObject.equals] using hvalue
          rw [htext]
        | none | bool _ | int _ | list _ | dict _ => simp [PyObject.equals] at hvalue
      · rw [if_neg hkey]
        apply ih hrest
        simpa [List.find?_cons, hkey] using hfind

@[simp] theorem jsonEntries_optionalText (key : String) (value : Option String) :
    PyObject.jsonEntries (optionalText key value) = true := by
  cases value <;> rfl

theorem executeCommand_isJson (admission : Admission) :
    PyObject.jsonEntries (admission.executeCommand uuid5).payload = true := by
  unfold Admission.executeCommand DrainBridge.executeCommand
  cases admission.bridge.scheduledWorkItemCount with
  | none | some _ =>
    simp [PyObject.jsonEntries_append, PyObject.jsonEntries, PyObject.isJson]

/-- The two ids of an admission stand in the payload of its command. -/
theorem executeCommand_names (admission : Admission) :
    (((admission.executeCommand uuid5).payload.find? fun entry =>
        entry.1 = "work_item_id").map Prod.snd = some (.str admission.workItemId)) ∧
      (((admission.executeCommand uuid5).payload.find? fun entry =>
        entry.1 = "dispatch_attempt_id").map Prod.snd =
          some (.str (admission.attemptId uuid5))) := by
  have hoptional : ∀ key value, key ≠ "work_item_id" →
      (optionalText key value).find? (fun entry => entry.1 = "work_item_id") = none := by
    intro key value hne
    cases value <;> simp [optionalText, hne]
  unfold Admission.executeCommand DrainBridge.executeCommand
  constructor
  · cases admission.bridge.scheduledWorkItemCount with
    | none | some _ => simp [List.find?_append, hoptional]
  · rfl

/-- The command that the bridge appends refers to the admission. -/
theorem executes_stored (admission : Admission) :
    Executes uuid5 admission (admission.executeCommand uuid5).stored := by
  obtain ⟨hitem, hattempt⟩ := executeCommand_names admission
  have hequal : PyObject.equalEntries (admission.executeCommand uuid5).payload
      (admission.executeCommand uuid5).stored.payload = true :=
    (PyObject.equalEntries_decoded _).trans (executeCommand_isJson admission)
  exact ⟨rfl, rfl, rfl, get_of_equalEntries hequal hitem, get_of_equalEntries hequal hattempt⟩

/-- The event of the bridge is accepted exactly when it fits the outbox. -/
theorem eventFits_iff (outbox : Outbox) (admission : Admission) :
    EventFits uuid5 outbox admission ↔
      ∃ stored next, appendEvent outbox (admission.preparedEvent uuid5) = .ok (stored, next) := by
  unfold EventFits
  cases hfind : outbox.events.find? (admission.preparedEvent uuid5).eventId with
  | none =>
    have hkey := Table.find?_eq_none_iff.mp hfind
    constructor
    · intro _
      unfold appendEvent
      rw [hfind]
      exact ⟨_, _, rfl⟩
    · intro _ row hmem heq
      exact absurd (Table.mem_keys.mpr ⟨row, hmem, heq⟩) hkey
  | some row =>
    obtain ⟨hmem, hkey⟩ := Table.find?_eq_some_iff.mp hfind
    rw [appendEvent_of_mem hmem hkey]
    constructor
    · intro hfits
      rw [hfits row hmem hkey]
      exact ⟨_, _, rfl⟩
    · rintro ⟨stored, next, happend⟩ other hother heq
      rw [outbox.events.eq_of_key_eq hother hmem (heq.trans hkey.symm)]
      cases hsame : assertIdempotentEventIsSame (admission.preparedEvent uuid5) row with
      | error fault =>
        rw [hsame] at happend
        cases happend
      | ok _ => rfl

/-- The bridge executes an admission exactly when command and event fit. -/
theorem executed_iff_fits (log : CommandLog) (outbox : Outbox) (admission : Admission) :
    (∃ nextLog nextOutbox, executeAdmittedWorkItem uuid5 log outbox admission =
        .ok (nextLog, nextOutbox) ∧ ∃ row ∈ nextLog.rows, Executes uuid5 admission row) ↔
      FitsLog (Executes uuid5 admission) log (admission.executeCommand uuid5) ∧
        EventFits uuid5 outbox admission := by
  rw [fitsLog_iff (executes_stored admission), eventFits_iff]
  constructor
  · rintro ⟨nextLog, nextOutbox, hexecute, hpending⟩
    obtain ⟨⟨stored, middle⟩, happend, hrest⟩ := FailingFold.bind_eq_ok.mp hexecute
    obtain ⟨⟨event, last⟩, hevent, heq⟩ := FailingFold.bind_eq_ok.mp hrest
    cases heq
    exact ⟨⟨stored, nextLog, happend, hpending⟩, event, nextOutbox, hevent⟩
  · rintro ⟨⟨stored, nextLog, happend, hpending⟩, event, nextOutbox, hevent⟩
    refine ⟨nextLog, nextOutbox, ?_, hpending⟩
    unfold executeAdmittedWorkItem
    rw [happend]
    change (appendEvent outbox (admission.preparedEvent uuid5) >>= _) = _
    rw [hevent]
    rfl

/-! The runs. -/

/-- In every run of drains and of anything else that changes the three stores,
the admissions are executed exactly where their commands and events fit. -/
theorem admissionsExecuted_iff (uuid5 : String → String) (start : DrainWorld)
    (events : List DrainEvent) :
    EveryStep (performDrain uuid5) (AdmissionExecuted uuid5) start events ↔
      EveryStep (performDrain uuid5) (AdmissionFits uuid5) start events := by
  apply everyStep_congr
  intro before event
  cases event with
  | drainOnce bridge command itemLocked =>
    unfold AdmissionExecuted AdmissionFits
    constructor
    · intro h item reservation leased hadmit
      exact (executed_iff_fits _ _ _).mp (h item reservation leased hadmit)
    · intro h item reservation leased hadmit
      exact (executed_iff_fits _ _ _).mpr (h item reservation leased hadmit)
  | lifecycle _ | queue _ | log _ | outbox _ => exact Iff.rfl

/-! One item that is admitted twice. -/

def drainedLane : LaneKey where
  workKind := claimBuilderSectionWorkKind
  provider := "groq"
  modelRef := "qwen"
  accountRef := none

theorem hundredTokens_pos : 0 < 100 := by decide

def drainedItem : WorkItemRow where
  workItemId := "item"
  lane := drainedLane
  workflowRunId := some "run"
  projectId := none
  status := .ready
  retryPlan := none
  inputTokens := 100
  artifactTokens := 300
  requiredWindowTokens := 2500
  createdAt := 1
  updatedAt := 1
  inputTokens_pos := hundredTokens_pos
  required_ge := by decide

def sampleDrainWorld : DrainWorld where
  queue :=
    { workItems := Table.empty.insertOrIgnore drainedItem, dirtyFlags := .empty
      laneClaims := .empty, windows := .empty }
  log := .empty
  outbox := ⟨.empty, 1⟩

def sampleBridge : DrainBridge where
  workflowRunId := "run"
  resolveDispatchContext := fun _ => none
  sourceDocumentRef := none
  activeModelRef := none
  scheduledWorkItemCount := none

def sampleDrainCommand (now : Int) : DrainCommand where
  workflowRunId := some "run"
  selectionLane := drainedLane
  executionAccountRef := "account"
  workerRef := "worker"
  now := now
  remainingMinuteRequests := 60
  remainingMinuteTokens := 6000
  remainingDailyRequests := 1000
  remainingDailyTokens := 500000
  maxItems := some 1
  claimTtlSeconds := 90

/-- The id of the text "run:item:account", the only one asked for here. -/
def sampleUuid5 (_ : String) : String := "dde0baf8-99f4-5c86-b415-b150e8e905c4"

def sampleAttemptId : String := bridgeAttemptId sampleUuid5 "run" "item" "account"

/-- The item becomes retryable after its first execution, and is admitted again. -/
def readmissionRun : List DrainEvent :=
  [.drainOnce sampleBridge (sampleDrainCommand 10) (fun _ => false),
    .log (.complete ("workflow-command:execute-claim-builder-section:run:" ++ sampleAttemptId) 20),
    .lifecycle
      { workItemId := "item", status := .retryableFailed, changedAt := 20
        retryPlan := some "retry_same_route", modelRef := none, retryPlan_iff := by simp
        modelRef_only := by simp },
    .drainOnce sampleBridge (sampleDrainCommand 30) (fun _ => false)]

theorem readmissionRun_not_executed :
    ¬ EveryStep (performDrain sampleUuid5) (AdmissionExecuted sampleUuid5) sampleDrainWorld
      readmissionRun := by
  rintro ⟨_, _, _, hadmission, _⟩
  obtain ⟨log, outbox, hexecute, row, hmem, hstatus, _⟩ := hadmission _ _ _ rfl
  cases hexecute
  rw [List.mem_singleton.mp hmem] at hstatus
  cases hstatus

end CrmBot.ClaimBuilder
