import CrmBot.ClaimBuilder.DispatchPayload
import CrmBot.WorkflowRuntime.CommandLog

/-! `append_capacity_window_prepare_wakeup`: a prepare command for the time at
which a provider resets the minute limit of one account and model. -/

namespace CrmBot.ClaimBuilder

open CrmBot.Python CrmBot.LlmRuntime CrmBot.WorkflowRuntime

/-- `_fallback_minute_token_limit_for_model`. -/
def fallbackMinuteTokenLimitForModel (modelRef : String) : Nat :=
  if modelRef = "qwen/qwen3-32b" then 6000 else 1

/-- `_minute_request_capacity_for_wakeup`. -/
def minuteRequestCapacityForWakeup (observed : Option Nat) : Nat :=
  match observed with
  | none => 1
  | some value => max 1 value

/-- `_minute_token_capacity_for_wakeup`. -/
def minuteTokenCapacityForWakeup (observed : Option Nat) (modelRef : String) : Nat :=
  match observed with
  | none => fallbackMinuteTokenLimitForModel modelRef
  | some value => max 1 value

/-- `_overwrite_if_observed`. -/
def overwriteIfObserved (entry : Payload) (key : String) (observed : Option Nat) : Payload :=
  match observed with
  | none => entry
  | some value => entry.set key (.int value)

/-- `_account_capacity_from_observation`. -/
def accountCapacityFromObservation (observation : CapacityObservation) : Payload :=
  Payload.ofEntries
    [("provider", .str observation.route.provider),
      ("account_ref", .str observation.route.accountRef),
      ("model_ref", .str observation.route.modelRef),
      ("remaining_minute_requests",
        .int (minuteRequestCapacityForWakeup observation.remainingMinuteRequests)),
      ("remaining_minute_tokens",
        .int (minuteTokenCapacityForWakeup observation.remainingMinuteTokens
          observation.route.modelRef)),
      ("remaining_daily_requests", .int (observation.remainingDailyRequests.getD 0)),
      ("remaining_daily_tokens", .int (observation.remainingDailyTokens.getD 0))]

/-- A copy of the entry of the observed route with the observed amounts in it. -/
def observedAccountCapacity (entry : Payload) (observation : CapacityObservation) : Payload :=
  let minute := ((Payload.ofEntries entry).set "remaining_minute_requests"
      (.int (minuteRequestCapacityForWakeup observation.remainingMinuteRequests))).set
    "remaining_minute_tokens"
      (.int (minuteTokenCapacityForWakeup observation.remainingMinuteTokens
        observation.route.modelRef))
  overwriteIfObserved
    (overwriteIfObserved minute "remaining_daily_requests" observation.remainingDailyRequests)
    "remaining_daily_tokens" observation.remainingDailyTokens

def isEntryOfRoute (entry : Payload) (route : RouteKey) : Bool :=
  entry.get "provider" = some (.str route.provider) &&
    entry.get "account_ref" = some (.str route.accountRef) &&
    entry.get "model_ref" = some (.str route.modelRef)

/-- `_capacity_window_account_capacities`. -/
def capacityWindowAccountCapacities (preparation : Payload) (observation : CapacityObservation) :
    List Payload :=
  match preparation.get "account_capacities" with
  | some (.list items) =>
    let matched := items.filterMap fun
      | .dict entry =>
        if isEntryOfRoute entry observation.route then
          some (observedAccountCapacity entry observation)
        else none
      | _ => none
    if matched.isEmpty then [accountCapacityFromObservation observation] else matched
  | _ => [accountCapacityFromObservation observation]

/-- The dispatch preparation of the wake-up. -/
def capacityWindowDispatchPreparation (preparation : Payload) (observation : CapacityObservation) :
    Payload :=
  (preparation.set "active_model_ref" (.str observation.route.modelRef)).set "account_capacities"
    (.list ((capacityWindowAccountCapacities preparation observation).map .dict))

/-- `_capacity_window_prepare_payload`. -/
def capacityWindowPreparePayload (sourcePayload : Payload) (workflowRunId : String)
    (observation : CapacityObservation) : Payload :=
  let payload := ((((sourcePayload.set "workflow_run_id" (.str workflowRunId)).set
    "active_model_ref" (.str observation.route.modelRef)).set
    "capacity_window_provider" (.str observation.route.provider)).set
    "capacity_window_provider_account_refs" (.list [.str observation.route.accountRef])).set
    "capacity_window_model_ref" (.str observation.route.modelRef)
  match payload.get "llm_dispatch_preparation" with
  | some (.dict preparation) => payload.set "llm_dispatch_preparation"
      (.dict (capacityWindowDispatchPreparation preparation observation))
  | _ => payload

/-- `_has_scheduled_work_count`. -/
def hasScheduledWorkCount (payload : Payload) : Bool :=
  match payload.get "scheduled_work_item_count" with
  | some (.int value) => decide (0 < value)
  | _ => false

def capacityWindowPrepareKey (workflowRunId commandType : String) (route : RouteKey)
    (runAfter : Int) : String :=
  "capacity-window-prepare:" ++ workflowRunId ++ ":" ++ commandType ++ ":" ++ route.provider ++
    ":" ++ route.accountRef ++ ":" ++ route.modelRef ++ ":" ++ isoformat runAfter

/-- The command that `append_capacity_window_prepare_wakeup` writes. -/
def capacityWindowPrepareCommand (source : WorkflowCommand) (workflowRunId commandType : String)
    (observation : CapacityObservation) (runAfter occurredAt : Int) : WorkflowCommand :=
  let key := capacityWindowPrepareKey workflowRunId commandType observation.route runAfter
  { commandId := "workflow-command:" ++ key, commandType := commandType
    workflowRunId := workflowRunId, idempotencyKey := key
    payload := capacityWindowPreparePayload source.payload workflowRunId observation
    status := .pending, runAfter := runAfter, createdAt := occurredAt, updatedAt := occurredAt
    causationEventId := none, correlationId := none, attemptCount := 0 }

/-- The wake-up of an observation, if it names a minute reset and the source
command counts its scheduled items. -/
def capacityWindowPrepareWakeup (source : WorkflowCommand) (workflowRunId commandType : String)
    (observation : CapacityObservation) (occurredAt : Int) : Option WorkflowCommand :=
  match observation.minuteResetAt with
  | none => none
  | some resetAt =>
    if hasScheduledWorkCount (capacityWindowPreparePayload source.payload workflowRunId observation)
    then some (capacityWindowPrepareCommand source workflowRunId commandType observation
      (if resetAt ≤ occurredAt then occurredAt else resetAt) occurredAt)
    else none

/-- A wake-up is never scheduled before the reset. -/
theorem capacityWindowPrepareWakeup_eq_some {source wakeup : WorkflowCommand}
    {workflowRunId commandType : String} {observation : CapacityObservation} {occurredAt : Int}
    (h : capacityWindowPrepareWakeup source workflowRunId commandType observation occurredAt =
      some wakeup) :
    ∃ resetAt runAfter, observation.minuteResetAt = some resetAt ∧ resetAt ≤ runAfter ∧
      occurredAt ≤ runAfter ∧
      wakeup = capacityWindowPrepareCommand source workflowRunId commandType observation runAfter
        occurredAt := by
  unfold capacityWindowPrepareWakeup at h
  cases hreset : observation.minuteResetAt with
  | none => simp [hreset] at h
  | some resetAt =>
    simp only [hreset, Option.ite_none_right_eq_some, Option.some.injEq] at h
    refine ⟨resetAt, _, rfl, ?_, ?_, h.2.symm⟩
    · split
      · assumption
      · exact le_refl _
    · split
      · exact le_refl _
      · omega

/-- `append_capacity_window_prepare_wakeup`: the number of commands asked for
and the log. -/
def appendCapacityWindowPrepareWakeup (log : CommandLog) (source : WorkflowCommand)
    (workflowRunId commandType : String) (observation : CapacityObservation) (occurredAt : Int) :
    Except Fault (Nat × CommandLog) :=
  match capacityWindowPrepareWakeup source workflowRunId commandType observation occurredAt with
  | none => .ok (0, log)
  | some wakeup => do
    let (_, next) ← appendPendingCommand log wakeup
    return (1, next)

end CrmBot.ClaimBuilder
