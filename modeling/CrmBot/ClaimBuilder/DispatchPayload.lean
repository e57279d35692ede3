import CrmBot.LlmRuntime.RouteCapacity
import CrmBot.LlmRuntime.RouteCatalog
import CrmBot.Python.PyValue

/-! What the claim-builder handlers read from the payloads of their commands. -/

namespace CrmBot.ClaimBuilder

open CrmBot.Python CrmBot.ExecutionRuntime CrmBot.LlmRuntime

/-- `CLAIM_BUILDER_ACTIVE_MODEL_REF`. -/
def claimBuilderActiveModelRef : String := "qwen/qwen3-32b"

/-- `CLAIM_BUILDER_SECTION_WORK_KIND`. -/
def claimBuilderSectionWorkKind : String := "knowledge_workbench.claim_builder.section_extraction"

def prepareClaimBuilderDispatchBatch : String := "PrepareClaimBuilderDispatchBatch"

def executeClaimBuilderSection : String := "ExecuteClaimBuilderSection"

def reconcileClaimBuilderProgress : String := "ReconcileClaimBuilderProgress"

/-- `_provider_account_refs_from_payload`. -/
def providerAccountRefsFromPayload (payload : Payload) : Except Fault (List String) :=
  match payloadGet payload "capacity_window_provider_account_refs" with
  | none => .ok []
  | some (.list items) => items.mapM fun
    | .str ref =>
      if isBlank ref then
        .error (.valueError ("workflow command payload capacity_window_provider_account_refs " ++
          "must contain non-empty strings"))
      else .ok ref
    | _ =>
      .error (.valueError ("workflow command payload capacity_window_provider_account_refs " ++
        "must contain non-empty strings"))
  | some _ =>
    .error (.valueError
      "workflow command payload capacity_window_provider_account_refs must be sequence")

/-- The first of some keys whose value is not `None`, as text. -/
def firstPayloadText (payload : Payload) : List String → Except Fault (Option (String × String))
  | [] => .ok none
  | key :: rest => match payloadGet payload key with
    | none => firstPayloadText payload rest
    | some (.str value) =>
      if isBlank value then
        .error (.valueError ("workflow command payload " ++ key ++ " must be non-empty text"))
      else .ok (some (key, value))
    | some _ =>
      .error (.valueError ("workflow command payload " ++ key ++ " must be non-empty text"))

/-- `_retry_plan_from_payload`: only the first present key counts. -/
def retryPlanFromPayload (payload : Payload) : Except Fault (Option WorkItemRetryPlan) := do
  match ← firstPayloadText payload ["retry_plan", "selected_retry_plan", "claim_builder_retry_plan"]
    with
  | none => return none
  | some (key, value) => match WorkItemRetryPlan.ofValue? value with
    | none => .error (.valueError ("workflow command payload " ++ key ++ " is unknown"))
    | some plan => return some plan

/-- `_legacy_dispatch_preparation_strategy_from_payload`. -/
def legacyStrategyFromPayload (payload : Payload) : Except Fault (Option String) := do
  match ← retryPlanFromPayload payload with
  | some _ => return none
  | none =>
    let found ← firstPayloadText payload
      ["llm_dispatch_preparation_strategy", "claim_builder_next_model_strategy",
        "selected_retry_strategy"]
    return found.map Prod.snd

/-- The model before any retry plan is applied. -/
def baseActiveModelRef (payload : Payload) : Except Fault String := do
  match ← optionalPayloadMapping payload "llm_dispatch_preparation" with
  | some preparation =>
    payloadText preparation "active_model_ref" (some claimBuilderActiveModelRef)
  | none => payloadText payload "active_model_ref" (some claimBuilderActiveModelRef)

/-- `_active_model_ref_from_payload`. -/
def activeModelRefFromPayload (payload : Payload) : Except Fault String := do
  let base ← baseActiveModelRef payload
  let plan ← retryPlanFromPayload payload
  let strategy ← legacyStrategyFromPayload payload
  if plan.isNone && strategy.isNone then return base
  else resolveLlmDispatchPreparationStrategy defaultGroqLlmModelRouteCatalog base plan strategy

/-- `_profile_from_dispatch_preparation`, where the reader of a missing profile
raises. -/
def profileFromDispatchPreparation (payload : Payload) : Except Fault TaskCapacityProfile := do
  match ← optionalPayloadMapping payload "llm_dispatch_preparation" with
  | none => .error (.valueError "llm_dispatch_preparation profile is required")
  | some preparation =>
    let profile ← payloadMapping preparation "profile"
    let profileId ← payloadText profile "profile_id" none
    let inputTokens ← payloadPositiveInt profile "input_tokens"
    let artifactTokens ← payloadNonNegativeInt profile "artifact_tokens"
    let requestCount ← payloadPositiveInt profile "request_count"
    if hinput : 0 < inputTokens then
      if hrequest : 0 < requestCount then
        .ok
          { profileId := profileId, inputTokens := inputTokens, artifactTokens := artifactTokens
            requestCount := requestCount, inputTokens_pos := hinput, requestCount_pos := hrequest }
      else .error (.valueError "request_count must be > 0")
    else .error (.valueError "input_tokens must be > 0")

/-- One entry of `account_capacities`. -/
def accountCapacityFromPayload (entry : Payload) : Except Fault ProviderAccountCapacity := do
  let provider ← payloadText entry "provider" none
  let accountRef ← payloadText entry "account_ref" none
  let modelRef ← payloadText entry "model_ref" none
  let minuteRequests ← payloadNonNegativeInt entry "remaining_minute_requests"
  let minuteTokens ← payloadNonNegativeInt entry "remaining_minute_tokens"
  let dailyRequests ← payloadNonNegativeInt entry "remaining_daily_requests"
  let dailyTokens ← payloadNonNegativeInt entry "remaining_daily_tokens"
  .ok
    { route := { provider := provider, accountRef := accountRef, modelRef := modelRef }
      remainingMinuteRequests := minuteRequests, remainingMinuteTokens := minuteTokens
      remainingDailyRequests := dailyRequests, remainingDailyTokens := dailyTokens }

/-- `_account_capacities_from_dispatch_preparation`. -/
def accountCapacitiesFromDispatchPreparation (payload : Payload) :
    Except Fault (List ProviderAccountCapacity) := do
  match ← optionalPayloadMapping payload "llm_dispatch_preparation" with
  | none => return []
  | some preparation =>
    let entries : Except Fault (List ProviderAccountCapacity) := do
      let raw ← payloadMappingSequence preparation "account_capacities"
      raw.mapM accountCapacityFromPayload
    match payloadGet preparation "account_capacities" with
    | some _ => entries
    | none => if (← providerAccountRefsFromPayload payload) ≠ [] then return [] else entries

/-- `_capacities_for_direct_prepare`: the capacities of the active model on the
accounts asked for; without any, the first listed capacity of any model. -/
def capacitiesForDirectPrepare (payload : Payload) (activeModelRef : String) :
    Except Fault (List ProviderAccountCapacity) := do
  match ← accountCapacitiesFromDispatchPreparation payload with
  | [] => .error (.valueError
      "claim-builder direct prepare requires llm_dispatch_preparation account_capacities")
  | first :: rest =>
    let accountRefs ← providerAccountRefsFromPayload payload
    match (first :: rest).filter fun capacity =>
        capacity.route.modelRef = activeModelRef &&
          (accountRefs.isEmpty || capacity.route.accountRef ∈ accountRefs) with
    | [] => return [first]
    | active => return active

/-- `_required_window_tokens_for_due_record`. -/
def requiredWindowTokensForDueRecord (schedulePayload : Payload) (fallback : TaskCapacityProfile) :
    Nat :=
  match schedulePayload.get "llm_capacity_estimate" with
  | some (.dict estimate) =>
    match Payload.get estimate "input_tokens", Payload.get estimate "artifact_tokens" with
    | some (.int inputTokens), some (.int artifactTokens) =>
      if 0 < inputTokens ∧ 0 ≤ artifactTokens then (inputTokens + artifactTokens).toNat
      else fallback.requiredWindowTokens
    | _, _ => fallback.requiredWindowTokens
  | _ => fallback.requiredWindowTokens

/-- Every due item needs at least one token. -/
theorem requiredWindowTokensForDueRecord_pos (schedulePayload : Payload)
    (fallback : TaskCapacityProfile) :
    0 < requiredWindowTokensForDueRecord schedulePayload fallback := by
  have hfallback := fallback.requiredWindowTokens_pos
  unfold requiredWindowTokensForDueRecord
  split
  · split
    · split
      · omega
      · exact hfallback
    · exact hfallback
  · exact hfallback

end CrmBot.ClaimBuilder
