import CrmBot.ClaimBuilder.PrepareLoop

/-! Payloads of direct prepare commands, and that the handler reads back what
was written into them. -/

namespace CrmBot.ClaimBuilder

open Relational CrmBot.Python CrmBot.ExecutionRuntime CrmBot.LlmRuntime CrmBot.WorkflowRuntime
  FailingFold

/-- The entry of `account_capacities` for a capacity. -/
def accountCapacityPayload (capacity : ProviderAccountCapacity) : Payload :=
  [("account_ref", .str capacity.route.accountRef), ("model_ref", .str capacity.route.modelRef),
    ("provider", .str capacity.route.provider),
    ("remaining_daily_requests", .int capacity.remainingDailyRequests),
    ("remaining_daily_tokens", .int capacity.remainingDailyTokens),
    ("remaining_minute_requests", .int capacity.remainingMinuteRequests),
    ("remaining_minute_tokens", .int capacity.remainingMinuteTokens)]

/-- The texts of a route are non-empty, as `LlmProviderAccountCapacity` demands. -/
structure NamedRoute (route : RouteKey) : Prop where
  provider : isBlank route.provider = false
  accountRef : isBlank route.accountRef = false
  modelRef : isBlank route.modelRef = false

theorem payloadText_of_get {payload : Payload} {key value : String} {fallback : Option String}
    (hget : payload.get key = some (.str value)) (hvalue : isBlank value = false) :
    payloadText payload key fallback = .ok value := by
  simp [payloadText, hget, hvalue]

theorem payloadNonNegativeInt_of_get {payload : Payload} {key : String} {value : Nat}
    (hget : payload.get key = some (.int value)) :
        payloadNonNegativeInt payload key = .ok value := by
  simp [payloadNonNegativeInt, hget]

theorem payloadPositiveInt_of_get {payload : Payload} {key : String} {value : Nat}
    (hget : payload.get key = some (.int value)) (hpos : 0 < value) :
    payloadPositiveInt payload key = .ok value := by
  have hnot : ¬ ((value : Int) ≤ 0) := by omega
  simp only [payloadPositiveInt, hget, hnot, if_false, Int.toNat_natCast]

/-- A written capacity is read back. -/
theorem accountCapacityFromPayload_payload {capacity : ProviderAccountCapacity}
    (hroute : NamedRoute capacity.route) :
    accountCapacityFromPayload (accountCapacityPayload capacity) = .ok capacity := by
  have hprovider : payloadText (accountCapacityPayload capacity) "provider" none =
      .ok capacity.route.provider :=
    payloadText_of_get (by simp [accountCapacityPayload, Payload.get]) hroute.provider
  have haccount : payloadText (accountCapacityPayload capacity) "account_ref" none =
      .ok capacity.route.accountRef :=
    payloadText_of_get (by simp [accountCapacityPayload, Payload.get]) hroute.accountRef
  have hmodel : payloadText (accountCapacityPayload capacity) "model_ref" none =
      .ok capacity.route.modelRef :=
    payloadText_of_get (by simp [accountCapacityPayload, Payload.get]) hroute.modelRef
  have hminuteRequests : payloadNonNegativeInt (accountCapacityPayload capacity)
      "remaining_minute_requests" = .ok capacity.remainingMinuteRequests :=
    payloadNonNegativeInt_of_get (by simp [accountCapacityPayload, Payload.get])
  have hminuteTokens : payloadNonNegativeInt (accountCapacityPayload capacity)
      "remaining_minute_tokens" = .ok capacity.remainingMinuteTokens :=
    payloadNonNegativeInt_of_get (by simp [accountCapacityPayload, Payload.get])
  have hdailyRequests : payloadNonNegativeInt (accountCapacityPayload capacity)
      "remaining_daily_requests" = .ok capacity.remainingDailyRequests :=
    payloadNonNegativeInt_of_get (by simp [accountCapacityPayload, Payload.get])
  have hdailyTokens : payloadNonNegativeInt (accountCapacityPayload capacity)
      "remaining_daily_tokens" = .ok capacity.remainingDailyTokens :=
    payloadNonNegativeInt_of_get (by simp [accountCapacityPayload, Payload.get])
  unfold accountCapacityFromPayload
  rw [hprovider, haccount, hmodel, hminuteRequests, hminuteTokens, hdailyRequests, hdailyTokens]
  rfl

def profilePayload (profile : TaskCapacityProfile) : Payload :=
  [("artifact_tokens", .int profile.artifactTokens), ("input_tokens", .int profile.inputTokens),
    ("profile_id", .str profile.profileId), ("request_count", .int profile.requestCount)]

/-- The dispatch preparation of a prepare command. -/
def dispatchPreparation (activeModelRef : String) (profile : TaskCapacityProfile)
    (capacities : List ProviderAccountCapacity) : Payload :=
  [("account_capacities",
      .list (capacities.map fun capacity => .dict (accountCapacityPayload capacity))),
    ("active_model_ref", .str activeModelRef), ("profile", .dict (profilePayload profile))]

/-- The payload of a direct prepare command without a retry plan. -/
def directPreparePayload (scheduledWorkItemCount : Nat) (activeModelRef : String)
    (profile : TaskCapacityProfile) (capacities : List ProviderAccountCapacity) : Payload :=
  [("llm_dispatch_preparation", .dict (dispatchPreparation activeModelRef profile capacities)),
    ("scheduled_work_item_count", .int scheduledWorkItemCount)]

/-- A prepare command with such a payload. -/
def directPrepareCommand (key workflowRunId : String) (runAfter : Int) (payload : Payload) :
    WorkflowCommand :=
  { commandId := "workflow-command:" ++ key, commandType := prepareClaimBuilderDispatchBatch
    workflowRunId := workflowRunId, idempotencyKey := key, payload := payload, status := .pending
    runAfter := runAfter, createdAt := runAfter, updatedAt := runAfter, causationEventId := none
    correlationId := none, attemptCount := 0 }

section Fields

variable (key workflowRunId : String) (runAfter : Int) (payload : Payload)

@[simp] theorem commandType_directPrepareCommand :
    (directPrepareCommand key workflowRunId runAfter payload).commandType =
      prepareClaimBuilderDispatchBatch := rfl

@[simp] theorem status_directPrepareCommand :
    (directPrepareCommand key workflowRunId runAfter payload).status = .pending := rfl

@[simp] theorem workflowRunId_directPrepareCommand :
    (directPrepareCommand key workflowRunId runAfter payload).workflowRunId = workflowRunId := rfl

@[simp] theorem payload_directPrepareCommand :
    (directPrepareCommand key workflowRunId runAfter payload).payload = payload := rfl

@[simp] theorem runAfter_directPrepareCommand :
    (directPrepareCommand key workflowRunId runAfter payload).runAfter = runAfter := rfl

end Fields

section Read

variable {count : Nat} {activeModelRef : String} {profile : TaskCapacityProfile}
  {capacities : List ProviderAccountCapacity}

theorem optionalPayloadMapping_payload :
    optionalPayloadMapping (directPreparePayload count activeModelRef profile capacities)
      "llm_dispatch_preparation" =
        .ok (some (dispatchPreparation activeModelRef profile capacities)) := by
  simp [optionalPayloadMapping, payloadGet, directPreparePayload, Payload.get]

theorem profileFromDispatchPreparation_payload (hprofile : isBlank profile.profileId = false) :
    profileFromDispatchPreparation
      (directPreparePayload count activeModelRef profile capacities) = .ok profile := by
  have hmapping : payloadMapping (dispatchPreparation activeModelRef profile capacities)
      "profile" = .ok (profilePayload profile) := by
    simp [payloadMapping, dispatchPreparation, Payload.get]
  have hid : payloadText (profilePayload profile) "profile_id" none = .ok profile.profileId :=
    payloadText_of_get (by simp [profilePayload, Payload.get]) hprofile
  have hinput : payloadPositiveInt (profilePayload profile) "input_tokens" =
      .ok profile.inputTokens :=
    payloadPositiveInt_of_get (by simp [profilePayload, Payload.get]) profile.inputTokens_pos
  have hartifact : payloadNonNegativeInt (profilePayload profile) "artifact_tokens" =
      .ok profile.artifactTokens :=
    payloadNonNegativeInt_of_get (by simp [profilePayload, Payload.get])
  have hrequest : payloadPositiveInt (profilePayload profile) "request_count" =
      .ok profile.requestCount :=
    payloadPositiveInt_of_get (by simp [profilePayload, Payload.get]) profile.requestCount_pos
  unfold profileFromDispatchPreparation
  rw [optionalPayloadMapping_payload]
  simp only [bind, Except.bind, hmapping, hid, hinput, hartifact, hrequest,
    profile.inputTokens_pos, profile.requestCount_pos, dif_pos]

/-- A direct prepare payload has two keys. -/
theorem payloadGet_directPreparePayload {key : String}
    (hpreparation : key ≠ "llm_dispatch_preparation")
    (hcount : key ≠ "scheduled_work_item_count") :
    payloadGet (directPreparePayload count activeModelRef profile capacities) key = none := by
  simp [payloadGet, directPreparePayload, Payload.get, hpreparation.symm, hcount.symm]

theorem firstPayloadText_of_absent {payload : Payload} {keys : List String}
    (habsent : ∀ key ∈ keys, payloadGet payload key = none) :
    firstPayloadText payload keys = .ok none := by
  induction keys with
  | nil => rfl
  | cons key rest ih =>
    unfold firstPayloadText
    rw [habsent key List.mem_cons_self]
    exact ih fun other hother => habsent other (List.mem_cons_of_mem _ hother)

theorem retryPlanFromPayload_payload :
    retryPlanFromPayload (directPreparePayload count activeModelRef profile capacities) =
      .ok none := by
  unfold retryPlanFromPayload
  rw [firstPayloadText_of_absent]
  · rfl
  · intro key hkey
    apply payloadGet_directPreparePayload
    · rintro rfl
      simp at hkey
    · rintro rfl
      simp at hkey

theorem legacyStrategyFromPayload_payload :
    legacyStrategyFromPayload (directPreparePayload count activeModelRef profile capacities) =
      .ok none := by
  unfold legacyStrategyFromPayload
  rw [retryPlanFromPayload_payload, firstPayloadText_of_absent]
  · rfl
  · intro key hkey
    apply payloadGet_directPreparePayload
    · rintro rfl
      simp at hkey
    · rintro rfl
      simp at hkey

theorem activeModelRefFromPayload_payload (hmodel : isBlank activeModelRef = false) :
    activeModelRefFromPayload
      (directPreparePayload count activeModelRef profile capacities) = .ok activeModelRef := by
  have hread : payloadText (dispatchPreparation activeModelRef profile capacities)
      "active_model_ref" (some claimBuilderActiveModelRef) = .ok activeModelRef :=
    payloadText_of_get (by simp [dispatchPreparation, Payload.get]) hmodel
  have hbase : baseActiveModelRef
      (directPreparePayload count activeModelRef profile capacities) = .ok activeModelRef := by
    unfold baseActiveModelRef
    rw [optionalPayloadMapping_payload]
    exact hread
  unfold activeModelRefFromPayload
  rw [hbase, retryPlanFromPayload_payload, legacyStrategyFromPayload_payload]
  rfl

theorem accountCapacitiesFromDispatchPreparation_payload
    (hroutes : ∀ capacity ∈ capacities, NamedRoute capacity.route) :
    accountCapacitiesFromDispatchPreparation
      (directPreparePayload count activeModelRef profile capacities) = .ok capacities := by
  have hentries : payloadMappingSequence (dispatchPreparation activeModelRef profile capacities)
      "account_capacities" = .ok (capacities.map accountCapacityPayload) := by
    have hget : (dispatchPreparation activeModelRef profile capacities).get "account_capacities" =
        some (.list (capacities.map fun capacity => .dict (accountCapacityPayload capacity))) := by
      simp [dispatchPreparation, Payload.get]
    have hmap : (capacities.map fun capacity => PyValue.dict (accountCapacityPayload capacity)) =
        (capacities.map accountCapacityPayload).map PyValue.dict := by
      rw [List.map_map]
      rfl
    unfold payloadMappingSequence
    rw [hget, hmap]
    exact mapM_map_eq_ok fun _ _ => rfl
  have hread := mapM_map_eq_ok fun capacity hcapacity =>
    accountCapacityFromPayload_payload (hroutes capacity hcapacity)
  have hsome : (payloadGet (dispatchPreparation activeModelRef profile capacities)
      "account_capacities").isSome = true := by
    simp [payloadGet, dispatchPreparation, Payload.get]
  obtain ⟨found, hfound⟩ := Option.isSome_iff_exists.mp hsome
  unfold accountCapacitiesFromDispatchPreparation
  rw [optionalPayloadMapping_payload]
  simp only [bind, Except.bind, hfound, hentries, hread]

/-- All listed capacities of the active model are used. -/
theorem capacitiesForDirectPrepare_payload (hne : capacities ≠ [])
    (hroutes : ∀ capacity ∈ capacities, NamedRoute capacity.route)
    (hmodels : ∀ capacity ∈ capacities, capacity.route.modelRef = activeModelRef) :
    capacitiesForDirectPrepare
      (directPreparePayload count activeModelRef profile capacities) activeModelRef =
        .ok capacities := by
  have hrefs : providerAccountRefsFromPayload
      (directPreparePayload count activeModelRef profile capacities) = .ok [] := by
    simp [providerAccountRefsFromPayload, payloadGet, directPreparePayload, Payload.get]
  unfold capacitiesForDirectPrepare
  rw [accountCapacitiesFromDispatchPreparation_payload hroutes]
  cases capacities with
  | nil => exact absurd rfl hne
  | cons first rest =>
    have hall : (first :: rest).filter (fun capacity =>
        capacity.route.modelRef = activeModelRef &&
          (([] : List String).isEmpty || capacity.route.accountRef ∈ ([] : List String))) =
        first :: rest := by
      rw [List.filter_eq_self]
      intro capacity hcapacity
      simp [hmodels capacity hcapacity]
    simp only [bind, Except.bind, hrefs, hall]
    rfl

/-- The run of the command counts, since the payload names none. -/
theorem validatePrepareCommand_payload {key workflowRunId : String} {runAfter : Int}
    (hrun : isBlank workflowRunId = false) :
    validatePrepareCommand (directPrepareCommand key workflowRunId runAfter
      (directPreparePayload count activeModelRef profile capacities)) = .ok () := by
  have hget : Payload.get (directPreparePayload count activeModelRef profile capacities)
      "workflow_run_id" = none := by
    simp [directPreparePayload, Payload.get]
  have hrunId : payloadText (directPreparePayload count activeModelRef profile capacities)
      "workflow_run_id" (some workflowRunId) = .ok workflowRunId := by
    simp [payloadText, hget, hrun]
  simp only [validatePrepareCommand, commandType_directPrepareCommand,
    status_directPrepareCommand, payload_directPrepareCommand,
    workflowRunId_directPrepareCommand, hrunId, bind, Except.bind, ne_eq, not_true, if_false]

/-- The handler reads the count, the profile and a window for each capacity. -/
theorem readPrepareCommand_payload {catalog : RouteCatalog} {locked : String → Bool}
    {state : DispatchState} {key workflowRunId : String} {runAfter : Int} (hcount : 0 < count)
    (hrun : isBlank workflowRunId = false) (hprofile : isBlank profile.profileId = false)
    (hmodel : isBlank activeModelRef = false) (hne : capacities ≠ [])
    (hroutes : ∀ capacity ∈ capacities, NamedRoute capacity.route)
    (hmodels : ∀ capacity ∈ capacities, capacity.route.modelRef = activeModelRef) :
    readPrepareCommand catalog locked state
      (directPrepareCommand key workflowRunId runAfter
        (directPreparePayload count activeModelRef profile capacities)) =
      .ok (batchContext
          (directPrepareCommand key workflowRunId runAfter
            (directPreparePayload count activeModelRef profile capacities))
          count profile catalog locked,
        capacities.map (directCapacityWindow state runAfter)) := by
  have hvalid : validatePrepareCommand (directPrepareCommand key workflowRunId runAfter
      (directPreparePayload count activeModelRef profile capacities)) = .ok () :=
    validatePrepareCommand_payload hrun
  have hitems : payloadPositiveInt (directPreparePayload count activeModelRef profile capacities)
      "scheduled_work_item_count" = .ok count :=
    payloadPositiveInt_of_get (by simp [directPreparePayload, Payload.get]) hcount
  unfold readPrepareCommand directCapacityWindows
  rw [hvalid]
  simp only [payload_directPrepareCommand, runAfter_directPrepareCommand, bind, Except.bind,
    hitems, profileFromDispatchPreparation_payload hprofile,
      activeModelRefFromPayload_payload hmodel,
    capacitiesForDirectPrepare_payload hne hroutes hmodels]
  rfl

end Read

end CrmBot.ClaimBuilder
