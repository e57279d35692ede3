import CrmBot.ClaimBuilder.CapacityWindowWakeup
import CrmBot.ClaimBuilder.NextBatchQueued
import CrmBot.ClaimBuilder.ScheduleSectionWork
import CrmBot.Library.Delimited

/-! The commands of the claim builder whose key is made of a part of their
inputs: the prepare wake-up of a capacity window, the trigger of a capacity drain,
which a reconcile and the schedule handler build, and the prepare command of a
reconcile.

The payload of each takes more from the inputs than the key does. What it takes
beyond the key is the context of the command. -/

namespace CrmBot.ClaimBuilder

open Relational CrmBot.Python CrmBot.ExecutionRuntime CrmBot.LlmRuntime CrmBot.WorkflowRuntime
  FailingFold Delimited

/-! Contexts. -/

/-- What the wake-up takes from an entry of the observed route: all but the amounts,
and the daily amounts, of which an observed one counts first. -/
structure KeptEntry where
  kept : Payload
  dailyRequests : Option PyValue
  dailyTokens : Option PyValue

/-- What the wake-up takes from the dispatch preparation of its source and from the
observation: all but two keys, the entries of the observed route, and the minute
amounts. -/
structure KeptPreparation where
  kept : Payload
  entries : List KeptEntry
  minuteRequests : Nat
  minuteTokens : Nat

inductive CommandContext
  | wakeup (route : RouteKey) (kept : Payload) (preparation : Option KeptPreparation)
  | trigger (sourceDocumentRef : Except Fault String) (preparation : Option PyValue)
    (reconcileCommandId : String) (decision : ProgressDecision) (scheduledCount : Nat)
    (plan : Option String)
  | scheduled (sourceDocumentRef : String) (providerAccountRefs : List String)
    (scheduledCount : Nat)
  | prepare (preparation : Option PyValue) (scheduledCount : Nat) (plan : Option String)

/-- The keys of the source payload that the wake-up sets. -/
def wakeupEntries (workflowRunId : String) (route : RouteKey) : List (String × PyValue) :=
  [("workflow_run_id", .str workflowRunId), ("active_model_ref", .str route.modelRef),
    ("capacity_window_provider", .str route.provider),
    ("capacity_window_provider_account_refs", .list [.str route.accountRef]),
    ("capacity_window_model_ref", .str route.modelRef)]

@[simp] theorem wakeupEntries_keys (workflowRunId : String) (route : RouteKey) :
    (wakeupEntries workflowRunId route).map Prod.fst =
      ["workflow_run_id", "active_model_ref", "capacity_window_provider",
        "capacity_window_provider_account_refs", "capacity_window_model_ref"] := rfl

/-- The payload with `None` under the given keys. -/
def blanked (keys : List String) (payload : Payload) : Payload :=
  payload.update (keys.map fun key => (key, .none))

/-- Two payloads are the same after an update exactly when they agree outside its
keys. -/
theorem update_eq_iff_blanked {first second : Payload} {entries : List (String × PyValue)}
    (keys : List String) (hkeys : entries.map Prod.fst = keys) (hnodup : keys.Nodup) :
    first.update entries = second.update entries ↔ blanked keys first = blanked keys second := by
  apply Payload.update_eq_update_iff
  · rw [List.map_map, hkeys]
    exact (List.map_id keys).symm
  · rw [hkeys]
    exact hnodup

def wakeupKeys : List String :=
  ["workflow_run_id", "active_model_ref", "capacity_window_provider",
    "capacity_window_provider_account_refs", "capacity_window_model_ref"]

def wakeupPreparationKeys : List String := ["active_model_ref", "account_capacities"]

def amountKeys : List String :=
  ["remaining_minute_requests", "remaining_minute_tokens", "remaining_daily_requests",
    "remaining_daily_tokens"]

/-- The entries of a route in a preparation. -/
def listedEntries (preparation : Payload) (route : RouteKey) : List Payload :=
  match preparation.get "account_capacities" with
  | some (.list items) => items.filterMap fun
    | .dict entry => if isEntryOfRoute entry route then some entry else none
    | _ => none
  | _ => []

/-- A route that is not listed counts as one with no daily amounts left. -/
def unlistedEntry (route : RouteKey) : Payload :=
  [("account_ref", .str route.accountRef), ("model_ref", .str route.modelRef),
    ("provider", .str route.provider), ("remaining_daily_requests", .int 0),
    ("remaining_daily_tokens", .int 0)]

def routeEntries (preparation : Payload) (route : RouteKey) : List Payload :=
  if (listedEntries preparation route).isEmpty then [unlistedEntry route]
  else listedEntries preparation route

/-- An observed amount, else the one of the entry. -/
def amountOf (entry : Payload) (key : String) (observed : Option Nat) : Option PyValue :=
  (observed.map fun value => .int value).or (entry.get key)

def keptEntry (observation : CapacityObservation) (entry : Payload) : KeptEntry where
  kept := blanked amountKeys (Payload.ofEntries entry)
  dailyRequests := amountOf (Payload.ofEntries entry) "remaining_daily_requests"
    observation.remainingDailyRequests
  dailyTokens := amountOf (Payload.ofEntries entry) "remaining_daily_tokens"
    observation.remainingDailyTokens

def keptPreparation (preparation : Payload) (observation : CapacityObservation) :
    KeptPreparation where
  kept := blanked wakeupPreparationKeys preparation
  entries := (routeEntries preparation observation.route).map (keptEntry observation)
  minuteRequests := max 1 (observation.remainingMinuteRequests.getD 1)
  minuteTokens := max 1 (observation.remainingMinuteTokens.getD
    (fallbackMinuteTokenLimitForModel observation.route.modelRef))

def wakeupContext (source : Payload) (observation : CapacityObservation) : CommandContext :=
  match source.get "llm_dispatch_preparation" with
  | some (.dict preparation) => .wakeup observation.route
      (blanked (wakeupKeys ++ ["llm_dispatch_preparation"]) source)
      (some (keptPreparation preparation observation))
  | _ => .wakeup observation.route (blanked wakeupKeys source) none

/-! Builds. -/

/-- One call of a builder, with what it is called with. -/
inductive KeyedBuild
  | wakeup (source : WorkflowCommand) (workflowRunId : String) (observation : CapacityObservation)
    (runAfter occurredAt : Int)
  | trigger (command : WorkflowCommand) (workflowRunId : String) (decision : ProgressDecision)
    (summary : WorkItemProgressSummary) (plan : Option String) (runAfter occurredAt : Int)
  | scheduled (workflowRunId sourceDocumentRef : String) (providerAccountRefs : List String)
    (scheduledCount : Nat) (occurredAt : Int)
  | prepare (command : WorkflowCommand) (workflowRunId : String)
    (summary : WorkItemProgressSummary) (plan : Option String) (runAfter occurredAt : Int)
    (suffix : String)

def KeyedBuild.built : KeyedBuild → Except Fault WorkflowCommand
  | .wakeup source workflowRunId observation runAfter occurredAt =>
    .ok (capacityWindowPrepareCommand source workflowRunId prepareClaimBuilderDispatchBatch
      observation runAfter occurredAt)
  | .trigger command workflowRunId decision summary plan runAfter occurredAt =>
    capacityDrainTriggerCommand command workflowRunId decision summary plan runAfter occurredAt
  | .scheduled workflowRunId ref providerAccountRefs scheduledCount occurredAt =>
    scheduleDrainTriggerCommand workflowRunId ref providerAccountRefs scheduledCount occurredAt
  | .prepare command workflowRunId summary plan runAfter occurredAt suffix =>
    prepareDispatchBatchCommand command workflowRunId summary plan runAfter occurredAt suffix

def KeyedBuild.context : KeyedBuild → CommandContext
  | .wakeup source _ observation _ _ => wakeupContext source.payload observation
  | .trigger command workflowRunId decision summary plan _ _ =>
    .trigger (sourceDocumentRef command workflowRunId)
      (command.payload.get "llm_dispatch_preparation") command.commandId decision
      summary.totalCount plan
  | .scheduled _ ref providerAccountRefs scheduledCount _ =>
    .scheduled ref providerAccountRefs scheduledCount
  | .prepare command _ summary plan _ _ _ =>
    .prepare (payloadGet command.payload "llm_dispatch_preparation") summary.totalCount plan

/-! The payload of a wake-up. -/

/-- The entries with the new preparation behind them. -/
def wakeupEntriesWith (workflowRunId : String) (route : RouteKey) (preparation : Payload) :
    List (String × PyValue) :=
  wakeupEntries workflowRunId route ++ [("llm_dispatch_preparation", .dict preparation)]

theorem get_update_wakeupEntries (source : Payload) (workflowRunId : String) (route : RouteKey) :
    (source.update (wakeupEntries workflowRunId route)).get "llm_dispatch_preparation" =
      source.get "llm_dispatch_preparation" := by
  apply Payload.get_update_of_notMem
  rw [wakeupEntries_keys]
  decide

theorem capacityWindowPreparePayload_eq_match (source : Payload) (workflowRunId : String)
    (observation : CapacityObservation) :
    capacityWindowPreparePayload source workflowRunId observation =
      match (source.update (wakeupEntries workflowRunId observation.route)).get
        "llm_dispatch_preparation" with
      | some (.dict preparation) =>
        source.update (wakeupEntriesWith workflowRunId observation.route
          (capacityWindowDispatchPreparation preparation observation))
      | _ => source.update (wakeupEntries workflowRunId observation.route) := rfl

variable {first second firstPreparation secondPreparation : Payload}
  {firstObserved secondObserved : CapacityObservation} {workflowRunId : String}

theorem capacityWindowPreparePayload_of_dict
    (hsource : first.get "llm_dispatch_preparation" = some (.dict firstPreparation)) :
    capacityWindowPreparePayload first workflowRunId firstObserved =
      first.update (wakeupEntriesWith workflowRunId firstObserved.route
        (capacityWindowDispatchPreparation firstPreparation firstObserved)) := by
  rw [capacityWindowPreparePayload_eq_match, get_update_wakeupEntries, hsource]

theorem capacityWindowPreparePayload_of_not_dict
    (hsource : ∀ preparation, first.get "llm_dispatch_preparation" ≠ some (.dict preparation)) :
    capacityWindowPreparePayload first workflowRunId firstObserved =
      first.update (wakeupEntries workflowRunId firstObserved.route) := by
  rw [capacityWindowPreparePayload_eq_match, get_update_wakeupEntries]
  split
  · next preparation hdict => exact absurd hdict (hsource preparation)
  · rfl

/-- The route is read off the payload. -/
theorem route_of_capacityWindowPreparePayload
    (h : capacityWindowPreparePayload first workflowRunId firstObserved =
      capacityWindowPreparePayload second workflowRunId secondObserved) :
    firstObserved.route = secondObserved.route := by
  have hroute : ∀ source observation,
      (capacityWindowPreparePayload source workflowRunId observation).get
          "capacity_window_provider" = some (.str observation.route.provider) ∧
        (capacityWindowPreparePayload source workflowRunId observation).get
          "capacity_window_provider_account_refs" =
            some (.list [.str observation.route.accountRef]) ∧
        (capacityWindowPreparePayload source workflowRunId observation).get
          "capacity_window_model_ref" = some (.str observation.route.modelRef) := by
    intro source observation
    rw [capacityWindowPreparePayload_eq_match]
    split
    · refine ⟨?_, ?_, ?_⟩ <;> exact Payload.get_foldl_set _ _ _
    · refine ⟨?_, ?_, ?_⟩ <;> exact Payload.get_foldl_set _ _ _
  obtain ⟨hprovider, haccount, hmodel⟩ := hroute first firstObserved
  obtain ⟨hprovider', haccount', hmodel'⟩ := hroute second secondObserved
  rw [h] at hprovider haccount hmodel
  have hproviderEq := Option.some.inj (hprovider.symm.trans hprovider')
  have haccountEq := Option.some.inj (haccount.symm.trans haccount')
  have hmodelEq := Option.some.inj (hmodel.symm.trans hmodel')
  simp only [PyValue.str.injEq] at hproviderEq hmodelEq
  simp only [PyValue.list.injEq, List.cons.injEq, PyValue.str.injEq, and_true] at haccountEq
  generalize firstObserved.route = firstRoute at *
  generalize secondObserved.route = secondRoute at *
  cases firstRoute
  cases secondRoute
  simp only at hproviderEq haccountEq hmodelEq
  rw [hproviderEq, haccountEq, hmodelEq]

/-! The entries of a wake-up. -/

theorem get_blanked_of_mem {keys : List String} {key : String} (h : key ∈ keys)
    (payload : Payload) : (blanked keys payload).get key = some .none := by
  unfold blanked Payload.update
  rw [Payload.get_foldl_set]
  have hfound : ((keys.map fun key => (key, PyValue.none)).reverse.find? fun entry =>
      entry.1 = key).isSome = true := by
    rw [List.find?_isSome]
    exact ⟨(key, .none), by simpa using h, by simp⟩
  obtain ⟨found, hfind⟩ := Option.isSome_iff_exists.mp hfound
  obtain ⟨name, _, rfl⟩ := List.mem_map.mp (List.mem_reverse.mp (List.mem_of_find?_eq_some hfind))
  rw [hfind]
  rfl

/-- Sorted payloads agree outside some keys exactly when they have the same values
under all others. -/
theorem blanked_eq_iff_get {keys : List String} (hfirst : first.Sorted) (hsecond : second.Sorted) :
    blanked keys first = blanked keys second ↔
      ∀ key, key ∉ keys → first.get key = second.get key := by
  have hother : ∀ (payload : Payload) (key : String), key ∉ keys →
      (blanked keys payload).get key = payload.get key := by
    intro payload key hkey
    apply Payload.get_update_of_notMem
    simpa using hkey
  constructor
  · intro h key hkey
    rw [← hother first key hkey, ← hother second key hkey, h]
  · intro h
    refine (hfirst.update _).eq_of_get (hsecond.update _) fun key => ?_
    by_cases hkey : key ∈ keys
    · exact (get_blanked_of_mem hkey first).trans (get_blanked_of_mem hkey second).symm
    · exact (hother first key hkey).trans ((h key hkey).trans (hother second key hkey).symm)

theorem get_overwriteIfObserved_self (entry : Payload) (key : String) (observed : Option Nat) :
    (overwriteIfObserved entry key observed).get key = amountOf entry key observed := by
  cases observed with
  | none => rfl
  | some value => exact Payload.get_set_self _ _ _

theorem get_overwriteIfObserved_of_ne (entry : Payload) {key other : String} (hne : key ≠ other)
    (observed : Option Nat) :
    (overwriteIfObserved entry key observed).get other = entry.get other := by
  cases observed with
  | none => rfl
  | some value => exact Payload.get_set_of_ne _ _ hne

theorem sorted_overwriteIfObserved {entry : Payload} (h : entry.Sorted) (key : String)
    (observed : Option Nat) : (overwriteIfObserved entry key observed).Sorted := by
  cases observed with
  | none => exact h
  | some value => exact h.set _ _

theorem sorted_observedAccountCapacity (entry : Payload) (observation : CapacityObservation) :
    (observedAccountCapacity entry observation).Sorted :=
  sorted_overwriteIfObserved (sorted_overwriteIfObserved
    (((Payload.sorted_ofEntries entry).set _ _).set _ _) _ _) _ _

/-- The amounts of an entry of the wake-up, and that all else is copied. -/
theorem observedAccountCapacity_get (entry : Payload) (observation : CapacityObservation) :
    (observedAccountCapacity entry observation).get "remaining_minute_requests" =
        some (.int (minuteRequestCapacityForWakeup observation.remainingMinuteRequests)) ∧
      (observedAccountCapacity entry observation).get "remaining_minute_tokens" =
        some (.int (minuteTokenCapacityForWakeup observation.remainingMinuteTokens
          observation.route.modelRef)) ∧
      (observedAccountCapacity entry observation).get "remaining_daily_requests" =
        (keptEntry observation entry).dailyRequests ∧
      (observedAccountCapacity entry observation).get "remaining_daily_tokens" =
        (keptEntry observation entry).dailyTokens ∧
      ∀ key, key ∉ amountKeys →
        (observedAccountCapacity entry observation).get key =
          (Payload.ofEntries entry).get key := by
  unfold observedAccountCapacity keptEntry
  dsimp only
  refine ⟨?_, ?_, ?_, ?_, ?_⟩
  · rw [get_overwriteIfObserved_of_ne _ (by decide), get_overwriteIfObserved_of_ne _ (by decide),
      Payload.get_set_of_ne _ _ (by decide), Payload.get_set_self]
  · rw [get_overwriteIfObserved_of_ne _ (by decide), get_overwriteIfObserved_of_ne _ (by decide),
      Payload.get_set_self]
  · rw [get_overwriteIfObserved_of_ne _ (by decide), get_overwriteIfObserved_self]
    unfold amountOf
    rw [Payload.get_set_of_ne _ _ (by decide), Payload.get_set_of_ne _ _ (by decide)]
  · rw [get_overwriteIfObserved_self]
    unfold amountOf
    rw [get_overwriteIfObserved_of_ne _ (by decide), Payload.get_set_of_ne _ _ (by decide),
      Payload.get_set_of_ne _ _ (by decide)]
  · intro key hkey
    simp only [amountKeys, List.mem_cons, List.not_mem_nil, or_false, not_or] at hkey
    obtain ⟨hminuteRequests, hminuteTokens, hdailyRequests, hdailyTokens⟩ := hkey
    rw [get_overwriteIfObserved_of_ne _ (Ne.symm hdailyTokens),
      get_overwriteIfObserved_of_ne _ (Ne.symm hdailyRequests),
      Payload.get_set_of_ne _ _ (Ne.symm hminuteTokens),
      Payload.get_set_of_ne _ _ (Ne.symm hminuteRequests)]

theorem minuteRequestCapacityForWakeup_eq (observed : Option Nat) :
    minuteRequestCapacityForWakeup observed = max 1 (observed.getD 1) := by
  cases observed <;> rfl

theorem minuteTokenCapacityForWakeup_eq (observed : Option Nat) (modelRef : String) :
    minuteTokenCapacityForWakeup observed modelRef =
      max 1 (observed.getD (fallbackMinuteTokenLimitForModel modelRef)) := by
  cases observed with
  | some value => rfl
  | none =>
    have hpos : 1 ≤ fallbackMinuteTokenLimitForModel modelRef := by
      unfold fallbackMinuteTokenLimitForModel
      split <;> omega
    exact (max_eq_right hpos).symm

/-- The minute amounts that two observations give the entries of their route. -/
def SameMinute (first second : CapacityObservation) : Prop :=
  max 1 (first.remainingMinuteRequests.getD 1) = max 1 (second.remainingMinuteRequests.getD 1) ∧
    max 1 (first.remainingMinuteTokens.getD
        (fallbackMinuteTokenLimitForModel first.route.modelRef)) =
      max 1 (second.remainingMinuteTokens.getD
        (fallbackMinuteTokenLimitForModel second.route.modelRef))

/-- Two entries become the same exactly when what is taken from them is the same. -/
theorem observedAccountCapacity_eq_iff {entry other : Payload} :
    observedAccountCapacity entry firstObserved = observedAccountCapacity other secondObserved ↔
      keptEntry firstObserved entry = keptEntry secondObserved other ∧
        SameMinute firstObserved secondObserved := by
  obtain ⟨hrequests, htokens, hdailyRequests, hdailyTokens, hothers⟩ :=
    observedAccountCapacity_get entry firstObserved
  obtain ⟨hrequests', htokens', hdailyRequests', hdailyTokens', hothers'⟩ :=
    observedAccountCapacity_get other secondObserved
  rw [minuteRequestCapacityForWakeup_eq] at hrequests hrequests'
  rw [minuteTokenCapacityForWakeup_eq] at htokens htokens'
  constructor
  · intro h
    have hkept : blanked amountKeys (Payload.ofEntries entry) =
        blanked amountKeys (Payload.ofEntries other) := by
      rw [blanked_eq_iff_get (Payload.sorted_ofEntries entry) (Payload.sorted_ofEntries other)]
      intro key hkey
      rw [← hothers key hkey, ← hothers' key hkey, h]
    rw [h] at hrequests htokens hdailyRequests hdailyTokens
    have hminute := PyValue.int.inj (Option.some.inj (hrequests.symm.trans hrequests'))
    have htoken := PyValue.int.inj (Option.some.inj (htokens.symm.trans htokens'))
    refine ⟨?_, by exact_mod_cast hminute, by exact_mod_cast htoken⟩
    have hdaily := hdailyRequests.symm.trans hdailyRequests'
    have hdailyToken := hdailyTokens.symm.trans hdailyTokens'
    unfold keptEntry at hdaily hdailyToken ⊢
    rw [KeptEntry.mk.injEq]
    exact ⟨hkept, hdaily, hdailyToken⟩
  · rintro ⟨hkept, hminute, htoken⟩
    refine (sorted_observedAccountCapacity entry firstObserved).eq_of_get
      (sorted_observedAccountCapacity other secondObserved) fun key => ?_
    by_cases hkey : key ∈ amountKeys
    · simp only [amountKeys, List.mem_cons, List.not_mem_nil, or_false] at hkey
      rcases hkey with rfl | rfl | rfl | rfl
      · rw [hrequests, hrequests', hminute]
      · rw [htokens, htokens', htoken]
      · rw [hdailyRequests, hdailyRequests', hkept]
      · rw [hdailyTokens, hdailyTokens', hkept]
    · have hblanked : blanked amountKeys (Payload.ofEntries entry) =
          blanked amountKeys (Payload.ofEntries other) := congrArg KeptEntry.kept hkept
      rw [blanked_eq_iff_get (Payload.sorted_ofEntries entry)
        (Payload.sorted_ofEntries other)] at hblanked
      rw [hothers key hkey, hothers' key hkey, hblanked key hkey]

/-- An unlisted route is as its entry without daily amounts. -/
theorem accountCapacityFromObservation_eq (observation : CapacityObservation) :
    accountCapacityFromObservation observation =
      observedAccountCapacity (unlistedEntry observation.route) observation := by
  refine (Payload.sorted_ofEntries _).eq_of_get (sorted_observedAccountCapacity _ _) fun key => ?_
  obtain ⟨hrequests, htokens, hdailyRequests, hdailyTokens, hothers⟩ :=
    observedAccountCapacity_get (unlistedEntry observation.route) observation
  by_cases hkey : key ∈ amountKeys
  · simp only [amountKeys, List.mem_cons, List.not_mem_nil, or_false] at hkey
    rcases hkey with rfl | rfl | rfl | rfl
    · rw [hrequests, Payload.get_ofEntries]
      rfl
    · rw [htokens, Payload.get_ofEntries]
      rfl
    · rw [hdailyRequests, Payload.get_ofEntries]
      unfold keptEntry amountOf
      dsimp only
      rw [Payload.get_ofEntries]
      cases observation.remainingDailyRequests <;> rfl
    · rw [hdailyTokens, Payload.get_ofEntries]
      unfold keptEntry amountOf
      dsimp only
      rw [Payload.get_ofEntries]
      cases observation.remainingDailyTokens <;> rfl
  · rw [hothers key hkey, Payload.get_ofEntries, Payload.get_ofEntries]
    simp only [amountKeys, List.mem_cons, List.not_mem_nil, or_false, not_or] at hkey
    obtain ⟨hminuteRequests, hminuteTokens, hdailyRequests, hdailyTokens⟩ := hkey
    unfold unlistedEntry
    by_cases hprovider : key = "provider"
    · rw [hprovider]
      rfl
    · simp [List.find?_cons, Ne.symm hminuteRequests, Ne.symm hminuteTokens, Ne.symm hdailyRequests,
        Ne.symm hdailyTokens, Ne.symm hprovider]

theorem capacityWindowAccountCapacities_eq (preparation : Payload)
    (observation : CapacityObservation) :
    capacityWindowAccountCapacities preparation observation =
      (routeEntries preparation observation.route).map
        fun entry => observedAccountCapacity entry observation := by
  have hdefault : ∀ {matched listed : List Payload},
      matched = listed.map (fun entry => observedAccountCapacity entry observation) →
        (if matched.isEmpty then [accountCapacityFromObservation observation] else matched) =
          (if listed.isEmpty then [unlistedEntry observation.route] else listed).map
            fun entry => observedAccountCapacity entry observation := by
    rintro _ listed rfl
    rw [List.isEmpty_map, accountCapacityFromObservation_eq]
    split <;> rfl
  unfold capacityWindowAccountCapacities routeEntries listedEntries
  cases preparation.get "account_capacities" with
  | none => exact @hdefault [] [] rfl
  | some value => cases value with
    | list items =>
      apply hdefault
      rw [List.map_filterMap]
      congr 1
      funext item
      cases item with
      | dict entry =>
        dsimp only
        split <;> rfl
      | _ => rfl
    | _ => exact @hdefault [] [] rfl

theorem routeEntries_ne_nil (preparation : Payload) (route : RouteKey) :
    routeEntries preparation route ≠ [] := by
  unfold routeEntries
  split
  · exact List.cons_ne_nil _ _
  · next hlisted => exact fun h => hlisted (List.isEmpty_iff.mpr h)

/-- The listed entries of the two sides become the same exactly when the same is
taken from them. -/
theorem map_observedAccountCapacity_eq_iff {entries others : List Payload} (hne : entries ≠ []) :
    entries.map (fun entry => observedAccountCapacity entry firstObserved) =
        others.map (fun entry => observedAccountCapacity entry secondObserved) ↔
      entries.map (keptEntry firstObserved) = others.map (keptEntry secondObserved) ∧
        SameMinute firstObserved secondObserved := by
  induction entries generalizing others with
  | nil => exact absurd rfl hne
  | cons entry rest ih => cases others with
    | nil => simp
    | cons other more =>
      simp only [List.map_cons, List.cons.injEq, observedAccountCapacity_eq_iff]
      cases rest with
      | nil => cases more <;> simp
      | cons next later =>
        have htail := @ih more (List.cons_ne_nil _ _)
        simp only [List.map_cons] at htail ⊢
        rw [htail]
        constructor
        · rintro ⟨⟨hentry, hminute⟩, hrest, _⟩
          exact ⟨⟨hentry, hrest⟩, hminute⟩
        · rintro ⟨⟨hentry, hrest⟩, hminute⟩
          exact ⟨⟨hentry, hminute⟩, hrest, hminute⟩

/-- Two preparations give the same entries exactly when the same is taken from them. -/
theorem capacityWindowAccountCapacities_eq_iff :
    capacityWindowAccountCapacities firstPreparation firstObserved =
        capacityWindowAccountCapacities secondPreparation secondObserved ↔
      (routeEntries firstPreparation firstObserved.route).map (keptEntry firstObserved) =
          (routeEntries secondPreparation secondObserved.route).map (keptEntry secondObserved) ∧
        SameMinute firstObserved secondObserved := by
  rw [capacityWindowAccountCapacities_eq, capacityWindowAccountCapacities_eq]
  exact map_observedAccountCapacity_eq_iff (routeEntries_ne_nil _ _)

/-- Two new preparations are the same exactly when the kept parts are. -/
theorem capacityWindowDispatchPreparation_eq_iff
    (hroute : firstObserved.route = secondObserved.route) :
    capacityWindowDispatchPreparation firstPreparation firstObserved =
        capacityWindowDispatchPreparation secondPreparation secondObserved ↔
      keptPreparation firstPreparation firstObserved =
        keptPreparation secondPreparation secondObserved := by
  have hupdate : ∀ preparation observation,
      capacityWindowDispatchPreparation preparation observation =
        preparation.update [("active_model_ref", .str observation.route.modelRef),
          ("account_capacities",
            .list ((capacityWindowAccountCapacities preparation observation).map .dict))] :=
    fun _ _ => rfl
  have hkept : keptPreparation firstPreparation firstObserved =
      keptPreparation secondPreparation secondObserved ↔
        blanked wakeupPreparationKeys firstPreparation =
            blanked wakeupPreparationKeys secondPreparation ∧
          capacityWindowAccountCapacities firstPreparation firstObserved =
            capacityWindowAccountCapacities secondPreparation secondObserved := by
    rw [capacityWindowAccountCapacities_eq_iff]
    unfold keptPreparation SameMinute
    rw [KeptPreparation.mk.injEq]
  rw [hkept]
  constructor
  · intro h
    have hcapacities : capacityWindowAccountCapacities firstPreparation firstObserved =
        capacityWindowAccountCapacities secondPreparation secondObserved := by
      have hget := congrArg (fun whole => Payload.get whole "account_capacities") h
      simp only [capacityWindowDispatchPreparation, Payload.get_set_self, Option.some.injEq,
        PyValue.list.injEq] at hget
      exact List.map_injective_iff.mpr (fun _ _ heq => PyValue.dict.inj heq) hget
    rw [hupdate, hupdate, hroute, hcapacities,
      update_eq_iff_blanked wakeupPreparationKeys rfl (by decide)] at h
    exact ⟨h, hcapacities⟩
  · rintro ⟨hblanked, hcapacities⟩
    rw [hupdate, hupdate, hroute, hcapacities,
      update_eq_iff_blanked wakeupPreparationKeys rfl (by decide)]
    exact hblanked

theorem blanked_eq_iff_wakeupEntries (route : RouteKey) :
    first.update (wakeupEntries workflowRunId route) =
        second.update (wakeupEntries workflowRunId route) ↔
      blanked wakeupKeys first = blanked wakeupKeys second :=
  update_eq_iff_blanked wakeupKeys rfl (by decide)

theorem blanked_eq_iff_wakeupEntriesWith (route : RouteKey) (preparation : Payload) :
    first.update (wakeupEntriesWith workflowRunId route preparation) =
        second.update (wakeupEntriesWith workflowRunId route preparation) ↔
      blanked (wakeupKeys ++ ["llm_dispatch_preparation"]) first =
        blanked (wakeupKeys ++ ["llm_dispatch_preparation"]) second :=
  update_eq_iff_blanked _ rfl (by decide)

theorem get_update_wakeupEntriesWith (source : Payload) (route : RouteKey)
    (preparation : Payload) :
    (source.update (wakeupEntriesWith workflowRunId route preparation)).get
      "llm_dispatch_preparation" = some (.dict preparation) :=
  Payload.get_foldl_set _ _ _

theorem wakeupContext_of_dict
    (hsource : first.get "llm_dispatch_preparation" = some (.dict firstPreparation)) :
    wakeupContext first firstObserved = .wakeup firstObserved.route
      (blanked (wakeupKeys ++ ["llm_dispatch_preparation"]) first)
      (some (keptPreparation firstPreparation firstObserved)) := by
  unfold wakeupContext
  rw [hsource]

theorem wakeupContext_of_not_dict
    (hsource : ∀ preparation, first.get "llm_dispatch_preparation" ≠ some (.dict preparation)) :
    wakeupContext first firstObserved =
      .wakeup firstObserved.route (blanked wakeupKeys first) none := by
  unfold wakeupContext
  split
  · next preparation hdict => exact absurd hdict (hsource preparation)
  · rfl

/-- The wake-up payload of a source without a dispatch preparation is not that of
a source with one. -/
theorem capacityWindowPreparePayload_ne
    (hfirst : first.get "llm_dispatch_preparation" = some (.dict firstPreparation))
    (hsecond : ∀ preparation, second.get "llm_dispatch_preparation" ≠ some (.dict preparation)) :
    capacityWindowPreparePayload first workflowRunId firstObserved ≠
      capacityWindowPreparePayload second workflowRunId secondObserved := by
  intro h
  rw [capacityWindowPreparePayload_of_dict hfirst,
    capacityWindowPreparePayload_of_not_dict hsecond] at h
  have hget := congrArg (fun whole => Payload.get whole "llm_dispatch_preparation") h
  rw [get_update_wakeupEntriesWith, get_update_wakeupEntries] at hget
  exact hsecond _ hget.symm

/-- Two wake-ups of one run have the same payload exactly when they have the same
context. -/
theorem wakeupPayload_eq_iff :
    capacityWindowPreparePayload first workflowRunId firstObserved =
        capacityWindowPreparePayload second workflowRunId secondObserved ↔
      wakeupContext first firstObserved = wakeupContext second secondObserved := by
  by_cases hfirst : ∃ preparation, first.get "llm_dispatch_preparation" = some (.dict preparation)
  · obtain ⟨firstPreparation, hfirst⟩ := hfirst
    by_cases hsecond : ∃ preparation,
        second.get "llm_dispatch_preparation" = some (.dict preparation)
    · obtain ⟨secondPreparation, hsecond⟩ := hsecond
      rw [wakeupContext_of_dict hfirst, wakeupContext_of_dict hsecond]
      simp only [CommandContext.wakeup.injEq, Option.some.injEq]
      constructor
      · intro h
        have hroute := route_of_capacityWindowPreparePayload h
        rw [capacityWindowPreparePayload_of_dict hfirst,
          capacityWindowPreparePayload_of_dict hsecond] at h
        have hget := congrArg (fun whole => Payload.get whole "llm_dispatch_preparation") h
        rw [get_update_wakeupEntriesWith, get_update_wakeupEntriesWith, Option.some.injEq,
          PyValue.dict.injEq] at hget
        rw [hroute, hget, blanked_eq_iff_wakeupEntriesWith] at h
        exact ⟨hroute, h, (capacityWindowDispatchPreparation_eq_iff hroute).mp hget⟩
      · rintro ⟨hroute, hkept, hpreparation⟩
        rw [capacityWindowPreparePayload_of_dict hfirst,
          capacityWindowPreparePayload_of_dict hsecond, hroute,
          (capacityWindowDispatchPreparation_eq_iff hroute).mpr hpreparation,
          blanked_eq_iff_wakeupEntriesWith]
        exact hkept
    · rw [not_exists] at hsecond
      refine ⟨fun h => absurd h (capacityWindowPreparePayload_ne hfirst hsecond), fun h => ?_⟩
      rw [wakeupContext_of_dict hfirst, wakeupContext_of_not_dict hsecond] at h
      simp at h
  · rw [not_exists] at hfirst
    by_cases hsecond : ∃ preparation,
        second.get "llm_dispatch_preparation" = some (.dict preparation)
    · obtain ⟨secondPreparation, hsecond⟩ := hsecond
      refine ⟨fun h => absurd h.symm (capacityWindowPreparePayload_ne hsecond hfirst), fun h => ?_⟩
      rw [wakeupContext_of_not_dict hfirst, wakeupContext_of_dict hsecond] at h
      simp at h
    · rw [not_exists] at hsecond
      rw [wakeupContext_of_not_dict hfirst, wakeupContext_of_not_dict hsecond]
      simp only [CommandContext.wakeup.injEq, and_true]
      constructor
      · intro h
        have hroute := route_of_capacityWindowPreparePayload h
        rw [capacityWindowPreparePayload_of_not_dict hfirst,
          capacityWindowPreparePayload_of_not_dict hsecond, hroute,
          blanked_eq_iff_wakeupEntries] at h
        exact ⟨hroute, h⟩
      · rintro ⟨hroute, hkept⟩
        rw [capacityWindowPreparePayload_of_not_dict hfirst,
          capacityWindowPreparePayload_of_not_dict hsecond, hroute, blanked_eq_iff_wakeupEntries]
        exact hkept

/-! The payloads of the other commands. -/

/-- The payload of a drain trigger. -/
def drainTriggerPayload (workflowRunId sourceDocumentRef : String)
    (window : String × String × String) (preparation : Payload) (maxItems : Nat)
    (contextPayload : List (String × PyValue)) : Payload :=
  Payload.ofEntries ([("workflow_run_id", .str workflowRunId), ("provider", .str window.1),
    ("model_ref", .str window.2.1), ("account_ref", .str window.2.2),
    ("worker_ref", .str "claim-builder-capacity-drain"), ("max_items", .int maxItems),
    ("llm_dispatch_preparation", .dict preparation),
    ("source_document_ref", .str sourceDocumentRef)] ++ contextPayload)

/-- What a reconcile adds to the payload. -/
def reconcileEntries (reconcileCommandId : String) (decision : ProgressDecision)
    (scheduledCount : Nat) (plan : Option String) : List (String × PyValue) :=
  [("trigger", .str "claim_builder_progress_reconcile"),
    ("reconcile_command_id", .str reconcileCommandId),
    ("reconcile_decision", .str decision.value),
    ("scheduled_work_item_count", .int scheduledCount)] ++ planEntries plan

/-- The dispatch preparation of a schedule command. -/
def scheduledPreparation (providerAccountRefs : List String) (scheduledCount : Nat) : Payload :=
  plannedPreparation scheduledCount
    (providerAccountRefs.map fun accountRef => .dict (freePlanEntry accountRef))

def preparePayload (workflowRunId : String) (scheduledCount : Nat) (plan : Option String)
    (preparation : List (String × PyValue)) : Payload :=
  Payload.ofEntries ([("workflow_run_id", .str workflowRunId),
    ("work_kind", .str claimBuilderSectionWorkKind),
    ("scheduled_work_item_count", .int scheduledCount)] ++ planEntries plan ++ preparation)

theorem ProgressDecision.value_injective : Function.Injective ProgressDecision.value := by
  intro first second h
  cases first <;> cases second <;> first | rfl | exact absurd h (by decide)

/-- The optional plan, as the payloads name it. -/
theorem map_str_injective : Function.Injective (Option.map PyValue.str) :=
  Option.map_injective fun _ _ h => PyValue.str.inj h

theorem drainTriggerPayload_get (workflowRunId sourceDocumentRef : String)
    (window : String × String × String) (preparation : Payload) (maxItems : Nat)
    (reconcileCommandId : String) (decision : ProgressDecision) (scheduledCount : Nat)
    (plan : Option String) :
    let payload := drainTriggerPayload workflowRunId sourceDocumentRef window preparation maxItems
      (reconcileEntries reconcileCommandId decision scheduledCount plan)
    payload.get "source_document_ref" = some (.str sourceDocumentRef) ∧
      payload.get "llm_dispatch_preparation" = some (.dict preparation) ∧
      payload.get "reconcile_command_id" = some (.str reconcileCommandId) ∧
      payload.get "reconcile_decision" = some (.str decision.value) ∧
      payload.get "scheduled_work_item_count" = some (.int scheduledCount) ∧
      payload.get "retry_plan" = plan.map .str := by
  unfold drainTriggerPayload reconcileEntries
  simp only [Payload.get_ofEntries]
  cases plan with
  | none => exact ⟨rfl, rfl, rfl, rfl, rfl, rfl⟩
  | some plan => exact ⟨rfl, rfl, rfl, rfl, rfl, rfl⟩

/-- Everything that enters the drain trigger of a reconcile can be read off its payload. -/
theorem drainTriggerPayload_inj {ref ref' : String} {window window' : String × String × String}
    {preparation preparation' : Payload} {maxItems maxItems' : Nat} {commandId commandId' : String}
    {decision decision' : ProgressDecision} {count count' : Nat} {plan plan' : Option String}
    (h : drainTriggerPayload workflowRunId ref window preparation maxItems
        (reconcileEntries commandId decision count plan) =
      drainTriggerPayload workflowRunId ref' window' preparation' maxItems'
        (reconcileEntries commandId' decision' count' plan')) :
    ref = ref' ∧ preparation = preparation' ∧ commandId = commandId' ∧ decision = decision' ∧
      count = count' ∧ plan = plan' := by
  obtain ⟨href, hpreparation, hcommand, hdecision, hcount, hplan⟩ :=
    drainTriggerPayload_get workflowRunId ref window preparation maxItems commandId decision count
      plan
  obtain ⟨href', hpreparation', hcommand', hdecision', hcount', hplan'⟩ :=
    drainTriggerPayload_get workflowRunId ref' window' preparation' maxItems' commandId' decision'
      count' plan'
  rw [h] at href hpreparation hcommand hdecision hcount hplan
  refine ⟨?_, ?_, ?_, ?_, ?_, ?_⟩
  · exact PyValue.str.inj (Option.some.inj (href.symm.trans href'))
  · exact PyValue.dict.inj (Option.some.inj (hpreparation.symm.trans hpreparation'))
  · exact PyValue.str.inj (Option.some.inj (hcommand.symm.trans hcommand'))
  · apply ProgressDecision.value_injective
    exact PyValue.str.inj (Option.some.inj (hdecision.symm.trans hdecision'))
  · have hint := PyValue.int.inj (Option.some.inj (hcount.symm.trans hcount'))
    exact_mod_cast hint
  · exact map_str_injective (hplan.symm.trans hplan')

/-- A trigger of the schedule handler names no reconcile. -/
theorem drainTriggerPayload_get_nil (workflowRunId sourceDocumentRef : String)
    (window : String × String × String) (preparation : Payload) (maxItems : Nat) :
    let payload :=
      drainTriggerPayload workflowRunId sourceDocumentRef window preparation maxItems []
    payload.get "source_document_ref" = some (.str sourceDocumentRef) ∧
      payload.get "llm_dispatch_preparation" = some (.dict preparation) ∧
      payload.get "reconcile_command_id" = none := by
  unfold drainTriggerPayload
  simp only [Payload.get_ofEntries]
  exact ⟨rfl, rfl, rfl⟩

/-- An entry of the free plan names its account. -/
theorem freePlanEntry_injective : Function.Injective freePlanEntry := by
  have hname : ∀ accountRef, (freePlanEntry accountRef).get "account_ref" =
      some (.str accountRef) := by
    intro accountRef
    unfold freePlanEntry
    rw [Payload.get_ofEntries]
    rfl
  intro first second h
  have hsame := (hname first).symm.trans ((congrArg (Payload.get · "account_ref") h).trans
    (hname second))
  exact PyValue.str.inj (Option.some.inj hsame)

theorem scheduledPreparation_get (refs : List String) (count : Nat) :
    (scheduledPreparation refs count).get "account_capacities" =
        some (.list (refs.map fun accountRef => .dict (freePlanEntry accountRef))) ∧
      (scheduledPreparation refs count).get "requested_items" = some (.int count) := by
  unfold scheduledPreparation plannedPreparation
  simp only [Payload.get_ofEntries]
  exact ⟨rfl, rfl⟩

/-- The accounts and the count of a schedule command can be read off its preparation. -/
theorem scheduledPreparation_inj {refs refs' : List String} {count count' : Nat}
    (h : scheduledPreparation refs count = scheduledPreparation refs' count') :
    refs = refs' ∧ count = count' := by
  obtain ⟨haccounts, hcount⟩ := scheduledPreparation_get refs count
  obtain ⟨haccounts', hcount'⟩ := scheduledPreparation_get refs' count'
  rw [h] at haccounts hcount
  have hlist := PyValue.list.inj (Option.some.inj (haccounts.symm.trans haccounts'))
  have hint := PyValue.int.inj (Option.some.inj (hcount.symm.trans hcount'))
  refine ⟨List.map_injective_iff.mpr ?_ hlist, by exact_mod_cast hint⟩
  exact fun first second hentries => freePlanEntry_injective (PyValue.dict.inj hentries)

variable {command built : WorkflowCommand} {decision : ProgressDecision}
  {summary : WorkItemProgressSummary} {plan : Option String} {runAfter occurredAt : Int}
  {suffix : String}

theorem buildCapacityDrainTriggerCommand_eq_ok {ref : String} {preparation : Payload}
    {maxItems : Nat} {contextPayload : List (String × PyValue)}
    (h : buildCapacityDrainTriggerCommand workflowRunId ref preparation maxItems contextPayload
      runAfter occurredAt = .ok built) :
    ∃ window, firstCapacityWindow preparation = .ok window ∧
      built = pendingCommand triggerClaimBuilderCapacityDrain workflowRunId
        ("trigger-claim-builder-capacity-drain:" ++ workflowRunId ++ ":" ++ ref ++ ":" ++
          window.1 ++ ":" ++ window.2.1 ++ ":" ++ window.2.2)
        (drainTriggerPayload workflowRunId ref window preparation maxItems contextPayload) runAfter
        occurredAt := by
  obtain ⟨window, hwindow, h⟩ := bind_eq_ok.mp h
  cases h
  exact ⟨window, hwindow, rfl⟩

theorem capacityDrainTriggerCommand_eq_ok
    (h : capacityDrainTriggerCommand command workflowRunId decision summary plan runAfter
      occurredAt = .ok built) :
    ∃ ref preparation, sourceDocumentRef command workflowRunId = .ok ref ∧
      command.payload.get "llm_dispatch_preparation" = some (.dict preparation) ∧
      buildCapacityDrainTriggerCommand workflowRunId ref preparation (max 1 summary.totalCount)
        (reconcileEntries command.commandId decision summary.totalCount plan) runAfter
        occurredAt = .ok built := by
  unfold capacityDrainTriggerCommand at h
  split at h
  · next preparation hpreparation =>
    obtain ⟨ref, href, h⟩ := bind_eq_ok.mp h
    exact ⟨ref, preparation, href, hpreparation, h⟩
  · cases h

theorem scheduleDrainTriggerCommand_eq_ok {ref : String} {providerAccountRefs : List String}
    {scheduledCount : Nat}
    (h : scheduleDrainTriggerCommand workflowRunId ref providerAccountRefs scheduledCount
      occurredAt = .ok built) :
    buildCapacityDrainTriggerCommand workflowRunId ref
      (scheduledPreparation providerAccountRefs scheduledCount) scheduledCount [] occurredAt
      occurredAt = .ok built := by
  obtain ⟨preparation, hpreparation, h⟩ := bind_eq_ok.mp h
  unfold dispatchPreparationPayload at hpreparation
  split at hpreparation
  · cases hpreparation
  · obtain ⟨accounts, haccounts, hpreparation⟩ := bind_eq_ok.mp hpreparation
    unfold freePlanEntries at haccounts
    split at haccounts
    · cases haccounts
    · cases haccounts
      cases hpreparation
      exact h

/-- The entry of a copied preparation. -/
def preparationEntry (preparation : Option PyValue) : List (String × PyValue) :=
  (preparation.map fun value => ("llm_dispatch_preparation", value)).toList

/-- The copied preparation, as the context has it. -/
theorem copiedPreparation_eq_ok {preparation : List (String × PyValue)}
    (h : copiedPreparation command = .ok preparation) :
    preparation = preparationEntry (payloadGet command.payload "llm_dispatch_preparation") := by
  unfold copiedPreparation at h
  split at h
  · next hnone =>
    cases h
    rw [hnone]
    rfl
  · next entries hdict =>
    cases h
    rw [hdict]
    rfl
  · cases h

theorem prepareDispatchBatchCommand_eq_ok
    (h : prepareDispatchBatchCommand command workflowRunId summary plan runAfter occurredAt suffix =
      .ok built) :
    built = pendingCommand prepareClaimBuilderDispatchBatch workflowRunId
      ("prepare-claim-builder-dispatch-batch:" ++ workflowRunId ++ ":" ++ suffix)
      (preparePayload workflowRunId summary.totalCount plan
        (preparationEntry (payloadGet command.payload "llm_dispatch_preparation")))
      runAfter occurredAt := by
  obtain ⟨preparation, hpreparation, h⟩ := bind_eq_ok.mp h
  cases h
  rw [← copiedPreparation_eq_ok hpreparation]
  rfl

theorem preparePayload_get (workflowRunId : String) (scheduledCount : Nat) (plan : Option String)
    (preparation : Option PyValue) :
    let payload :=
      preparePayload workflowRunId scheduledCount plan (preparationEntry preparation)
    payload.get "llm_dispatch_preparation" = preparation ∧
      payload.get "scheduled_work_item_count" = some (.int scheduledCount) ∧
      payload.get "retry_plan" = plan.map .str := by
  unfold preparePayload preparationEntry
  simp only [Payload.get_ofEntries]
  cases plan with
  | none => cases preparation <;> exact ⟨rfl, rfl, rfl⟩
  | some plan => cases preparation <;> exact ⟨rfl, rfl, rfl⟩

theorem preparePayload_inj {count count' : Nat} {plan plan' : Option String}
    {preparation preparation' : Option PyValue}
    (h : preparePayload workflowRunId count plan (preparationEntry preparation) =
      preparePayload workflowRunId count' plan' (preparationEntry preparation')) :
    preparation = preparation' ∧ count = count' ∧ plan = plan' := by
  obtain ⟨hpreparation, hcount, hplan⟩ :=
    preparePayload_get workflowRunId count plan preparation
  obtain ⟨hpreparation', hcount', hplan'⟩ :=
    preparePayload_get workflowRunId count' plan' preparation'
  rw [h] at hpreparation hcount hplan
  have hint := PyValue.int.inj (Option.some.inj (hcount.symm.trans hcount'))
  refine ⟨hpreparation.symm.trans hpreparation', ?_, ?_⟩
  · exact_mod_cast hint
  · exact map_str_injective (hplan.symm.trans hplan')

/-! Two builds. -/

/-- The builder of a build. -/
inductive BuilderName
  | wakeup
  | trigger
  | prepare
  deriving DecidableEq

def KeyedBuild.builder : KeyedBuild → BuilderName
  | .wakeup .. => .wakeup
  | .trigger .. | .scheduled .. => .trigger
  | .prepare .. => .prepare

def KeyedBuild.run : KeyedBuild → String
  | .wakeup _ workflowRunId .. | .trigger _ workflowRunId ..
  | .scheduled workflowRunId .. | .prepare _ workflowRunId .. => workflowRunId

/-- How the keys of a builder begin. -/
def BuilderName.front : BuilderName → String
  | .wakeup => "capacity-window-prepare:"
  | .trigger => "trigger-claim-builder-capacity-drain:"
  | .prepare => "prepare-claim-builder-dispatch-batch:"

/-- The keys of two builders never meet. -/
theorem BuilderName.front_diverge {first second : BuilderName} (hne : first ≠ second) :
    Diverge first.front second.front := by
  cases first with
  | wakeup => cases second with
    | wakeup => exact absurd rfl hne
    | trigger | prepare => decide
  | trigger => cases second with
    | trigger => exact absurd rfl hne
    | wakeup | prepare => decide
  | prepare => cases second with
    | prepare => exact absurd rfl hne
    | wakeup | trigger => decide

theorem front_self (front : String) : ∃ rest, front = front ++ rest :=
  ⟨"", String.append_empty.symm⟩

/-- A longer joined key begins as the shorter one does. -/
theorem front_append {front key : String} (h : ∃ rest, key = front ++ rest) (more : String) :
    ∃ rest, key ++ more = front ++ rest := by
  obtain ⟨rest, rfl⟩ := h
  exact ⟨rest ++ more, String.append_assoc⟩

theorem KeyedBuild.built_key {build : KeyedBuild} (h : build.built = .ok built) :
    ∃ rest, built.idempotencyKey = build.builder.front ++ rest := by
  cases build with
  | wakeup source run observation runAfter occurredAt =>
    cases h
    repeat apply front_append
    exact front_self _
  | trigger command run decision summary plan runAfter occurredAt =>
    obtain ⟨_, _, _, _, hbuilt⟩ := capacityDrainTriggerCommand_eq_ok h
    obtain ⟨_, _, rfl⟩ := buildCapacityDrainTriggerCommand_eq_ok hbuilt
    repeat apply front_append
    exact front_self _
  | scheduled run ref refs count occurredAt =>
    obtain ⟨_, _, rfl⟩ :=
      buildCapacityDrainTriggerCommand_eq_ok (scheduleDrainTriggerCommand_eq_ok h)
    repeat apply front_append
    exact front_self _
  | prepare command run summary plan runAfter occurredAt suffix =>
    obtain rfl := prepareDispatchBatchCommand_eq_ok h
    repeat apply front_append
    exact front_self _

/-- Two commands are one to the command log. -/
def SameCommand (first second : WorkflowCommand) : Prop :=
  first.commandType = second.commandType ∧ first.payload = second.payload

theorem sameCommand_pendingCommand_iff {commandType firstRun secondRun firstKey secondKey : String}
    {first second : Payload} {firstAfter secondAfter firstAt secondAt : Int} :
    SameCommand (pendingCommand commandType firstRun firstKey first firstAfter firstAt)
        (pendingCommand commandType secondRun secondKey second secondAfter secondAt) ↔
      first = second :=
  ⟨fun h => h.2, fun h => ⟨rfl, h⟩⟩

section Pairs

variable {firstBuild secondBuild : KeyedBuild} {firstBuilt secondBuilt : WorkflowCommand}

theorem builder_eq_of_key (hfirst : firstBuild.built = .ok firstBuilt)
    (hsecond : secondBuild.built = .ok secondBuilt)
    (hkey : firstBuilt.idempotencyKey = secondBuilt.idempotencyKey) :
    firstBuild.builder = secondBuild.builder := by
  by_contra hne
  obtain ⟨rest, hrest⟩ := KeyedBuild.built_key hfirst
  obtain ⟨other, hother⟩ := KeyedBuild.built_key hsecond
  rw [hrest, hother] at hkey
  exact (BuilderName.front_diverge hne).append_ne rest other hkey

theorem trigger_sameCommand_iff {first second : WorkflowCommand}
    {firstDecision secondDecision : ProgressDecision}
    {firstSummary secondSummary : WorkItemProgressSummary} {firstPlan secondPlan : Option String}
    {run : String} {firstAfter secondAfter firstAt secondAt : Int}
    (hfirst : capacityDrainTriggerCommand first run firstDecision firstSummary firstPlan firstAfter
      firstAt = .ok firstBuilt)
    (hsecond : capacityDrainTriggerCommand second run secondDecision secondSummary secondPlan
      secondAfter secondAt = .ok secondBuilt) :
    SameCommand firstBuilt secondBuilt ↔
      (KeyedBuild.trigger first run firstDecision firstSummary firstPlan firstAfter
          firstAt).context =
        (KeyedBuild.trigger second run secondDecision secondSummary secondPlan secondAfter
          secondAt).context := by
  obtain ⟨ref, preparation, href, hpreparation, hbuilt⟩ := capacityDrainTriggerCommand_eq_ok hfirst
  obtain ⟨ref', preparation', href', hpreparation', hbuilt'⟩ :=
    capacityDrainTriggerCommand_eq_ok hsecond
  obtain ⟨window, hwindow, rfl⟩ := buildCapacityDrainTriggerCommand_eq_ok hbuilt
  obtain ⟨window', hwindow', rfl⟩ := buildCapacityDrainTriggerCommand_eq_ok hbuilt'
  simp only [KeyedBuild.context, href, hpreparation, href', hpreparation',
    CommandContext.trigger.injEq, Except.ok.injEq, Option.some.injEq, PyValue.dict.injEq]
  rw [sameCommand_pendingCommand_iff]
  constructor
  · intro h
    obtain ⟨rfl, rfl, hcommand, rfl, htotal, rfl⟩ := drainTriggerPayload_inj h
    exact ⟨rfl, rfl, hcommand, rfl, htotal, rfl⟩
  · rintro ⟨rfl, rfl, hcommand, rfl, htotal, rfl⟩
    obtain rfl : window = window' := Except.ok.inj (hwindow.symm.trans hwindow')
    rw [hcommand, htotal]

theorem scheduled_sameCommand_iff {run ref ref' : String} {refs refs' : List String}
    {count count' : Nat} {firstAt secondAt : Int}
    (hfirst : scheduleDrainTriggerCommand run ref refs count firstAt = .ok firstBuilt)
    (hsecond : scheduleDrainTriggerCommand run ref' refs' count' secondAt = .ok secondBuilt) :
    SameCommand firstBuilt secondBuilt ↔
      (KeyedBuild.scheduled run ref refs count firstAt).context =
        (KeyedBuild.scheduled run ref' refs' count' secondAt).context := by
  obtain ⟨window, hwindow, rfl⟩ :=
    buildCapacityDrainTriggerCommand_eq_ok (scheduleDrainTriggerCommand_eq_ok hfirst)
  obtain ⟨window', hwindow', rfl⟩ :=
    buildCapacityDrainTriggerCommand_eq_ok (scheduleDrainTriggerCommand_eq_ok hsecond)
  simp only [KeyedBuild.context, CommandContext.scheduled.injEq]
  rw [sameCommand_pendingCommand_iff]
  constructor
  · intro h
    obtain ⟨href, hpreparation, _⟩ :=
      drainTriggerPayload_get_nil run ref window (scheduledPreparation refs count) count
    obtain ⟨href', hpreparation', _⟩ :=
      drainTriggerPayload_get_nil run ref' window' (scheduledPreparation refs' count') count'
    rw [h] at href hpreparation
    have hsame := PyValue.dict.inj (Option.some.inj (hpreparation.symm.trans hpreparation'))
    exact ⟨PyValue.str.inj (Option.some.inj (href.symm.trans href')),
      scheduledPreparation_inj hsame⟩
  · rintro ⟨rfl, rfl, rfl⟩
    obtain rfl : window = window' := Except.ok.inj (hwindow.symm.trans hwindow')
    rfl

/-- A reconcile and the schedule handler never build the same trigger. -/
theorem not_sameCommand_of_scheduled {second : WorkflowCommand} {decision : ProgressDecision}
    {summary : WorkItemProgressSummary} {plan : Option String} {run ref : String}
    {refs : List String} {count : Nat} {firstAt runAfter secondAt : Int}
    (hfirst : scheduleDrainTriggerCommand run ref refs count firstAt = .ok firstBuilt)
    (hsecond : capacityDrainTriggerCommand second run decision summary plan runAfter secondAt =
      .ok secondBuilt) : ¬ SameCommand firstBuilt secondBuilt := by
  obtain ⟨window, _, rfl⟩ :=
    buildCapacityDrainTriggerCommand_eq_ok (scheduleDrainTriggerCommand_eq_ok hfirst)
  obtain ⟨ref', preparation, _, _, hbuilt⟩ := capacityDrainTriggerCommand_eq_ok hsecond
  obtain ⟨window', _, rfl⟩ := buildCapacityDrainTriggerCommand_eq_ok hbuilt
  rw [sameCommand_pendingCommand_iff]
  intro h
  obtain ⟨_, _, hnone⟩ := drainTriggerPayload_get_nil run ref window
    (scheduledPreparation refs count) count
  obtain ⟨_, _, hcommand, _⟩ := drainTriggerPayload_get run ref' window' preparation
    (max 1 summary.totalCount) second.commandId decision summary.totalCount plan
  rw [h] at hnone
  exact absurd (hcommand.symm.trans hnone) (Option.some_ne_none _)

theorem prepare_sameCommand_iff {first second : WorkflowCommand}
    {firstSummary secondSummary : WorkItemProgressSummary} {firstPlan secondPlan : Option String}
    {run firstSuffix secondSuffix : String} {firstAfter secondAfter firstAt secondAt : Int}
    (hfirst : prepareDispatchBatchCommand first run firstSummary firstPlan firstAfter firstAt
      firstSuffix = .ok firstBuilt)
    (hsecond : prepareDispatchBatchCommand second run secondSummary secondPlan secondAfter secondAt
      secondSuffix = .ok secondBuilt) :
    SameCommand firstBuilt secondBuilt ↔
      (KeyedBuild.prepare first run firstSummary firstPlan firstAfter firstAt
          firstSuffix).context =
        (KeyedBuild.prepare second run secondSummary secondPlan secondAfter secondAt
          secondSuffix).context := by
  rw [prepareDispatchBatchCommand_eq_ok hfirst, prepareDispatchBatchCommand_eq_ok hsecond,
    sameCommand_pendingCommand_iff]
  simp only [KeyedBuild.context, CommandContext.prepare.injEq]
  constructor
  · exact preparePayload_inj
  · rintro ⟨hpreparation, htotal, rfl⟩
    rw [hpreparation, htotal]

theorem wakeup_sameCommand_iff {first second : WorkflowCommand} {run : String}
    {firstObserved secondObserved : CapacityObservation}
    {firstAfter secondAfter firstAt secondAt : Int} :
    SameCommand
        (capacityWindowPrepareCommand first run prepareClaimBuilderDispatchBatch firstObserved
          firstAfter firstAt)
        (capacityWindowPrepareCommand second run prepareClaimBuilderDispatchBatch secondObserved
          secondAfter secondAt) ↔
      (KeyedBuild.wakeup first run firstObserved firstAfter firstAt).context =
        (KeyedBuild.wakeup second run secondObserved secondAfter secondAt).context := by
  have hpayload : capacityWindowPreparePayload first.payload run firstObserved =
      capacityWindowPreparePayload second.payload run secondObserved ↔
        wakeupContext first.payload firstObserved = wakeupContext second.payload secondObserved :=
    wakeupPayload_eq_iff
  exact ⟨fun h => hpayload.mp h.2, fun h => ⟨rfl, hpayload.mpr h⟩⟩

theorem KeyedBuild.built_run {build : KeyedBuild} {built : WorkflowCommand}
    (h : build.built = .ok built) : built.workflowRunId = build.run := by
  cases build with
  | wakeup source run observation runAfter occurredAt =>
    cases h
    rfl
  | trigger command run decision summary plan runAfter occurredAt =>
    obtain ⟨_, _, _, _, hbuilt⟩ := capacityDrainTriggerCommand_eq_ok h
    obtain ⟨_, _, rfl⟩ := buildCapacityDrainTriggerCommand_eq_ok hbuilt
    rfl
  | scheduled run ref refs count occurredAt =>
    obtain ⟨_, _, rfl⟩ :=
      buildCapacityDrainTriggerCommand_eq_ok (scheduleDrainTriggerCommand_eq_ok h)
    rfl
  | prepare command run summary plan runAfter occurredAt suffix =>
    obtain rfl := prepareDispatchBatchCommand_eq_ok h
    rfl

/-- Two commands of one run under one key are one command exactly when their
contexts are the same. -/
theorem sameCommand_iff_context (hfirst : firstBuild.built = .ok firstBuilt)
    (hsecond : secondBuild.built = .ok secondBuilt)
    (hrun : firstBuilt.workflowRunId = secondBuilt.workflowRunId)
    (hkey : firstBuilt.idempotencyKey = secondBuilt.idempotencyKey) :
    SameCommand firstBuilt secondBuilt ↔ firstBuild.context = secondBuild.context := by
  have hbuilder := builder_eq_of_key hfirst hsecond hkey
  rw [KeyedBuild.built_run hfirst, KeyedBuild.built_run hsecond] at hrun
  cases firstBuild with
  | wakeup first run firstObserved firstAfter firstAt => cases secondBuild with
    | wakeup second secondRun secondObserved secondAfter secondAt =>
      obtain rfl : run = secondRun := hrun
      cases hfirst
      cases hsecond
      exact wakeup_sameCommand_iff
    | trigger | scheduled | prepare => cases hbuilder
  | trigger first run firstDecision firstSummary firstPlan firstAfter firstAt =>
    cases secondBuild with
    | trigger second secondRun secondDecision secondSummary secondPlan secondAfter secondAt =>
      obtain rfl : run = secondRun := hrun
      exact trigger_sameCommand_iff hfirst hsecond
    | scheduled secondRun ref refs count secondAt =>
      obtain rfl : run = secondRun := hrun
      constructor
      · intro h
        exact absurd ⟨h.1.symm, h.2.symm⟩ (not_sameCommand_of_scheduled hsecond hfirst)
      · intro h
        cases h
    | wakeup | prepare => cases hbuilder
  | scheduled run ref refs count firstAt =>
    cases secondBuild with
    | scheduled secondRun ref' refs' count' secondAt =>
      obtain rfl : run = secondRun := hrun
      exact scheduled_sameCommand_iff hfirst hsecond
    | trigger second secondRun secondDecision secondSummary secondPlan secondAfter secondAt =>
      obtain rfl : run = secondRun := hrun
      constructor
      · intro h
        exact absurd h (not_sameCommand_of_scheduled hfirst hsecond)
      · intro h
        cases h
    | wakeup | prepare => cases hbuilder
  | prepare first run firstSummary firstPlan firstAfter firstAt firstSuffix =>
    cases secondBuild with
    | prepare second secondRun secondSummary secondPlan secondAfter secondAt secondSuffix =>
      obtain rfl : run = secondRun := hrun
      exact prepare_sameCommand_iff hfirst hsecond
    | wakeup | trigger | scheduled => cases hbuilder

end Pairs

end CrmBot.ClaimBuilder
