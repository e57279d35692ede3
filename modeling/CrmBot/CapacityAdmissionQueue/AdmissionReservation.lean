import CrmBot.CapacityAdmissionQueue.AdmissionPass
import CrmBot.LlmRuntime.RouteCapacity

/-! `ReserveLlmRouteCapacityForAdmission`: the route of a selected item is locked, the
budget of its window is clamped by the latest observation of the route, and what is
left after the active reservations decides.

The lock makes a call one step. Every reservation made here is for one request. -/

namespace CrmBot.CapacityAdmissionQueue

open Relational CrmBot.Python CrmBot.LlmRuntime FailingFold

/-! The live budget. -/

/-- `_min_if_observed`. -/
def minIfObserved (configured : Nat) : Option Nat → Nat
  | none => configured
  | some observed => min configured observed

theorem minIfObserved_le (configured : Nat) (observed : Option Nat) :
    minIfObserved configured observed ≤ configured := by
  cases observed with
  | none => exact le_refl configured
  | some observed => exact Nat.min_le_left configured observed

/-- `_restored_minute_token_limit_for_model`. -/
def restoredMinuteTokenLimitForModel (modelRef : String) (fallback : Nat) : Nat :=
  if modelRef = "qwen/qwen3-32b" then 6000 else fallback

def minuteWindowHasReset (observation : LlmRuntime.CapacityObservation) (now : Int) : Bool :=
  observation.minuteResetAt.any fun resetAt => decide (resetAt ≤ now)

def dailyWindowHasReset (observation : LlmRuntime.CapacityObservation) (now : Int) : Bool :=
  observation.dailyResetAt.any fun resetAt => decide (resetAt ≤ now)

def dailyObservationUnknown (observation : LlmRuntime.CapacityObservation) : Bool :=
  observation.remainingDailyRequests.isNone && observation.remainingDailyTokens.isNone &&
    observation.dailyResetAt.isNone

/-- `_budget_clamped_by_observation`. -/
def budgetClampedByObservation (budget : WindowBudget)
    (observation : LlmRuntime.CapacityObservation) (now : Int) : WindowBudget :=
  let minuteReset := minuteWindowHasReset observation now
  let remainingRequests :=
    if minuteReset then max budget.remainingRequests 1
    else minIfObserved budget.remainingRequests observation.remainingMinuteRequests
  let remainingTokens :=
    if minuteReset then
      max budget.remainingTokens
        (restoredMinuteTokenLimitForModel observation.route.modelRef budget.remainingTokens)
    else minIfObserved budget.remainingTokens observation.remainingMinuteTokens
  if dailyWindowHasReset observation now || dailyObservationUnknown observation then
    { remainingRequests, remainingTokens
      remainingDailyRequests := max budget.remainingDailyRequests remainingRequests
      remainingDailyTokens := max budget.remainingDailyTokens remainingTokens }
  else
    { remainingRequests, remainingTokens
      remainingDailyRequests :=
        minIfObserved budget.remainingDailyRequests observation.remainingDailyRequests
      remainingDailyTokens :=
        minIfObserved budget.remainingDailyTokens observation.remainingDailyTokens }

/-- `_budget_after_latest_capacity_observation`. -/
def budgetAfterLatestCapacityObservation (budget : WindowBudget)
    (observation : Option LlmRuntime.CapacityObservation) (now : Int) : WindowBudget :=
  match observation with
  | none => budget
  | some observation => budgetClampedByObservation budget observation now

/-- `_available_budget_after_active_reservations`. -/
def availableBudgetAfterActiveReservations (budget : WindowBudget)
    (activeReservedRequests activeReservedTokens : Nat) : WindowBudget where
  remainingRequests := budget.remainingRequests - activeReservedRequests
  remainingTokens := budget.remainingTokens - activeReservedTokens
  remainingDailyRequests := budget.remainingDailyRequests - activeReservedRequests
  remainingDailyTokens := budget.remainingDailyTokens - activeReservedTokens

/-- `_budget_after_new_reservation`. -/
def budgetAfterNewReservation (budget : WindowBudget) (reservedTokens : Nat) : WindowBudget where
  remainingRequests := budget.remainingRequests - 1
  remainingTokens := budget.remainingTokens - reservedTokens
  remainingDailyRequests := budget.remainingDailyRequests - 1
  remainingDailyTokens := budget.remainingDailyTokens - reservedTokens

/-! The reservation of a selected item. -/

/-- What a call reads and writes; without an observation repository there are no
observations. -/
structure RouteStore where
  reservations : Table RouteReservation.attemptId
  observations : Option (Table LlmRuntime.CapacityObservation.observationId)

def RouteStore.latestObservation (store : RouteStore) (route : RouteKey) :
    Option LlmRuntime.CapacityObservation :=
  store.observations.bind fun observations => LlmRuntime.latestObservation observations route

/-- The budget of a route that counts at an instant. -/
def RouteStore.liveBudget (store : RouteStore) (route : RouteKey) (budget : WindowBudget)
    (now : Int) : WindowBudget :=
  budgetAfterLatestCapacityObservation budget (store.latestObservation route) now

def RouteStore.availableBudget (store : RouteStore) (route : RouteKey) (budget : WindowBudget)
    (now : Int) : WindowBudget :=
  availableBudgetAfterActiveReservations (store.liveBudget route budget now)
    (activeReservedRequests store.reservations route now)
    (activeReservedTokens store.reservations route now)

/-- The route a call is about, if the selected item is of its lane; `purpose` is
what the call says it needs an account for. -/
def executionRoute (purpose : String) (selected : SelectableWorkItem) (lane : LaneKey) :
    Except Fault RouteKey :=
  match lane.accountRef with
  | none => .error (.valueError ("capacity admission " ++ purpose ++ " requires account_ref"))
  | some accountRef =>
    if selected.laneKey.workKind ≠ lane.workKind then
      .error (.valueError "execution lane work_kind must match selected work item")
    else if selected.laneKey.provider ≠ lane.provider then
      .error (.valueError "execution lane provider must match selected work item")
    else if selected.laneKey.modelRef ≠ lane.modelRef then
      .error (.valueError "execution lane model_ref must match selected work item")
    else .ok ⟨lane.provider, accountRef, lane.modelRef⟩

/-- The texts that `lock_route` refuses. -/
def lockRoute (route : RouteKey) : Except Fault Unit := do
  requireNonEmptyText route.provider "provider"
  requireNonEmptyText route.accountRef "account_ref"
  requireNonEmptyText route.modelRef "model_ref"

/-- Why an item cannot be started within a budget. -/
def exhausted (available : WindowBudget) (selected : SelectableWorkItem) : Bool :=
  !available.admitsAnyWork ||
    decide (available.maxRequiredWindowTokens < selected.requiredWindowTokens)

/-- `LlmRouteCapacityReservation` for one request. -/
def newReservation (attemptId : String) (route : RouteKey) (selected : SelectableWorkItem)
    (now expiresAt : Int) : Except Fault RouteReservation :=
  if hexpires : now < expiresAt then
    .ok
      { attemptId, route, reservedRequests := 1, reservedTokens := selected.requiredWindowTokens
        actualTokens := none, status := .active, expiresAt, createdAt := now, finalizedAt := none
        reserved_pos := ⟨Nat.one_pos, selected.required_pos⟩
        expires_after := hexpires
        finalized_iff := active_not_finalized }
  else .error (.valueError "expires_at must be after created_at")

/-- `CapacityAdmissionCapacityReservationSummary` for one request. -/
def reservationSummary (reservationRef : String) (selected : SelectableWorkItem) (lane : LaneKey)
    (expiresAt : Int) : Except Fault ReservationSummary := do
  let lane ← laneSummary lane
  if href : isBlank reservationRef = false then
    if hid : isBlank selected.workItemId = false then
      .ok
        { reservationRef, workItemId := selected.workItemId, lane, reservedRequests := 1
          reservedTokens := selected.requiredWindowTokens, expiresAt
          reservationRef_text := href, workItemId_text := hid
          reservedRequests_pos := Nat.one_pos, reservedTokens_pos := selected.required_pos }
    else .error (.valueError "work_item_id must be non-empty")
  else .error (.valueError "reservation_ref must be non-empty")

/-- `preview_capacity_for_selected_work_item`. -/
def previewCapacityForSelectedWorkItem (store : RouteStore) (selected : SelectableWorkItem)
    (lane : LaneKey) (budget : WindowBudget) (now : Int) :
    Except Fault (CapacityPreview × RouteStore) := do
  let route ← executionRoute "preview" selected lane
  lockRoute route
  let available := store.availableBudget route budget now
  if exhausted available selected then .ok (.unavailable available .capacityExhausted, store)
  else .ok (.available available, store)

/-- `reserve_capacity_for_selected_work_item`. -/
def reserveCapacityForSelectedWorkItem (store : RouteStore) (attemptId reservationRef : String)
    (selected : SelectableWorkItem) (lane : LaneKey) (budget : WindowBudget)
    (now expiresAt : Int) : Except Fault (ReservationResult × RouteStore) := do
  requireNonEmptyText attemptId "attempt_id"
  requireNonEmptyText reservationRef "reservation_ref"
  let route ← executionRoute "reservation" selected lane
  lockRoute route
  let available := store.availableBudget route budget now
  if exhausted available selected then .ok (.denied available .capacityExhausted, store)
  else do
    let reservation ← newReservation attemptId route selected now expiresAt
    let budgetAfter := budgetAfterNewReservation available selected.requiredWindowTokens
    let summary ← reservationSummary reservationRef selected lane expiresAt
    .ok (.reserved budgetAfter summary,
      { store with reservations := reserve store.reservations reservation })

/-! What a call does. -/

theorem not_exhausted {available : WindowBudget} {selected : SelectableWorkItem}
    (h : exhausted available selected = false) :
    0 < available.remainingRequests ∧ 0 < available.remainingDailyRequests ∧
      selected.requiredWindowTokens ≤ available.remainingTokens ∧
      selected.requiredWindowTokens ≤ available.remainingDailyTokens := by
  simp only [exhausted, WindowBudget.admitsAnyWork, WindowBudget.maxRequiredWindowTokens,
    Bool.or_eq_false_iff, Bool.not_eq_false', Bool.and_eq_true, decide_eq_true_eq] at h
  obtain ⟨⟨⟨⟨hrequests, _⟩, hdaily⟩, _⟩, hfits⟩ := h
  have hle := Nat.le_of_not_lt (of_decide_eq_false hfits)
  exact ⟨hrequests, hdaily, hle.trans (Nat.min_le_left _ _), hle.trans (Nat.min_le_right _ _)⟩

/-- A reservation of one request for a selected item, on the route of the lane. -/
structure ReservationFor (reservation : RouteReservation) (attemptId : String)
    (selected : SelectableWorkItem) (lane : LaneKey) (now expiresAt : Int) : Prop where
  attemptId : reservation.attemptId = attemptId
  provider : reservation.route.provider = lane.provider
  accountRef : some reservation.route.accountRef = lane.accountRef
  modelRef : reservation.route.modelRef = lane.modelRef
  requests : reservation.reservedRequests = 1
  tokens : reservation.reservedTokens = selected.requiredWindowTokens
  active : reservation.status = .active
  expiresAt : reservation.expiresAt = expiresAt
  isOpen : now < reservation.expiresAt

theorem executionRoute_ok {purpose : String} {selected : SelectableWorkItem} {lane : LaneKey}
    {route : RouteKey} (h : executionRoute purpose selected lane = .ok route) :
    route.provider = lane.provider ∧ some route.accountRef = lane.accountRef ∧
      route.modelRef = lane.modelRef := by
  unfold executionRoute at h
  cases haccount : lane.accountRef with
  | none =>
    rw [haccount] at h
    cases h
  | some accountRef =>
    rw [haccount] at h
    simp only at h
    split at h
    · cases h
    · split at h
      · cases h
      · split at h
        · cases h
        · cases h
          exact ⟨rfl, rfl, rfl⟩

theorem newReservation_ok {attemptId : String} {route : RouteKey} {selected : SelectableWorkItem}
    {lane : LaneKey} {now expiresAt : Int} {reservation : RouteReservation}
    (h : newReservation attemptId route selected now expiresAt = .ok reservation)
    (hroute : route.provider = lane.provider ∧ some route.accountRef = lane.accountRef ∧
      route.modelRef = lane.modelRef) :
    reservation.route = route ∧
      ReservationFor reservation attemptId selected lane now expiresAt := by
  unfold newReservation at h
  split at h
  · next hexpires =>
    cases h
    exact ⟨rfl, rfl, hroute.1, hroute.2.1, hroute.2.2, rfl, rfl, rfl, rfl, hexpires⟩
  · cases h

/-- A call either refuses and leaves the store, or has room for the item and
inserts its reservation. -/
theorem reserveCapacity_cases {store next : RouteStore} {attemptId reservationRef : String}
    {selected : SelectableWorkItem} {lane : LaneKey} {budget : WindowBudget} {now expiresAt : Int}
    {result : ReservationResult}
    (h : reserveCapacityForSelectedWorkItem store attemptId reservationRef selected lane budget now
      expiresAt = .ok (result, next)) :
    (next = store ∧ ∃ available, result = .denied available .capacityExhausted) ∨
      ∃ reservation summary, ReservationFor reservation attemptId selected lane now expiresAt ∧
        exhausted (store.availableBudget reservation.route budget now) selected = false ∧
        result = .reserved (budgetAfterNewReservation
          (store.availableBudget reservation.route budget now) selected.requiredWindowTokens)
          summary ∧
        next = { store with reservations := reserve store.reservations reservation } := by
  unfold reserveCapacityForSelectedWorkItem at h
  obtain ⟨_, _, h⟩ := bind_eq_ok.mp h
  obtain ⟨_, _, h⟩ := bind_eq_ok.mp h
  obtain ⟨route, hroute, h⟩ := bind_eq_ok.mp h
  obtain ⟨_, _, h⟩ := bind_eq_ok.mp h
  simp only at h
  split at h
  · cases h
    exact .inl ⟨rfl, _, rfl⟩
  · next hroom =>
    obtain ⟨reservation, hreservation, h⟩ := bind_eq_ok.mp h
    obtain ⟨summary, _, h⟩ := bind_eq_ok.mp h
    cases h
    obtain ⟨heq, hfor⟩ := newReservation_ok hreservation (executionRoute_ok hroute)
    refine .inr ⟨reservation, summary, hfor, ?_, ?_, rfl⟩
    · rw [heq]
      exact Bool.eq_false_of_not_eq_true hroom
    · rw [heq]

end CrmBot.CapacityAdmissionQueue
