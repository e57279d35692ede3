import CrmBot.Library.Table
import CrmBot.Python.Builtins
import Mathlib.Algebra.GroupWithZero.Nat

/-! Route capacity reservations and provider capacity observations. -/

namespace CrmBot.LlmRuntime

open Relational CrmBot.Python

structure RouteKey where
  provider : String
  accountRef : String
  modelRef : String
  deriving DecidableEq, Repr

/-- `LlmProviderAccountCapacity`. -/
structure ProviderAccountCapacity where
  route : RouteKey
  remainingMinuteRequests : Nat
  remainingMinuteTokens : Nat
  remainingDailyRequests : Nat
  remainingDailyTokens : Nat
  deriving DecidableEq, Repr

/-- `LlmTaskCapacityProfile` with the conditions its constructor checks. -/
structure TaskCapacityProfile where
  profileId : String
  inputTokens : Nat
  artifactTokens : Nat
  requestCount : Nat
  inputTokens_pos : 0 < inputTokens
  requestCount_pos : 0 < requestCount

def TaskCapacityProfile.requiredWindowTokens (profile : TaskCapacityProfile) : Nat :=
  profile.inputTokens + profile.artifactTokens

theorem TaskCapacityProfile.requiredWindowTokens_pos (profile : TaskCapacityProfile) :
    0 < profile.requiredWindowTokens := by
  have hinput := profile.inputTokens_pos
  unfold requiredWindowTokens
  omega

inductive ReservationStatus
  | active
  | committed
  | released
  deriving DecidableEq, Repr

/-- A row of `llm_route_capacity_reservations` with its check constraints. -/
structure RouteReservation where
  attemptId : String
  route : RouteKey
  reservedRequests : Nat
  reservedTokens : Nat
  actualTokens : Option Nat
  status : ReservationStatus
  expiresAt : Int
  createdAt : Int
  finalizedAt : Option Int
  reserved_pos : 0 < reservedRequests ∧ 0 < reservedTokens
  expires_after : createdAt < expiresAt
  finalized_iff : finalizedAt.isSome = true ↔ status ≠ .active
  deriving DecidableEq

theorem active_not_finalized :
    (none : Option Int).isSome = true ↔ ReservationStatus.active ≠ .active := by simp

/-- The rows that `active_totals` counts for a route. -/
def activeOn (reservations : Table RouteReservation.attemptId) (route : RouteKey) (now : Int) :
    List RouteReservation :=
  reservations.rows.filter fun row =>
    row.route = route && row.status = .active && decide (now < row.expiresAt)

/-- The sum of `active_totals` for one route. Requests are counted, one for each
active row; without active rows there is no total to sum. -/
def activeReservedRequests (reservations : Table RouteReservation.attemptId) (route : RouteKey)
    (now : Int) : Nat :=
  (activeOn reservations route now).length

def activeReservedTokens (reservations : Table RouteReservation.attemptId) (route : RouteKey)
    (now : Int) : Nat :=
  ((activeOn reservations route now).map RouteReservation.reservedTokens).sum

/-- `reserve`: `ON CONFLICT (attempt_id) DO NOTHING`. -/
def reserve (reservations : Table RouteReservation.attemptId) (reservation : RouteReservation) :
    Table RouteReservation.attemptId :=
  reservations.insertOrIgnore reservation

/-- `finalize`: only an active reservation is committed or released. -/
def finalize (reservations : Table RouteReservation.attemptId) (attemptId : String)
    (finalStatus : ReservationStatus) (hfinal : finalStatus ≠ .active)
    (actualTokens : Option Nat) (finalizedAt : Int) : Table RouteReservation.attemptId :=
  reservations.updateWhere (fun row => row.attemptId = attemptId && row.status = .active)
    (fun row =>
      { row with
        status := finalStatus, actualTokens := actualTokens, finalizedAt := some finalizedAt
        finalized_iff := by simp [hfinal] })
    fun _ => rfl

/-- No reservation is added or removed by `finalize`. -/
theorem keys_finalize (reservations : Table RouteReservation.attemptId) (attemptId : String)
    (finalStatus : ReservationStatus) (hfinal : finalStatus ≠ .active)
    (actualTokens : Option Nat) (finalizedAt : Int) :
    (finalize reservations attemptId finalStatus hfinal actualTokens finalizedAt).keys =
      reservations.keys :=
  Table.keys_updateWhere _ _ _ _

/-- A new active reservation counts for its own route only. -/
theorem activeOn_append {before after : Table RouteReservation.attemptId}
    {reservation : RouteReservation} {now : Int} (hrows : after.rows = before.rows ++ [reservation])
    (hactive : reservation.status = .active) (hopen : now < reservation.expiresAt)
    (route : RouteKey) :
    activeOn after route now =
      activeOn before route now ++ if reservation.route = route then [reservation] else [] := by
  unfold activeOn
  rw [hrows, List.filter_append]
  congr 1
  by_cases hroute : reservation.route = route
  · simp [hroute, hactive, hopen]
  · simp [hroute]

theorem activeReservedRequests_append {before after : Table RouteReservation.attemptId}
    {reservation : RouteReservation} {now : Int} (hrows : after.rows = before.rows ++ [reservation])
    (hactive : reservation.status = .active) (hopen : now < reservation.expiresAt)
    (route : RouteKey) :
    activeReservedRequests after route now =
      activeReservedRequests before route now + if reservation.route = route then 1 else 0 := by
  unfold activeReservedRequests
  rw [activeOn_append hrows hactive hopen, List.length_append]
  split <;> rfl

theorem activeReservedTokens_append {before after : Table RouteReservation.attemptId}
    {reservation : RouteReservation} {now : Int} (hrows : after.rows = before.rows ++ [reservation])
    (hactive : reservation.status = .active) (hopen : now < reservation.expiresAt)
    (route : RouteKey) :
    activeReservedTokens after route now =
      activeReservedTokens before route now +
        if reservation.route = route then reservation.reservedTokens else 0 := by
  unfold activeReservedTokens
  rw [activeOn_append hrows hactive hopen, List.map_append, List.sum_append]
  split
  · simp
  · rfl

/-- `LlmAttemptCapacityObservation` under its observation id. -/
structure CapacityObservation where
  observationId : String
  route : RouteKey
  remainingMinuteRequests : Option Nat
  remainingMinuteTokens : Option Nat
  remainingDailyRequests : Option Nat
  remainingDailyTokens : Option Nat
  minuteResetAt : Option Int
  dailyResetAt : Option Int
  outcomeClass : String
  observedAt : Int
  deriving DecidableEq, Repr

/-- `record_observation`: an upsert by observation id. -/
def recordObservation (observations : Table CapacityObservation.observationId)
    (observation : CapacityObservation) : Table CapacityObservation.observationId :=
  (observations.updateWhere (fun row => row.observationId = observation.observationId)
    (fun row => { observation with observationId := row.observationId })
    fun _ => rfl).insertOrIgnore observation

/-- `latest_observations_for_accounts` for one account: `DISTINCT ON` keeps the
row observed last. -/
def latestObservation (observations : Table CapacityObservation.observationId)
    (route : RouteKey) : Option CapacityObservation :=
  (observations.select (fun row => row.route = route)
    fun first second => second.observedAt ≤ first.observedAt).head?

end CrmBot.LlmRuntime
