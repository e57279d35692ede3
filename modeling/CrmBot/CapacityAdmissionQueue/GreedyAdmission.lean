import CrmBot.CapacityAdmissionQueue.AdmissionReport
import CrmBot.CapacityAdmissionQueue.ReservationSafety
import CrmBot.Library.Clamp
import Mathlib.Algebra.Group.Prod

/-! Admission passes with `ReserveLlmRouteCapacityForAdmission` as their reservation port.

The pass keeps the budget that the port returns after a reservation. The port has
taken the active reservations off it, and takes them off again in the next round. -/

namespace CrmBot.CapacityAdmissionQueue

open Relational CrmBot.Python CrmBot.ExecutionRuntime CrmBot.LlmRuntime FailingFold Runs Clamp

/-! Budgets that are charged. -/

/-- Requests and tokens. -/
abbrev Charge := Nat × Nat

def WindowBudget.less (budget : WindowBudget) (charge : Charge) : WindowBudget :=
  availableBudgetAfterActiveReservations budget charge.1 charge.2

def WindowBudget.atLeast (budget floor : WindowBudget) : WindowBudget where
  remainingRequests := max budget.remainingRequests floor.remainingRequests
  remainingTokens := max budget.remainingTokens floor.remainingTokens
  remainingDailyRequests := max budget.remainingDailyRequests floor.remainingDailyRequests
  remainingDailyTokens := max budget.remainingDailyTokens floor.remainingDailyTokens

def emptyWindow : WindowBudget := ⟨0, 0, 0, 0⟩

theorem WindowBudget.less_less (budget : WindowBudget) (first second : Charge) :
    (budget.less first).less second = budget.less (first + second) := by
  simp only [less, availableBudgetAfterActiveReservations, Prod.fst_add, Prod.snd_add,
    Nat.sub_sub]

/-- What the active reservations of a route hold. -/
def activeCharge (reservations : Table RouteReservation.attemptId) (route : RouteKey)
    (now : Int) : Charge :=
  (activeReservedRequests reservations route now, activeReservedTokens reservations route now)

theorem availableBudget_eq (store : RouteStore) (route : RouteKey) (budget : WindowBudget)
    (now : Int) :
    store.availableBudget route budget now =
      (store.liveBudget route budget now).less (activeCharge store.reservations route now) := rfl

theorem drains_minIfObserved (observed : Option Nat) :
    Drains fun limit => minIfObserved limit observed := by
  cases observed with
  | none => exact drains_id
  | some value => exact drains_min value

section Clamping

variable (observation : LlmRuntime.CapacityObservation) (now : Int)

def liveMinuteRequests (requests : Nat) : Nat :=
  if minuteWindowHasReset observation now then max requests 1
  else minIfObserved requests observation.remainingMinuteRequests

def liveMinuteTokens (tokens : Nat) : Nat :=
  if minuteWindowHasReset observation now then
    max tokens (restoredMinuteTokenLimitForModel observation.route.modelRef tokens)
  else minIfObserved tokens observation.remainingMinuteTokens

theorem drains_liveMinuteRequests : Drains (liveMinuteRequests observation now) := by
  unfold liveMinuteRequests
  split
  · exact drains_max 1
  · exact drains_minIfObserved _

theorem drains_liveMinuteTokens : Drains (liveMinuteTokens observation now) := by
  unfold liveMinuteTokens restoredMinuteTokenLimitForModel
  split
  · split
    · exact drains_max 6000
    · simp only [max_self]
      exact drains_id
  · exact drains_minIfObserved _

theorem budgetClampedByObservation_eq (budget : WindowBudget) :
    budgetClampedByObservation budget observation now =
      { remainingRequests := liveMinuteRequests observation now budget.remainingRequests
        remainingTokens := liveMinuteTokens observation now budget.remainingTokens
        remainingDailyRequests :=
          if dailyRestored observation now then
            max budget.remainingDailyRequests
              (liveMinuteRequests observation now budget.remainingRequests)
          else minIfObserved budget.remainingDailyRequests observation.remainingDailyRequests
        remainingDailyTokens :=
          if dailyRestored observation now then
            max budget.remainingDailyTokens
              (liveMinuteTokens observation now budget.remainingTokens)
          else minIfObserved budget.remainingDailyTokens observation.remainingDailyTokens } := by
  unfold budgetClampedByObservation dailyRestored
  dsimp only
  split
  · rfl
  · rfl

end Clamping

section Live

variable (store : RouteStore) (route : RouteKey) (now : Int)

/-- What the latest observation leaves of any window, even of an empty one. -/
def RouteStore.restored : WindowBudget := store.liveBudget route emptyWindow now

theorem RouteStore.restored_le_live (budget : WindowBudget) :
    ((store.liveBudget route budget now).less 0).atLeast (store.restored route now) =
      store.liveBudget route budget now := by
  unfold RouteStore.restored RouteStore.liveBudget
  cases store.latestObservation route with
  | none => simp [budgetAfterLatestCapacityObservation, WindowBudget.atLeast, WindowBudget.less,
      availableBudgetAfterActiveReservations, emptyWindow]
  | some observation =>
    have hrequests := drains_liveMinuteRequests observation now
    have htokens := drains_liveMinuteTokens observation now
    simp only [budgetAfterLatestCapacityObservation, budgetClampedByObservation_eq,
      WindowBudget.less, WindowBudget.atLeast, availableBudgetAfterActiveReservations,
      emptyWindow, Prod.fst_zero, Prod.snd_zero, Nat.sub_zero, WindowBudget.mk.injEq]
    refine ⟨max_eq_left (hrequests.least _), max_eq_left (htokens.least _), ?_, ?_⟩
    · apply max_eq_left
      split
      · exact hrequests.raised_least _ _
      · exact (drains_minIfObserved _).least _
    · apply max_eq_left
      split
      · exact htokens.raised_least _ _
      · exact (drains_minIfObserved _).least _

/-- A live budget that is charged stays charged when it is clamped again. -/
theorem RouteStore.liveBudget_charged (budget : WindowBudget) (taken own : Charge) :
    store.liveBudget route
        ((((store.liveBudget route budget now).less taken).atLeast
          (store.restored route now)).less own) now =
      ((store.liveBudget route budget now).less (taken + own)).atLeast
        (store.restored route now) := by
  unfold RouteStore.restored RouteStore.liveBudget
  cases store.latestObservation route with
  | none => simp [budgetAfterLatestCapacityObservation, WindowBudget.atLeast, WindowBudget.less,
      availableBudgetAfterActiveReservations, emptyWindow, Nat.sub_sub]
  | some observation =>
    have hrequests := drains_liveMinuteRequests observation now
    have htokens := drains_liveMinuteTokens observation now
    simp only [budgetAfterLatestCapacityObservation, budgetClampedByObservation_eq,
      WindowBudget.less, WindowBudget.atLeast, availableBudgetAfterActiveReservations,
      emptyWindow, Prod.fst_add, Prod.snd_add, WindowBudget.mk.injEq]
    refine ⟨hrequests.again _ _ _, htokens.again _ _ _, ?_, ?_⟩
    · split
      · exact hrequests.raised _ _ _ _
      · exact (drains_minIfObserved _).again _ _ _
    · split
      · exact htokens.raised _ _ _ _
      · exact (drains_minIfObserved _).again _ _ _

end Live

/-! The pass and its reservation port. -/

/-- The route capacity, and what the other ports of a pass keep. -/
structure RoutedState (State : Type) where
  routes : RouteStore
  rest : State

variable {State : Type}

/-- What is answered from the rest leaves the route capacity alone. -/
def RoutedState.answer {Value : Type} (state : RoutedState State)
    (answered : Except Fault (Value × State)) : Except Fault (Value × RoutedState State) := do
  let (value, rest) ← answered
  return (value, { state with rest := rest })

/-- What is answered from the route capacity leaves the rest alone. -/
def RoutedState.answerRoutes {Value : Type} (state : RoutedState State)
    (answered : Except Fault (Value × RouteStore)) :
    Except Fault (Value × RoutedState State) := do
  let (value, routes) ← answered
  return (value, { state with routes := routes })

/-- The ports of a pass with `ReserveLlmRouteCapacityForAdmission` in place of their
own reservation port. -/
def AdmissionPorts.withLlmReservation (ports : AdmissionPorts State) :
    AdmissionPorts (RoutedState State) where
  lower := ports.lower
  selectFirstRetryableFailedFit state lane limit :=
    state.answer (ports.selectFirstRetryableFailedFit state.rest lane limit)
  selectFirstReadyFit state lane limit :=
    state.answer (ports.selectFirstReadyFit state.rest lane limit)
  leaseDueWorkItemById state workKind workItemId worker leaseToken leaseExpiresAt now :=
    state.answer (ports.leaseDueWorkItemById state.rest workKind workItemId worker leaseToken
      leaseExpiresAt now)
  admitProjectionWorkItem state lease :=
    state.answer (ports.admitProjectionWorkItem state.rest lease)
  previewCapacityForSelectedWorkItem state selected lane budget now :=
    state.answerRoutes (CapacityAdmissionQueue.previewCapacityForSelectedWorkItem state.routes
      selected lane budget now)
  reserveCapacityForSelectedWorkItem state attemptId reservationRef selected lane budget now
      expiresAt :=
    state.answerRoutes (CapacityAdmissionQueue.reserveCapacityForSelectedWorkItem state.routes
      attemptId reservationRef selected lane budget now expiresAt)
  startOrAppendExecution state selected lane execution projection reservation now :=
    state.answer (ports.startOrAppendExecution state.rest selected lane execution projection
      reservation now)
  hasActiveLeasedWork state lane now :=
    state.answer (ports.hasActiveLeasedWork state.rest lane now)

/-! Denied items, and the capacity that is left. -/

/-- The reservation port has no capacity for the item that a round has selected. -/
inductive Denies (ports : AdmissionPorts State) (command : PassCommand) (index : Nat)
    (budget : WindowBudget) (state : State) (selected : SelectableWorkItem) : Prop
  | preview {selecting next : State} {remaining : WindowBudget} {reason : SkippedReason}
      (hselect : selectAdmissionWorkItem ports state command.laneKey budget =
        .ok (.selected selected, selecting))
      (hpreview : ports.previewCapacityForSelectedWorkItem selecting selected
        command.executionLaneKey budget command.now = .ok (.unavailable remaining reason, next)) :
      Denies ports command index budget state selected
  | reservation {execution : LeasedWorkItemRecord} {leased executed next : State}
      {projection : ProjectionLeaseResult} {attempt : StartedAttemptSummary}
      {remaining : WindowBudget} {reason : SkippedReason}
      (hlease : LeasesItem ports command index budget state selected execution leased)
      (hexecute : Executes ports command index selected execution leased projection
        (.attempt attempt) executed)
      (hreserve : ports.reserveCapacityForSelectedWorkItem executed attempt.attemptId
        (roundRef command index selected.workItemId) selected command.executionLaneKey budget
        command.now command.leaseExpiresAt = .ok (.denied remaining reason, next)) :
      Denies ports command index budget state selected

/-- The route that the items of a pass are executed on. -/
def PassCommand.route (command : PassCommand) : RouteKey where
  provider := command.executionLaneKey.provider
  accountRef := command.executionLaneKey.accountRef.get command.accountRef_isSome
  modelRef := command.executionLaneKey.modelRef

variable (ports : AdmissionPorts State) (command : PassCommand) (start : RoutedState State)

/-- The live budget less the reservations that are active at the start and less the
requirements of the items, each of them once. -/
def capacityLeft (items : List AdmittedItemSummary) : WindowBudget :=
  (start.routes.availableBudget command.route command.budget command.now).less
    (items.length, requiredTokens items)

/-- A selected item is denied only if it exceeds what the items admitted so far have
left. -/
def Greedy : Prop :=
  ∀ index progress selected, index < command.maxAdmittedItems →
    passRounds ports.withLlmReservation command start index = .running progress →
      Denies ports.withLlmReservation command index progress.budget progress.state selected →
        exhausted (capacityLeft command start progress.admittedItems) selected = true

/-- The reservation of a started attempt. -/
def grantedReservation (attempt : StartedAttemptSummary) (summary : ReservationSummary) :
    RouteReservation where
  attemptId := attempt.attemptId
  route := command.route
  reservedRequests := 1
  reservedTokens := summary.reservedTokens
  actualTokens := none
  status := .active
  expiresAt := command.leaseExpiresAt
  createdAt := command.now
  finalizedAt := none
  reserved_pos := ⟨Nat.one_pos, summary.reservedTokens_pos⟩
  expires_after := command.lease_future
  finalized_iff := active_not_finalized

/-- The reservations that a pass has made. -/
def granted (progress : PassProgress (RoutedState State)) : List RouteReservation :=
  List.zipWith (grantedReservation command) progress.startedAttempts progress.capacityReservations

/-- What is taken off the budget of the pass when a reservation is made: everything that
is active on the route, and the reservation. -/
def reservationCharge (reservations : Table RouteReservation.attemptId)
    (reservation : RouteReservation) : Charge :=
  activeCharge reservations command.route command.now + (1, reservation.reservedTokens)

/-- The budget of the pass after some reservations, as far as it is live. -/
def chargedBudget (reservations : List RouteReservation) : WindowBudget :=
  ((start.routes.liveBudget command.route command.budget command.now).less
    (totalCost reserve (reservationCharge command) start.routes.reservations reservations)).atLeast
      (start.routes.restored command.route command.now)

/-- What is available after some reservations: they are active as well. -/
def chargedCapacity (reservations : List RouteReservation) : WindowBudget :=
  (chargedBudget command start reservations).less
    (activeCharge (reservations.foldl reserve start.routes.reservations) command.route
      command.now)

/-- An item of the lane is selected in a round, and its route can be locked. -/
structure Offered (index : Nat) (progress : PassProgress (RoutedState State))
    (selected : SelectableWorkItem) : Prop where
  index_lt : index < command.maxAdmittedItems
  running : passRounds ports.withLlmReservation command start index = .running progress
  isSelected : ∃ selecting, selectAdmissionWorkItem ports.withLlmReservation progress.state
    command.laneKey progress.budget = .ok (.selected selected, selecting)
  hasRoute : executionRoute "preview" selected command.executionLaneKey = .ok command.route
  locks : lockRoute command.route = .ok ()

/-- An item that fits when every reservation is taken off once also fits when all that is
active is taken off again for every reservation of the pass. -/
def FitsCharged : Prop :=
  ∀ index progress selected, Offered ports command start index progress selected →
    exhausted (capacityLeft command start progress.admittedItems) selected = false →
      exhausted (chargedCapacity command start (granted command progress)) selected = false

/-! What the calls do to the route capacity. -/

variable {ports command start} {index : Nat} {budget : WindowBudget}
  {state next : RoutedState State}

theorem routes_of_answer {Value : Type} {answered : Except Fault (Value × State)} {value : Value}
    (h : state.answer answered = .ok (value, next)) : next.routes = state.routes := by
  obtain ⟨⟨_, rest⟩, _, h⟩ := bind_eq_ok.mp h
  cases h
  rfl

theorem answerRoutes_eq_ok {Value : Type} {answered : Except Fault (Value × RouteStore)}
    {value : Value} (h : state.answerRoutes answered = .ok (value, next)) :
    answered = .ok (value, next.routes) := by
  obtain ⟨⟨_, routes⟩, hanswered, h⟩ := bind_eq_ok.mp h
  cases h
  exact hanswered

theorem routes_of_select {lane : LaneKey} {selection : Selection}
    (h : selectAdmissionWorkItem ports.withLlmReservation state lane budget =
      .ok (selection, next)) : next.routes = state.routes := by
  unfold selectAdmissionWorkItem at h
  split at h
  · obtain ⟨⟨retryable, first⟩, hfirst, h⟩ := bind_eq_ok.mp h
    have hsame : first.routes = state.routes := routes_of_answer hfirst
    cases retryable with
    | some item =>
      cases h
      exact hsame
    | none =>
      obtain ⟨⟨ready, second⟩, hsecond, h⟩ := bind_eq_ok.mp h
      have hagain : second.routes = first.routes := routes_of_answer hsecond
      rw [← hsame, ← hagain]
      cases ready with
      | some item =>
        cases h
        rfl
      | none =>
        cases h
        rfl
  · cases h
    rfl

theorem route_eq_of_executionRoute {purpose : String} {selected : SelectableWorkItem}
    {route : RouteKey} (h : executionRoute purpose selected command.executionLaneKey = .ok route) :
    route = command.route := by
  obtain ⟨hprovider, haccount, hmodel⟩ := executionRoute_ok h
  have haccountRef : route.accountRef =
      command.executionLaneKey.accountRef.get command.accountRef_isSome :=
    (Option.get_of_eq_some _ haccount.symm).symm
  calc route = ⟨route.provider, route.accountRef, route.modelRef⟩ := rfl
    _ = command.route := by
      rw [hprovider, haccountRef, hmodel]
      rfl

/-- What a preview answers of an item whose route can be locked. -/
def previewed (command : PassCommand) (store : RouteStore) (budget : WindowBudget)
    (selected : SelectableWorkItem) : CapacityPreview :=
  let available := store.availableBudget command.route budget command.now
  if exhausted available selected then .unavailable available .capacityExhausted
  else .available available

theorem preview_of_route {store : RouteStore} {selected : SelectableWorkItem}
    (hroute : executionRoute "preview" selected command.executionLaneKey = .ok command.route)
    (hlocks : lockRoute command.route = .ok ()) :
    previewCapacityForSelectedWorkItem store selected command.executionLaneKey budget
      command.now = .ok (previewed command store budget selected, store) := by
  unfold previewCapacityForSelectedWorkItem previewed
  simp only [bind, Except.bind, hroute, hlocks]
  split
  · rfl
  · rfl

theorem preview_eq {store : RouteStore} {selected : SelectableWorkItem}
    {answer : CapacityPreview × RouteStore}
    (h : previewCapacityForSelectedWorkItem store selected command.executionLaneKey budget
      command.now = .ok answer) :
    executionRoute "preview" selected command.executionLaneKey = .ok command.route ∧
      lockRoute command.route = .ok () ∧
      answer = (previewed command store budget selected, store) := by
  obtain ⟨route, hroute, hcall⟩ := bind_eq_ok.mp h
  obtain ⟨_, hlocks, _⟩ := bind_eq_ok.mp hcall
  have heq := route_eq_of_executionRoute hroute
  subst heq
  refine ⟨hroute, hlocks, ?_⟩
  rw [preview_of_route hroute hlocks] at h
  exact (Except.ok.inj h).symm

theorem previewed_unavailable {store : RouteStore} {selected : SelectableWorkItem}
    {remaining : WindowBudget} {reason : SkippedReason}
    (h : previewed command store budget selected = .unavailable remaining reason) :
    exhausted (store.availableBudget command.route budget command.now) selected = true := by
  unfold previewed at h
  dsimp only at h
  split at h
  · assumption
  · cases h

theorem previewed_available {store : RouteStore} {selected : SelectableWorkItem}
    {remaining : WindowBudget}
    (h : previewed command store budget selected = .available remaining) :
    exhausted (store.availableBudget command.route budget command.now) selected = false := by
  unfold previewed at h
  dsimp only at h
  split at h
  · cases h
  · next hroom => exact Bool.eq_false_of_not_eq_true hroom

/-- An item is leased only if it fits, and the route capacity stays. -/
theorem LeasesItem.fits {selected : SelectableWorkItem} {execution : LeasedWorkItemRecord}
    (h : LeasesItem ports.withLlmReservation command index budget state selected execution next) :
    next.routes = state.routes ∧
      exhausted (state.routes.availableBudget command.route budget command.now) selected =
        false := by
  obtain ⟨selecting, remaining, previewing, hselect, hpreview, _, hlease⟩ := h
  have hselecting := routes_of_select hselect
  have hleased : next.routes = previewing.routes := routes_of_answer hlease
  obtain ⟨_, _, hanswer⟩ := preview_eq (answerRoutes_eq_ok hpreview)
  obtain ⟨havailable, hroutes⟩ := Prod.mk.inj hanswer
  have hroom := previewed_available havailable.symm
  rw [hselecting] at hroom
  exact ⟨hleased.trans (hroutes.trans hselecting), hroom⟩

theorem Executes.routes_eq {selected : SelectableWorkItem} {execution : LeasedWorkItemRecord}
    {projection : ProjectionLeaseResult} {reference : ExecutionReference}
    (h : Executes ports.withLlmReservation command index selected execution state projection
      reference next) : next.routes = state.routes := by
  obtain ⟨_, admitted, _, hadmission, _, hstart⟩ := h
  have hexecuted : next.routes = admitted.routes := routes_of_answer hstart
  exact hexecuted.trans (routes_of_answer hadmission)

theorem reserve_eq {store after : RouteStore} {attempt : StartedAttemptSummary}
    {reservationRef : String} {selected : SelectableWorkItem} {result : ReservationResult}
    (h : reserveCapacityForSelectedWorkItem store attempt.attemptId reservationRef selected
      command.executionLaneKey budget command.now command.leaseExpiresAt = .ok (result, after)) :
    let available := store.availableBudget command.route budget command.now
    if exhausted available selected then result = .denied available .capacityExhausted
    else ∃ summary,
      result = .reserved (available.less (1, summary.reservedTokens)) summary ∧
        after = { store with
          reservations := reserve store.reservations
            (grantedReservation command attempt summary) } := by
  obtain ⟨_, _, h⟩ := bind_eq_ok.mp h
  obtain ⟨_, _, h⟩ := bind_eq_ok.mp h
  obtain ⟨route, hroute, h⟩ := bind_eq_ok.mp h
  obtain ⟨_, _, h⟩ := bind_eq_ok.mp h
  have heq := route_eq_of_executionRoute hroute
  subst heq
  dsimp only at h ⊢
  split
  · next hfull =>
    rw [if_pos hfull] at h
    cases h
    rfl
  · next hroom =>
    rw [if_neg hroom] at h
    obtain ⟨reservation, hreservation, h⟩ := bind_eq_ok.mp h
    obtain ⟨summary, hsummary, h⟩ := bind_eq_ok.mp h
    cases h
    have htokens : summary.reservedTokens = selected.requiredWindowTokens := by
      obtain ⟨_, _, hsummary⟩ := bind_eq_ok.mp hsummary
      split at hsummary
      · split at hsummary
        · cases hsummary
          rfl
        · cases hsummary
      · cases hsummary
    have hgranted : reservation = grantedReservation command attempt summary := by
      unfold newReservation at hreservation
      split at hreservation
      · cases hreservation
        simp only [grantedReservation, htokens]
      · cases hreservation
    refine ⟨summary, ?_, ?_⟩
    · rw [htokens]
      rfl
    · rw [hgranted]

/-! The account of a run. -/

theorem liveBudget_congr {first second : RouteStore}
    (h : first.observations = second.observations) (route : RouteKey) (now : Int) :
    first.liveBudget route budget now = second.liveBudget route budget now := by
  unfold RouteStore.liveBudget RouteStore.latestObservation
  rw [h]

/-- What the pass has made of its budget and of the reservations of its route. -/
structure Accounts (command : PassCommand) (start : RoutedState State)
    (progress : PassProgress (RoutedState State)) : Prop where
  observations : progress.state.routes.observations = start.routes.observations
  reservations : progress.state.routes.reservations =
    (granted command progress).foldl reserve start.routes.reservations
  live : start.routes.liveBudget command.route progress.budget command.now =
    chargedBudget command start (granted command progress)
  lengths : progress.startedAttempts.length = progress.capacityReservations.length

variable {progress last : PassProgress (RoutedState State)}

theorem Accounts.available (h : Accounts command start progress) :
    progress.state.routes.availableBudget command.route progress.budget command.now =
      chargedCapacity command start (granted command progress) := by
  rw [availableBudget_eq, liveBudget_congr h.observations, h.live, h.reservations]
  rfl

theorem Accounts.congr (h : Accounts command start progress)
    (hroutes : last.state.routes = progress.state.routes) (hbudget : last.budget = progress.budget)
    (hstarted : last.startedAttempts = progress.startedAttempts)
    (hreserved : last.capacityReservations = progress.capacityReservations) :
    Accounts command start last := by
  have hgranted : granted command last = granted command progress := by
    unfold granted
    rw [hstarted, hreserved]
  constructor
  · rw [hroutes, h.observations]
  · rw [hroutes, h.reservations, hgranted]
  · rw [hbudget, h.live, hgranted]
  · rw [hstarted, hreserved, h.lengths]

/-- A reservation takes its charge off the budget. -/
theorem Accounts.reserved (h : Accounts command start progress) {attempt : StartedAttemptSummary}
    {summary : ReservationSummary}
    (hroutes : last.state.routes = { progress.state.routes with
      reservations := reserve progress.state.routes.reservations
        (grantedReservation command attempt summary) })
    (hbudget : last.budget =
      (progress.state.routes.availableBudget command.route progress.budget command.now).less
        (1, summary.reservedTokens))
    (hstarted : last.startedAttempts = progress.startedAttempts ++ [attempt])
    (hreserved : last.capacityReservations = progress.capacityReservations ++ [summary]) :
    Accounts command start last := by
  have hgranted : granted command last =
      granted command progress ++ [grantedReservation command attempt summary] := by
    unfold granted
    rw [hstarted, hreserved, List.zipWith_append h.lengths]
    rfl
  constructor
  · rw [hroutes, h.observations]
  · rw [hroutes, hgranted, List.foldl_append, ← h.reservations]
    rfl
  · have hcharge : totalCost reserve (reservationCharge command) start.routes.reservations
          (granted command last) =
        totalCost reserve (reservationCharge command) start.routes.reservations
            (granted command progress) +
          (activeCharge progress.state.routes.reservations command.route command.now +
            (1, summary.reservedTokens)) := by
      rw [hgranted, totalCost_append_singleton, ← h.reservations]
      rfl
    have hlast : last.budget = (chargedBudget command start (granted command progress)).less
        (activeCharge progress.state.routes.reservations command.route command.now +
          (1, summary.reservedTokens)) := by
      rw [hbudget, h.available, chargedCapacity, ← h.reservations, WindowBudget.less_less]
    rw [hlast, chargedBudget, RouteStore.liveBudget_charged, chargedBudget, hcharge]
  · rw [hstarted, hreserved, List.length_append, List.length_append, h.lengths]
    rfl

theorem Accounts.settle {answer : RoundAnswer} (h : Accounts command start progress)
    (hcalls : RoundCalls ports.withLlmReservation command index progress.budget progress.state
      answer next)
    (hlast : settleAnswer { progress with state := next } answer = .running last) :
    Accounts command start last := by
  cases hcalls with
  | exhausted | nothingFits | unavailable | notLeased | conflict | denied => cases hlast
  | appended hlease hexecute =>
    obtain ⟨hadmits, hbudget, hreserved, hstarted, _⟩ :=
      PassProgress.append_admits (PassOutcome.ofExcept_eq_running.mp hlast)
    have hroutes := hexecute.routes_eq.trans hlease.fits.1
    refine h.congr ?_ hbudget hstarted hreserved
    rw [hadmits.state]
    exact hroutes
  | started hlease hexecute hreserve =>
    obtain ⟨hadmits, hbudget, hreserved, hstarted, _⟩ :=
      PassProgress.start_admits (PassOutcome.ofExcept_eq_running.mp hlast)
    have hroutes := hexecute.routes_eq.trans hlease.fits.1
    have hresult := reserve_eq (answerRoutes_eq_ok hreserve)
    rw [hroutes] at hresult
    dsimp only at hresult
    rw [if_neg (Bool.eq_false_iff.mp hlease.fits.2)] at hresult
    obtain ⟨summary, hgranted, hafter⟩ := hresult
    cases hgranted
    refine h.reserved ?_ hbudget hstarted hreserved
    rw [hadmits.state]
    exact hafter

theorem accounts_of_rounds {rounds : Nat}
    (h : passRounds ports.withLlmReservation command start rounds = .running last) :
    Accounts command start last := by
  induction rounds generalizing last with
  | zero =>
    cases h
    exact ⟨rfl, rfl, (RouteStore.restored_le_live _ _ _ _).symm, rfl⟩
  | succ rounds ih =>
    obtain ⟨progress, hrunning, hround⟩ := passRounds_succ_running h
    rcases passRound_calls hround with ⟨fault, hraised⟩ | ⟨answer, next, hcalls, hsettled⟩
    · cases hraised
    · exact (ih hrunning).settle hcalls hsettled.symm

/-- Who is denied is selected on a route that can be locked, and does not fit when
everything active has been taken off for every reservation. -/
theorem denies_iff (h : Accounts command start progress) {selected : SelectableWorkItem} :
    Denies ports.withLlmReservation command index progress.budget progress.state selected ↔
      (∃ selecting, selectAdmissionWorkItem ports.withLlmReservation progress.state
          command.laneKey progress.budget = .ok (.selected selected, selecting)) ∧
        executionRoute "preview" selected command.executionLaneKey = .ok command.route ∧
        lockRoute command.route = .ok () ∧
        exhausted (chargedCapacity command start (granted command progress)) selected = true := by
  rw [← h.available]
  constructor
  · intro hdenies
    cases hdenies with
    | preview hselect hpreview =>
      obtain ⟨hroute, hlocks, hanswer⟩ := preview_eq (answerRoutes_eq_ok hpreview)
      have hfull := previewed_unavailable (Prod.mk.inj hanswer).1.symm
      rw [routes_of_select hselect] at hfull
      exact ⟨⟨_, hselect⟩, hroute, hlocks, hfull⟩
    | reservation hlease hexecute hreserve =>
      -- an item that was leased fits, and nothing was reserved since
      have hresult := reserve_eq (answerRoutes_eq_ok hreserve)
      rw [hexecute.routes_eq.trans hlease.fits.1] at hresult
      dsimp only at hresult
      rw [if_neg (Bool.eq_false_iff.mp hlease.fits.2)] at hresult
      obtain ⟨_, hgranted, _⟩ := hresult
      cases hgranted
  · rintro ⟨⟨selecting, hselect⟩, hroute, hlocks, hfull⟩
    have hpreview : ports.withLlmReservation.previewCapacityForSelectedWorkItem selecting selected
        command.executionLaneKey progress.budget command.now =
          .ok (previewed command selecting.routes progress.budget selected, selecting) := by
      change selecting.answerRoutes _ = _
      rw [preview_of_route hroute hlocks]
      rfl
    rw [routes_of_select hselect] at hpreview
    unfold previewed at hpreview
    dsimp only at hpreview
    rw [if_pos hfull] at hpreview
    exact .preview hselect hpreview

/-- The pass is greedy exactly when the charges that are taken off again never make a
difference to an item that is selected. -/
theorem greedy_iff_fitsCharged (ports : AdmissionPorts State) (command : PassCommand)
    (start : RoutedState State) :
    Greedy ports command start ↔ FitsCharged ports command start := by
  constructor
  · intro hgreedy index progress selected hoffered hroom
    apply Bool.eq_false_of_not_eq_true
    intro hfull
    have haccounts := accounts_of_rounds hoffered.running
    have hdenies : Denies ports.withLlmReservation command index progress.budget progress.state
        selected :=
      (denies_iff haccounts).mpr ⟨hoffered.isSelected, hoffered.hasRoute, hoffered.locks, hfull⟩
    rw [hgreedy index progress selected hoffered.index_lt hoffered.running hdenies] at hroom
    cases hroom
  · intro hfits index progress selected hindex hrunning hdenies
    apply Bool.eq_true_of_not_eq_false
    intro hroom
    obtain ⟨hselected, hroute, hlocks, hfull⟩ :=
      (denies_iff (accounts_of_rounds hrunning)).mp hdenies
    rw [hfits index progress selected ⟨hindex, hrunning, hselected, hroute, hlocks⟩ hroom] at hfull
    cases hfull

/-! How far the two differ. -/

/-- Of two items of 6000 tokens, the second one is denied within a budget of 12000. -/
theorem secondItem_denied :
    ¬ Greedy (executesBy fun _ => true).ports
      { samplePass with budget := { sampleDrain.budget with remainingTokens := 12000 } }
      ⟨⟨.empty, none⟩, twoItemTables⟩ := by
  intro h
  have hdenied : ∃ progress selected selecting next remaining reason,
      passRounds (executesBy fun _ => true).ports.withLlmReservation
          { samplePass with budget := { sampleDrain.budget with remainingTokens := 12000 } }
          ⟨⟨.empty, none⟩, twoItemTables⟩ 1 = .running progress ∧
        selectAdmissionWorkItem (executesBy fun _ => true).ports.withLlmReservation progress.state
          samplePass.laneKey progress.budget = .ok (.selected selected, selecting) ∧
        (executesBy fun _ => true).ports.withLlmReservation.previewCapacityForSelectedWorkItem
          selecting selected samplePass.executionLaneKey progress.budget samplePass.now =
            .ok (.unavailable remaining reason, next) ∧
        exhausted (capacityLeft
          { samplePass with budget := { sampleDrain.budget with remainingTokens := 12000 } }
          (⟨⟨.empty, none⟩, twoItemTables⟩ : RoutedState (PassTables Unit))
          progress.admittedItems) selected = false :=
    ⟨_, _, _, _, _, _, rfl, rfl, rfl, rfl⟩
  obtain ⟨progress, selected, _, _, _, _, hrunning, hselect, hpreview, hroom⟩ := hdenied
  have hfull := h 1 progress selected (by decide) hrunning (.preview hselect hpreview)
  rw [hroom] at hfull
  cases hfull

end CrmBot.CapacityAdmissionQueue
