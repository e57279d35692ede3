import CrmBot.CapacityAdmissionQueue.AdmissionReservation
import CrmBot.Library.Runs
import Mathlib.Data.List.Induction

/-! Reservations and finalisations one after the other: a granted reservation leaves the
active reservations of its route within the live budget, and a finalisation gives back
what was reserved.

The repository counts one request for each active row. That is the sum of the requests
as long as every row reserves one, which is what an admission reserves. -/

namespace CrmBot.CapacityAdmissionQueue

open Relational CrmBot.Python CrmBot.LlmRuntime Runs

/-- The sum of the requests of the active reservations. -/
def sumOfRequests (reservations : List RouteReservation) : Nat :=
  (reservations.map RouteReservation.reservedRequests).sum

def sumOfTokens (reservations : List RouteReservation) : Nat :=
  (reservations.map RouteReservation.reservedTokens).sum

inductive RouteEvent
  | reserve (attemptId reservationRef : String) (selected : SelectableWorkItem) (lane : LaneKey)
      (budget : WindowBudget) (now expiresAt : Int)
  | finalize (attemptId : String) (finalStatus : ReservationStatus)
      (hfinal : finalStatus ≠ .active) (actualTokens : Option Nat) (finalizedAt : Int)
  | observe (observation : LlmRuntime.CapacityObservation)

/-- A call that raises is rolled back. -/
def performRoute (store : RouteStore) : RouteEvent → RouteStore
  | .reserve attemptId reservationRef selected lane budget now expiresAt =>
    match reserveCapacityForSelectedWorkItem store attemptId reservationRef selected lane budget
      now expiresAt with
    | .ok (_, next) => next
    | .error _ => store
  | .finalize attemptId finalStatus hfinal actualTokens finalizedAt =>
    { store with
      reservations :=
        finalize store.reservations attemptId finalStatus hfinal actualTokens finalizedAt }
  | .observe observation =>
    { store with
      observations := store.observations.map fun observations =>
        recordObservation observations observation }

/-- The active reservations of a route are within the budget that was live before. -/
structure WithinLiveBudget (store next : RouteStore) (route : RouteKey) (budget : WindowBudget)
    (now : Int) : Prop where
  requests : sumOfRequests (activeOn next.reservations route now) ≤
    (store.liveBudget route budget now).remainingRequests
  tokens : sumOfTokens (activeOn next.reservations route now) ≤
    (store.liveBudget route budget now).remainingTokens
  dailyRequests : sumOfRequests (activeOn next.reservations route now) ≤
    (store.liveBudget route budget now).remainingDailyRequests
  dailyTokens : sumOfTokens (activeOn next.reservations route now) ≤
    (store.liveBudget route budget now).remainingDailyTokens

/-- Finalising an attempt takes its active reservation out of every sum, and nothing
else. -/
def ReturnsReserved (before after : Table RouteReservation.attemptId) (attemptId : String) :
    Prop :=
  ∀ route now,
    let held := (activeOn before route now).filter fun row => row.attemptId = attemptId
    sumOfRequests (activeOn before route now) =
        sumOfRequests (activeOn after route now) + sumOfRequests held ∧
      sumOfTokens (activeOn before route now) =
        sumOfTokens (activeOn after route now) + sumOfTokens held

/-- A step as it should be, if `daily` says what the live daily budget may be. -/
def StepSafe (daily : RouteStore → RouteKey → WindowBudget → Int → Prop) (store : RouteStore) :
    RouteEvent → Prop
  | .reserve attemptId reservationRef selected lane budget now expiresAt =>
    ∀ budgetAfter summary next,
      reserveCapacityForSelectedWorkItem store attemptId reservationRef selected lane budget now
          expiresAt = .ok (.reserved budgetAfter summary, next) →
        ∀ account ∈ lane.accountRef,
          let route : RouteKey := ⟨lane.provider, account, lane.modelRef⟩
          WithinLiveBudget store next route budget now ∧ daily store route budget now
  | .finalize attemptId finalStatus hfinal actualTokens finalizedAt =>
    ReturnsReserved store.reservations
      (finalize store.reservations attemptId finalStatus hfinal actualTokens finalizedAt) attemptId
  | .observe _ => True

/-- Nothing is known of the day of a route. -/
def RouteStore.dailyUnknown (store : RouteStore) (route : RouteKey) : Prop :=
  ∀ observation ∈ store.latestObservation route, dailyObservationUnknown observation = true

/-- An unknown daily budget leaves the daily limits of the window as they are. -/
def DailyNotEnlarged (store : RouteStore) (route : RouteKey) (budget : WindowBudget)
    (now : Int) : Prop :=
  store.dailyUnknown route →
    (store.liveBudget route budget now).remainingDailyRequests ≤ budget.remainingDailyRequests ∧
      (store.liveBudget route budget now).remainingDailyTokens ≤ budget.remainingDailyTokens

/-- The day counts anew, or the observation does not speak of it. -/
def dailyRestored (observation : LlmRuntime.CapacityObservation) (now : Int) : Bool :=
  dailyWindowHasReset observation now || dailyObservationUnknown observation

/-- The live daily limits are those of the window or less, except that an observation
whose day has ended or that does not speak of the day raises them to the live limits of
the minute. -/
def DailyByObservation (store : RouteStore) (route : RouteKey) (budget : WindowBudget)
    (now : Int) : Prop :=
  let live := store.liveBudget route budget now
  if (store.latestObservation route).any fun observation => dailyRestored observation now then
    live.remainingDailyRequests = max budget.remainingDailyRequests live.remainingRequests ∧
      live.remainingDailyTokens = max budget.remainingDailyTokens live.remainingTokens
  else
    live.remainingDailyRequests ≤ budget.remainingDailyRequests ∧
      live.remainingDailyTokens ≤ budget.remainingDailyTokens

theorem dailyByObservation (store : RouteStore) (route : RouteKey) (budget : WindowBudget)
    (now : Int) : DailyByObservation store route budget now := by
  unfold DailyByObservation RouteStore.liveBudget
  cases store.latestObservation route with
  | none => exact ⟨le_refl _, le_refl _⟩
  | some observation =>
    simp only [Option.any_some, budgetAfterLatestCapacityObservation, budgetClampedByObservation,
      dailyRestored]
    split
    · exact ⟨rfl, rfl⟩
    · exact ⟨minIfObserved_le _ _, minIfObserved_le _ _⟩

/-! Every reservation is for one request. -/

def SingleRequests (store : RouteStore) : Prop :=
  ∀ row ∈ store.reservations.rows, row.reservedRequests = 1

theorem sumOfRequests_eq_length {rows : List RouteReservation}
    (h : ∀ row ∈ rows, row.reservedRequests = 1) : sumOfRequests rows = rows.length := by
  unfold sumOfRequests
  induction rows with
  | nil => rfl
  | cons row rest ih =>
    rw [List.map_cons, List.sum_cons, h row List.mem_cons_self,
      ih fun other hother => h other (List.mem_cons_of_mem row hother), List.length_cons]
    omega

theorem activeOn_subset (reservations : Table RouteReservation.attemptId) (route : RouteKey)
    (now : Int) {row : RouteReservation} (h : row ∈ activeOn reservations route now) :
    row ∈ reservations.rows :=
  List.mem_of_mem_filter h

theorem SingleRequests.sumOfRequests {store : RouteStore} (h : SingleRequests store)
    (route : RouteKey) (now : Int) :
    sumOfRequests (activeOn store.reservations route now) =
      activeReservedRequests store.reservations route now :=
  sumOfRequests_eq_length fun row hrow => h row (activeOn_subset _ _ _ hrow)

/-! One reservation. -/

theorem SingleRequests.reserve {store : RouteStore} (h : SingleRequests store)
    {reservation : RouteReservation} (hrequests : reservation.reservedRequests = 1) :
    SingleRequests
      { store with reservations := LlmRuntime.reserve store.reservations reservation } := by
  intro row hrow
  rcases Table.mem_insertOrIgnore.mp hrow with hold | ⟨_, rfl⟩
  · exact h row hold
  · exact hrequests

/-- A new reservation adds at most itself to the sums of its route. -/
theorem reserve_adds_at_most (reservations : Table RouteReservation.attemptId)
    {reservation : RouteReservation} {now : Int} (hactive : reservation.status = .active)
    (hopen : now < reservation.expiresAt) :
    activeReservedRequests (reserve reservations reservation) reservation.route now ≤
        activeReservedRequests reservations reservation.route now + 1 ∧
      activeReservedTokens (reserve reservations reservation) reservation.route now ≤
        activeReservedTokens reservations reservation.route now + reservation.reservedTokens := by
  unfold reserve
  by_cases hmem : reservation.attemptId ∈ reservations.keys
  · rw [Table.insertOrIgnore_of_mem hmem]
    omega
  · have hrows := Table.rows_insertOrIgnore_of_notMem hmem
    rw [activeReservedRequests_append hrows hactive hopen,
      activeReservedTokens_append hrows hactive hopen, if_pos rfl, if_pos rfl]
    omega

theorem ReservationFor.route_eq {reservation : RouteReservation} {attemptId : String}
    {selected : SelectableWorkItem} {lane : LaneKey} {now expiresAt : Int}
    (h : ReservationFor reservation attemptId selected lane now expiresAt) {account : String}
    (haccount : account ∈ lane.accountRef) :
    reservation.route = ⟨lane.provider, account, lane.modelRef⟩ := by
  have haccountRef := Option.some.inj (h.accountRef.trans haccount)
  calc reservation.route
      = ⟨reservation.route.provider, reservation.route.accountRef,
        reservation.route.modelRef⟩ := rfl
    _ = ⟨lane.provider, account, lane.modelRef⟩ := by rw [h.provider, haccountRef, h.modelRef]

theorem withinLiveBudget_reserve {store : RouteStore} {reservation : RouteReservation}
    {attemptId : String} {selected : SelectableWorkItem} {lane : LaneKey} {budget : WindowBudget}
    {now expiresAt : Int} (hsingle : SingleRequests store)
    (hfor : ReservationFor reservation attemptId selected lane now expiresAt)
    (hroom : exhausted (store.availableBudget reservation.route budget now) selected = false) :
    WithinLiveBudget store
      { store with reservations := reserve store.reservations reservation }
      reservation.route budget now := by
  obtain ⟨hrequests, hdailyRequests, htokens, hdailyTokens⟩ := not_exhausted hroom
  have hrequired := selected.required_pos
  obtain ⟨hcount, hsum⟩ := reserve_adds_at_most store.reservations hfor.active hfor.isOpen
  rw [hfor.tokens] at hsum
  have hrequestsLe := ((hsingle.reserve hfor.requests).sumOfRequests reservation.route now).trans_le
    hcount
  simp only [RouteStore.availableBudget, availableBudgetAfterActiveReservations]
    at hrequests hdailyRequests htokens hdailyTokens
  exact ⟨hrequestsLe.trans (by omega), hsum.trans (by omega), hrequestsLe.trans (by omega),
    hsum.trans (by omega)⟩

/-! One finalisation. -/

/-- A row that is finalised counts nowhere any more. -/
theorem activeOn_finalize (reservations : Table RouteReservation.attemptId) (attemptId : String)
    (finalStatus : ReservationStatus) (hfinal : finalStatus ≠ .active)
    (actualTokens : Option Nat) (finalizedAt : Int) (route : RouteKey) (now : Int) :
    activeOn (finalize reservations attemptId finalStatus hfinal actualTokens finalizedAt) route
        now =
      (activeOn reservations route now).filter fun row => !decide (row.attemptId = attemptId) := by
  simp only [activeOn, finalize, Table.rows_updateWhere, List.filter_map, List.filter_filter]
  trans List.map id (reservations.rows.filter fun row => !decide (row.attemptId = attemptId) &&
    (decide (row.route = route) && decide (row.status = .active) && decide (now < row.expiresAt)))
  · rw [List.filter_congr (q := fun row => !decide (row.attemptId = attemptId) &&
      (decide (row.route = route) && decide (row.status = .active) &&
        decide (now < row.expiresAt)))]
    · apply List.map_congr_left
      intro row hrow
      have hkept := (List.mem_filter.mp hrow).2
      simp only [Bool.and_eq_true, Bool.not_eq_true', decide_eq_false_iff_not] at hkept
      simp [hkept.1]
    · intro row _
      by_cases hid : row.attemptId = attemptId
      · by_cases hactive : row.status = .active
        · simp [hid, hactive, hfinal]
        · simp [hid, hactive]
      · simp [hid]
  · exact List.map_id _

theorem sum_filter_add (size : RouteReservation → Nat) (keeps : RouteReservation → Bool)
    (rows : List RouteReservation) :
    (rows.map size).sum =
      ((rows.filter fun row => !keeps row).map size).sum + ((rows.filter keeps).map size).sum := by
  induction rows with
  | nil => rfl
  | cons row rest ih =>
    rw [List.map_cons, List.sum_cons, ih, List.filter_cons, List.filter_cons]
    cases keeps row with
    | false =>
      simp only [Bool.not_false, if_true, Bool.false_eq_true, if_false, List.map_cons,
        List.sum_cons]
      omega
    | true =>
      simp only [Bool.not_true, Bool.false_eq_true, if_false, if_true, List.map_cons,
        List.sum_cons]
      omega

theorem finalize_returnsReserved (reservations : Table RouteReservation.attemptId)
    (attemptId : String) (finalStatus : ReservationStatus) (hfinal : finalStatus ≠ .active)
    (actualTokens : Option Nat) (finalizedAt : Int) :
    ReturnsReserved reservations
      (finalize reservations attemptId finalStatus hfinal actualTokens finalizedAt) attemptId := by
  intro route now
  simp only [activeOn_finalize]
  exact ⟨sum_filter_add _ _ _, sum_filter_add _ _ _⟩

/-- Two rows hold the same reservation; a finalisation leaves it. -/
structure SameReservation (first second : RouteReservation) : Prop where
  attemptId : first.attemptId = second.attemptId
  route : first.route = second.route
  requests : first.reservedRequests = second.reservedRequests
  tokens : first.reservedTokens = second.reservedTokens

theorem mem_finalize {reservations : Table RouteReservation.attemptId} {attemptId : String}
    {finalStatus : ReservationStatus} (hfinal : finalStatus ≠ .active)
    {actualTokens : Option Nat} {finalizedAt : Int} {row : RouteReservation}
    (h : row ∈
      (finalize reservations attemptId finalStatus hfinal actualTokens finalizedAt).rows) :
    ∃ old ∈ reservations.rows, SameReservation old row := by
  simp only [finalize, Table.mem_updateWhere] at h
  obtain ⟨old, hold, heq⟩ := h
  refine ⟨old, hold, ?_⟩
  rw [← heq]
  split
  · exact ⟨rfl, rfl, rfl, rfl⟩
  · exact ⟨rfl, rfl, rfl, rfl⟩

theorem SingleRequests.finalize {store : RouteStore} (h : SingleRequests store)
    (attemptId : String) (finalStatus : ReservationStatus) (hfinal : finalStatus ≠ .active)
    (actualTokens : Option Nat) (finalizedAt : Int) :
    SingleRequests
      { store with
        reservations := LlmRuntime.finalize store.reservations attemptId finalStatus hfinal
          actualTokens finalizedAt } := by
  intro row hrow
  obtain ⟨old, hold, hsame⟩ := mem_finalize hfinal hrow
  exact hsame.requests.symm.trans (h old hold)

/-! Runs. -/

theorem SingleRequests.performRoute {store : RouteStore} (h : SingleRequests store)
    (event : RouteEvent) : SingleRequests (performRoute store event) := by
  cases event with
  | reserve attemptId reservationRef selected lane budget now expiresAt =>
    unfold CapacityAdmissionQueue.performRoute
    simp only
    split
    · next result next hcall =>
      rcases reserveCapacity_cases hcall with ⟨rfl, _⟩ | ⟨reservation, _, hfor, _, _, rfl⟩
      · exact h
      · exact h.reserve hfor.requests
    · exact h
  | finalize attemptId finalStatus hfinal actualTokens finalizedAt =>
    exact h.finalize attemptId finalStatus hfinal actualTokens finalizedAt
  | observe observation => exact h

theorem stepSafe {store : RouteStore} (h : SingleRequests store) (event : RouteEvent) :
    StepSafe DailyByObservation store event := by
  cases event with
  | reserve attemptId reservationRef selected lane budget now expiresAt =>
    intro budgetAfter summary next hcall account haccount
    rcases reserveCapacity_cases hcall with ⟨_, _, hdenied⟩ | ⟨reservation, _, hfor, hroom, _, rfl⟩
    · cases hdenied
    · have hroute := hfor.route_eq haccount
      rw [← hroute]
      exact ⟨withinLiveBudget_reserve h hfor hroom, dailyByObservation _ _ _ _⟩
  | finalize attemptId finalStatus hfinal actualTokens finalizedAt =>
    exact finalize_returnsReserved _ _ _ _ _ _
  | observe observation => trivial

/-- The run granted an attempt a reservation, and the row holds what was granted. -/
def GrantedIn (start : RouteStore) (events : List RouteEvent) (row : RouteReservation) : Prop :=
  ∃ earlier rest reservationRef selected lane budget now expiresAt budgetAfter summary next,
    events = earlier ++
        .reserve row.attemptId reservationRef selected lane budget now expiresAt :: rest ∧
      reserveCapacityForSelectedWorkItem (earlier.foldl performRoute start) row.attemptId
          reservationRef selected lane budget now expiresAt =
        .ok (.reserved budgetAfter summary, next) ∧
      row.route.provider = lane.provider ∧ some row.route.accountRef = lane.accountRef ∧
      row.route.modelRef = lane.modelRef ∧ row.reservedRequests = 1 ∧
      row.reservedTokens = selected.requiredWindowTokens

theorem GrantedIn.of_same {start : RouteStore} {events : List RouteEvent}
    {first second : RouteReservation} (h : GrantedIn start events first)
    (hsame : SameReservation first second) : GrantedIn start events second := by
  obtain ⟨hid, hroute, hrequests, htokens⟩ := hsame
  unfold GrantedIn at h ⊢
  rw [hid, hroute, hrequests, htokens] at h
  exact h

theorem GrantedIn.append {start : RouteStore} {events : List RouteEvent}
    {row : RouteReservation} (h : GrantedIn start events row) (event : RouteEvent) :
    GrantedIn start (events ++ [event]) row := by
  obtain ⟨earlier, rest, reservationRef, selected, lane, budget, now, expiresAt, budgetAfter,
    summary, next, heq, hgranted⟩ := h
  refine ⟨earlier, rest ++ [event], reservationRef, selected, lane, budget, now, expiresAt,
    budgetAfter, summary, next, ?_, hgranted⟩
  rw [heq, List.append_assoc, List.cons_append]

/-- Every row is what the run granted. -/
theorem grantedIn_of_mem
    (observations : Option (Table LlmRuntime.CapacityObservation.observationId))
    (events : List RouteEvent) :
    ∀ row ∈ (events.foldl performRoute ⟨.empty, observations⟩).reservations.rows,
      GrantedIn ⟨.empty, observations⟩ events row := by
  induction events using List.reverseRecOn with
  | nil => exact fun row hrow => absurd hrow List.not_mem_nil
  | append_singleton events event ih =>
    intro row hrow
    rw [List.foldl_append, List.foldl_cons, List.foldl_nil] at hrow
    cases event with
    | reserve attemptId reservationRef selected lane budget now expiresAt =>
      unfold performRoute at hrow
      simp only at hrow
      split at hrow
      · next result next hcall =>
        rcases reserveCapacity_cases hcall with
          ⟨rfl, _⟩ | ⟨reservation, summary, hfor, _, hresult, rfl⟩
        · exact (ih row hrow).append _
        · rcases Table.mem_insertOrIgnore.mp hrow with hold | ⟨_, rfl⟩
          · exact (ih row hold).append _
          · subst hresult
            have hid := hfor.attemptId
            subst hid
            exact ⟨events, [], reservationRef, selected, lane, budget, now, expiresAt, _, summary,
              _, rfl, hcall, hfor.provider, hfor.accountRef, hfor.modelRef, hfor.requests,
              hfor.tokens⟩
      · exact (ih row hrow).append _
    | finalize attemptId finalStatus hfinal actualTokens finalizedAt =>
      obtain ⟨old, hold, hsame⟩ := mem_finalize hfinal hrow
      exact ((ih old hold).of_same hsame).append _
    | observe observation => exact (ih row hrow).append _

/-- Whatever reservations, finalisations and observations follow each other, a granted
reservation is within the live budget, and a finalisation returns what the run granted
to its attempt. -/
theorem reservationRun_safe
    (observations : Option (Table LlmRuntime.CapacityObservation.observationId))
    (events : List RouteEvent) :
    EveryStep performRoute (StepSafe DailyByObservation) ⟨.empty, observations⟩ events ∧
      ∀ row ∈ (events.foldl performRoute ⟨.empty, observations⟩).reservations.rows,
        GrantedIn ⟨.empty, observations⟩ events row := by
  refine ⟨?_, grantedIn_of_mem observations events⟩
  have hall : EveryStep performRoute (fun _ _ => True) ⟨.empty, observations⟩ events :=
    everyStep_of_forall fun _ _ _ _ => trivial
  have hempty : SingleRequests ⟨.empty, observations⟩ :=
    fun row hrow => absurd hrow List.not_mem_nil
  exact hall.of_invariant (fun store event h _ => h.performRoute event)
    (fun store event h _ => stepSafe h event) hempty

/-! A window with 1000 daily tokens left, and an observation that does not speak of the
day. -/

def dayUnknown : Table LlmRuntime.CapacityObservation.observationId where
  rows := [{ observationId := "observation", route := ⟨"groq", "account", "model"⟩
             remainingMinuteRequests := some 5, remainingMinuteTokens := some 10000
             remainingDailyRequests := none, remainingDailyTokens := none
             minuteResetAt := none, dailyResetAt := none, outcomeClass := "success"
             observedAt := 0 }]
  key_nodup := by decide

def largeItem : SelectableWorkItem where
  workItemId := "item"
  laneKey := ⟨"work", "groq", "model", some "account"⟩
  status := .ready
  requiredWindowTokens := 3000
  inputTokens := none
  artifactTokens := none
  workItemId_ne := by decide
  status_admissible := rfl
  required_pos := by decide
  inputTokens_pos := by nofun

def largeItemRun : List RouteEvent :=
  [.reserve "attempt" "reservation" largeItem largeItem.laneKey ⟨5, 10000, 50, 1000⟩ 0 60]

/-- 3000 tokens are granted, although 1000 are left for the day. -/
theorem unknownDay_enlarges :
    ¬ EveryStep performRoute (StepSafe DailyNotEnlarged) ⟨.empty, some dayUnknown⟩ largeItemRun ∧
      sumOfTokens (activeOn (largeItemRun.foldl performRoute ⟨.empty, some dayUnknown⟩).reservations
        ⟨"groq", "account", "model"⟩ 0) = 3000 := by
  have hgranted : ∃ budgetAfter summary next,
      reserveCapacityForSelectedWorkItem ⟨.empty, some dayUnknown⟩ "attempt" "reservation"
          largeItem largeItem.laneKey ⟨5, 10000, 50, 1000⟩ 0 60 =
        .ok (.reserved budgetAfter summary, next) := ⟨_, _, _, rfl⟩
  refine ⟨?_, by decide +kernel⟩
  rintro ⟨hstep, _⟩
  obtain ⟨budgetAfter, summary, next, hgranted⟩ := hgranted
  obtain ⟨_, hdaily⟩ := hstep budgetAfter summary next hgranted "account" rfl
  have hunknown : RouteStore.dailyUnknown ⟨.empty, some dayUnknown⟩
      ⟨"groq", "account", "model"⟩ := by
    intro observation hobservation
    cases hobservation
    rfl
  exact absurd (hdaily hunknown).2 (by decide +kernel)

end CrmBot.CapacityAdmissionQueue
