import CrmBot.CapacityAdmissionQueue.QueueState
import CrmBot.Library.Runs
import Mathlib.Algebra.BigOperators.Group.List.Basic
import Mathlib.Algebra.GroupWithZero.Nat

/-! The reservations of one capacity window over a run of the repository.

Any worker may call the four statements in any order. The ledger keeps, beside
the table, the reservations that were granted and not yet released and the
observations that were applied. -/

namespace CrmBot.CapacityAdmissionQueue

open Relational CrmBot.Python Runs

/-- The four amounts of a window. -/
inductive Counter
  | minuteRequests
  | minuteTokens
  | dailyRequests
  | dailyTokens
  deriving DecidableEq, Repr

def Counter.remaining (row : WindowRow) : Counter → Option Nat
  | .minuteRequests => row.remainingMinuteRequests
  | .minuteTokens => row.remainingMinuteTokens
  | .dailyRequests => row.remainingDailyRequests
  | .dailyTokens => row.remainingDailyTokens

def Counter.reserved (row : WindowRow) : Counter → Nat
  | .minuteRequests => row.reservedMinuteRequests
  | .minuteTokens => row.reservedMinuteTokens
  | .dailyRequests => row.reservedDailyRequests
  | .dailyTokens => row.reservedDailyTokens

/-- What a reservation takes of the amount. -/
def Counter.taken (reservation : CapacityReservation) : Counter → Nat
  | .minuteRequests | .dailyRequests => reservation.requestCount
  | .minuteTokens | .dailyTokens => reservation.tokenCount

/-- A reservation with the number of observations applied before it. -/
structure Grant where
  reservation : CapacityReservation
  observations : Nat
  deriving DecidableEq, Repr

structure WindowLedger where
  windows : Table WindowRow.window
  outstanding : List Grant
  observations : List CapacityObservation

inductive BudgetEvent
  | tryReserve (requestCount tokenCount : Nat) (now : Int)
  | releaseReservation (grant : Grant) (now : Int)
  | applyCapacityObservation (observation : CapacityObservation)
  | freezeUntil (frozenUntil now : Int)

variable (window : WindowKey)

/-- A reservation is released at most once, and an observation counts from when
it is applied. -/
def performBudget (before : WindowLedger) : BudgetEvent → WindowLedger
  | .tryReserve requestCount tokenCount now =>
    match tryReserve before.windows window requestCount tokenCount now with
    | .ok (some reservation, windows) =>
      { before with
        windows := windows
        outstanding := ⟨reservation, before.observations.length⟩ :: before.outstanding }
    | .ok (none, windows) => { before with windows := windows }
    | .error _ => before
  | .releaseReservation grant now =>
    if grant ∈ before.outstanding then
      { before with
        windows := releaseReservation before.windows grant.reservation now
        outstanding := before.outstanding.erase grant }
    else before
  | .applyCapacityObservation observation =>
    { before with
      windows := (applyCapacityObservation before.windows { observation with window }).2
      observations := { observation with window } :: before.observations }
  | .freezeUntil frozenUntil now =>
    { before with windows := freezeUntil before.windows window frozenUntil now }

/-! The property. -/

/-- Granted since the last applied observation. -/
def WindowLedger.Current (ledger : WindowLedger) (grant : Grant) : Prop :=
  grant.observations = ledger.observations.length

/-- What a grant takes of the amount if it was granted after so many
observations. -/
def Grant.share (grant : Grant) (observations : Nat) (counter : Counter) : Nat :=
  if grant.observations = observations then counter.taken grant.reservation else 0

/-- The sum over the current outstanding grants. -/
def WindowLedger.owed (ledger : WindowLedger) (counter : Counter) : Nat :=
  (ledger.outstanding.map fun grant => grant.share ledger.observations.length counter).sum

/-- Every reserved counter covers what is outstanding. -/
def WindowLedger.Covered (ledger : WindowLedger) : Prop :=
  ∀ row, ledger.windows.find? window = some row →
    ∀ counter : Counter, ledger.owed counter ≤ counter.reserved row

/-- No applied observation was made later. -/
def WindowLedger.Newest (ledger : WindowLedger) (observation : CapacityObservation) : Prop :=
  observation ∈ ledger.observations ∧
    ∀ other ∈ ledger.observations, other.observedAt ≤ observation.observedAt

/-- The remaining amounts and reset times. -/
structure WindowValues where
  remaining : Counter → Option Nat
  minuteResetAt : Option Int
  dailyResetAt : Option Int

def WindowRow.values (row : WindowRow) : WindowValues where
  remaining counter := counter.remaining row
  minuteResetAt := row.minuteResetAt
  dailyResetAt := row.dailyResetAt

def CapacityObservation.values (observation : CapacityObservation) : WindowValues :=
  (observedRow observation observation.observedAt).values

/-- The row shows the newest of the observations. -/
def WindowLedger.ShowsNewest (ledger : WindowLedger) : Prop :=
  ledger.observations ≠ [] → ∃ row newest, ledger.windows.find? window = some row ∧
    ledger.Newest newest ∧ row.values = newest.values

/-- A reservation is granted only where everything outstanding and itself fit
the remaining budget. -/
def GrantFits (before : WindowLedger) : BudgetEvent → Prop
  | .tryReserve requestCount tokenCount now => ∀ reservation windows,
      tryReserve before.windows window requestCount tokenCount now =
        .ok (some reservation, windows) →
      ∀ row, before.windows.find? window = some row → ∀ counter : Counter, ∀ amount,
        counter.remaining row = some amount →
          before.owed counter + counter.taken reservation ≤ amount
  | _ => True

/-- At every moment of the run the accounting is exact. -/
def AccountingExact (start : WindowLedger) (events : List BudgetEvent) : Prop :=
  EveryStep (performBudget window)
    (fun before event => (performBudget window before event).Covered window ∧
      (performBudget window before event).ShowsNewest window ∧ GrantFits window before event)
    start events

/-! The condition. -/

/-- A reservation from before the last observation is released only while no
later one is outstanding, and an observation that is not the newest repeats the
values of one that is. -/
def InOrder (before : WindowLedger) : BudgetEvent → Prop
  | .releaseReservation grant _ => grant ∈ before.outstanding →
      before.Current grant ∨ ∀ other ∈ before.outstanding, ¬ before.Current other
  | .applyCapacityObservation observation =>
      (∀ other ∈ before.observations, other.observedAt ≤ observation.observedAt) ∨
        ∃ newest, before.Newest newest ∧ newest.values = observation.values
  | _ => True

/-! The four statements on the row. -/

variable {window}

theorem find?_updateWindow {windows : Table WindowRow.window} {row : WindowRow}
    {update : WindowRow → WindowRow} {hkey : ∀ row, (update row).window = row.window}
    (hfind : windows.find? window = some row) :
    (windows.updateWhere (fun row => row.window = window) update hkey).find? window =
      some (update row) := by
  have hwindow := (Table.find?_eq_some_iff.mp hfind).2
  rw [Table.find?_updateWhere, hfind, Option.map_some, if_pos (decide_eq_true hwindow)]

theorem add_le_of_hasRoom {remaining : Option Nat} {reserved needed amount : Nat}
    (h : hasRoom remaining reserved needed = true) (hremaining : remaining = some amount) :
    reserved + needed ≤ amount := by
  subst hremaining
  simpa [hasRoom] using h

/-- What a granted reservation needed and what it leaves. -/
theorem tryReserve_some {windows after : Table WindowRow.window} {requestCount tokenCount : Nat}
    {now : Int} {reservation : CapacityReservation}
    (h : tryReserve windows window requestCount tokenCount now = .ok (some reservation, after)) :
    0 < reservation.requestCount ∧ 0 < reservation.tokenCount ∧ reservation.window = window ∧
      ∃ row reserved, windows.find? window = some row ∧ after.find? window = some reserved ∧
        reserved.values = row.values ∧ ∀ counter : Counter,
          counter.reserved reserved = counter.reserved row + counter.taken reservation ∧
          ∀ amount, counter.remaining row = some amount →
            counter.reserved row + counter.taken reservation ≤ amount := by
  unfold tryReserve at h
  split at h
  · cases h
  split at h
  · cases h
  next hrequests htokens =>
  cases hfind : windows.find? window with
  | none =>
    rw [hfind] at h
    cases h
  | some row =>
    rw [hfind] at h
    dsimp only at h
    split at h
    · next hgranted =>
      cases h
      simp only [Bool.and_eq_true] at hgranted
      obtain ⟨⟨⟨⟨_, hminuteRequests⟩, hminuteTokens⟩, hdailyRequests⟩, hdailyTokens⟩ := hgranted
      refine ⟨Nat.pos_of_ne_zero hrequests, Nat.pos_of_ne_zero htokens, rfl, row, _, rfl,
        find?_updateWindow hfind, rfl, ?_⟩
      intro counter
      cases counter with
      | minuteRequests => exact ⟨rfl, fun _ => add_le_of_hasRoom hminuteRequests⟩
      | minuteTokens => exact ⟨rfl, fun _ => add_le_of_hasRoom hminuteTokens⟩
      | dailyRequests => exact ⟨rfl, fun _ => add_le_of_hasRoom hdailyRequests⟩
      | dailyTokens => exact ⟨rfl, fun _ => add_le_of_hasRoom hdailyTokens⟩
    · cases h

theorem tryReserve_none {windows after : Table WindowRow.window} {requestCount tokenCount : Nat}
    {now : Int} (h : tryReserve windows window requestCount tokenCount now = .ok (none, after)) :
    after = windows := by
  unfold tryReserve at h
  split at h
  · cases h
  split at h
  · cases h
  cases hfind : windows.find? window with
  | none =>
    rw [hfind] at h
    cases h
    rfl
  | some row =>
    rw [hfind] at h
    dsimp only at h
    split at h
    · cases h
    · cases h
      rfl

theorem find?_releaseReservation {windows : Table WindowRow.window} {row : WindowRow}
    {reservation : CapacityReservation} (now : Int) (hwindow : reservation.window = window)
    (hfind : windows.find? window = some row) :
    ∃ released, (releaseReservation windows reservation now).find? window = some released ∧
      released.values = row.values ∧ ∀ counter : Counter,
        counter.reserved released = counter.reserved row - counter.taken reservation := by
  subst hwindow
  refine ⟨_, find?_updateWindow hfind, rfl, ?_⟩
  intro counter
  cases counter <;> rfl

theorem find?_freezeUntil {windows : Table WindowRow.window} {row : WindowRow}
    (frozenUntil now : Int) (hfind : windows.find? window = some row) :
    ∃ frozen, (freezeUntil windows window frozenUntil now).find? window = some frozen ∧
      frozen.values = row.values ∧ ∀ counter : Counter,
        counter.reserved frozen = counter.reserved row := by
  refine ⟨_, find?_updateWindow hfind, rfl, ?_⟩
  intro counter
  cases counter <;> rfl

/-! The counters and what is outstanding. -/

variable {before : WindowLedger}

/-- After an observation the counters are exactly what is outstanding. Before
the first one they may hold more. -/
structure LedgerExact (window : WindowKey) (ledger : WindowLedger) : Prop where
  granted : ∀ grant ∈ ledger.outstanding, grant.observations ≤ ledger.observations.length ∧
    0 < grant.reservation.requestCount ∧ 0 < grant.reservation.tokenCount ∧
    grant.reservation.window = window
  covered : ledger.Covered window
  observed : ledger.observations ≠ [] → ∃ row, ledger.windows.find? window = some row ∧
    ∀ counter : Counter, counter.reserved row = ledger.owed counter
  shows : ledger.ShowsNewest window

theorem Counter.taken_pos {reservation : CapacityReservation}
    (hrequests : 0 < reservation.requestCount) (htokens : 0 < reservation.tokenCount)
    (counter : Counter) : 0 < counter.taken reservation := by
  cases counter with
  | minuteRequests | dailyRequests => exact hrequests
  | minuteTokens | dailyTokens => exact htokens

/-- The part of what is owed that one grant makes up. -/
theorem owed_erase (windows : Table WindowRow.window) {grant : Grant} (counter : Counter)
    (hmem : grant ∈ before.outstanding) :
    grant.share before.observations.length counter +
      ({ before with windows, outstanding := before.outstanding.erase grant } :
        WindowLedger).owed counter = before.owed counter :=
  List.sum_map_erase (fun grant => grant.share before.observations.length counter) hmem

theorem share_of_current {grant : Grant} (h : before.Current grant) (counter : Counter) :
    grant.share before.observations.length counter = counter.taken grant.reservation :=
  if_pos h

theorem share_of_not_current {grant : Grant} (h : ¬ before.Current grant) (counter : Counter) :
    grant.share before.observations.length counter = 0 :=
  if_neg h

theorem owed_pos {grant : Grant} (hmem : grant ∈ before.outstanding)
    (hcurrent : before.Current grant) (hrequests : 0 < grant.reservation.requestCount)
    (htokens : 0 < grant.reservation.tokenCount) (counter : Counter) :
    0 < before.owed counter := by
  have hsum := owed_erase before.windows counter hmem
  have hpos := Counter.taken_pos hrequests htokens counter
  rw [share_of_current hcurrent] at hsum
  omega

theorem owed_eq_zero (h : ∀ grant ∈ before.outstanding, ¬ before.Current grant)
    (counter : Counter) : before.owed counter = 0 := by
  unfold WindowLedger.owed
  apply List.sum_eq_zero
  intro amount hamount
  obtain ⟨grant, hmem, rfl⟩ := List.mem_map.mp hamount
  exact share_of_not_current (h grant hmem) counter

/-- A statement that finds the row again, with its values, keeps showing them. -/
theorem showsNewest_of_values {after : WindowLedger} (h : before.ShowsNewest window)
    (hobservations : after.observations = before.observations)
    (hrow : ∀ row, before.windows.find? window = some row →
      ∃ later, after.windows.find? window = some later ∧ later.values = row.values) :
    after.ShowsNewest window := by
  intro hne
  rw [hobservations] at hne
  obtain ⟨row, newest, hfind, hnewest, hvalues⟩ := h hne
  obtain ⟨later, hlater, hsame⟩ := hrow row hfind
  refine ⟨later, newest, hlater, ?_, hsame.trans hvalues⟩
  unfold WindowLedger.Newest at hnewest ⊢
  rwa [hobservations]

namespace LedgerExact

theorem tryReserve (h : LedgerExact window before) (requestCount tokenCount : Nat) (now : Int) :
    LedgerExact window (performBudget window before (.tryReserve requestCount tokenCount now)) := by
  simp only [performBudget]
  split
  · next reservation windows hgranted =>
    obtain ⟨hrequests, htokens, hwindow, row, reserved, hfind, hreserved, hvalues, hcounters⟩ :=
      tryReserve_some hgranted
    have howed : ∀ counter : Counter, ({ before with
        windows := windows
        outstanding := ⟨reservation, before.observations.length⟩ :: before.outstanding } :
          WindowLedger).owed counter = counter.taken reservation + before.owed counter := by
      intro counter
      simp [WindowLedger.owed, Grant.share]
    constructor
    · intro grant hgrant
      rcases List.mem_cons.mp hgrant with rfl | hold
      · exact ⟨Nat.le_refl _, hrequests, htokens, hwindow⟩
      · exact h.granted grant hold
    · intro other hother counter
      rw [hreserved] at hother
      cases hother
      have hcovered := h.covered row hfind counter
      have hcounter := (hcounters counter).1
      rw [howed counter]
      omega
    · intro hne
      refine ⟨reserved, hreserved, ?_⟩
      intro counter
      obtain ⟨other, hother, hexact⟩ := h.observed hne
      rw [hfind] at hother
      cases hother
      have hcounter := (hcounters counter).1
      have hsame := hexact counter
      rw [howed counter]
      omega
    · refine showsNewest_of_values h.shows ?_ ?_
      · rfl
      intro other hother
      rw [hfind] at hother
      cases hother
      exact ⟨reserved, hreserved, hvalues⟩
  · next windows hrefused =>
    rw [tryReserve_none hrefused]
    exact h
  · exact h

theorem freezeUntil (h : LedgerExact window before) (frozenUntil now : Int) :
    LedgerExact window (performBudget window before (.freezeUntil frozenUntil now)) := by
  constructor
  · exact h.granted
  · intro row hrow counter
    cases hfind : before.windows.find? window with
    | none =>
      simp only [performBudget, CapacityAdmissionQueue.freezeUntil, Table.find?_updateWhere,
        hfind] at hrow
      cases hrow
    | some old =>
      obtain ⟨frozen, hfrozen, _, hsame⟩ := find?_freezeUntil frozenUntil now hfind
      have heq : frozen = row := Option.some.inj (hfrozen.symm.trans hrow)
      rw [← heq, hsame counter]
      exact h.covered old hfind counter
  · intro hne
    obtain ⟨row, hfind, hexact⟩ := h.observed hne
    obtain ⟨frozen, hfrozen, _, hsame⟩ := find?_freezeUntil frozenUntil now hfind
    exact ⟨frozen, hfrozen, fun counter => (hsame counter).trans (hexact counter)⟩
  · refine showsNewest_of_values h.shows ?_ ?_
    · rfl
    intro row hfind
    obtain ⟨frozen, hfrozen, hvalues, _⟩ := find?_freezeUntil frozenUntil now hfind
    exact ⟨frozen, hfrozen, hvalues⟩

theorem releaseReservation (h : LedgerExact window before) {grant : Grant} {now : Int}
    (hinOrder : InOrder before (.releaseReservation grant now)) :
    LedgerExact window (performBudget window before (.releaseReservation grant now)) := by
  simp only [performBudget]
  split
  · next hmem =>
    obtain ⟨_, hrequests, htokens, hwindow⟩ := h.granted grant hmem
    -- what is owed goes down with the counter, or nothing was owed
    have howed : ∀ counter : Counter, ({ before with
        windows := CapacityAdmissionQueue.releaseReservation before.windows grant.reservation now
        outstanding := before.outstanding.erase grant } : WindowLedger).owed counter =
          before.owed counter - counter.taken grant.reservation := by
      intro counter
      have hsum := owed_erase
        (CapacityAdmissionQueue.releaseReservation before.windows grant.reservation now) counter
        hmem
      rcases hinOrder hmem with hcurrent | hnone
      · rw [share_of_current hcurrent] at hsum
        omega
      · have hzero := owed_eq_zero hnone counter
        omega
    constructor
    · intro other hother
      exact h.granted other (List.mem_of_mem_erase hother)
    · intro row hrow counter
      cases hfind : before.windows.find? window with
      | none =>
        simp only [CapacityAdmissionQueue.releaseReservation, Table.find?_updateWhere,
          hfind] at hrow
        cases hrow
      | some old =>
        obtain ⟨released, hreleased, _, hcounters⟩ := find?_releaseReservation now hwindow hfind
        have heq : released = row := Option.some.inj (hreleased.symm.trans hrow)
        have hcovered := h.covered old hfind counter
        rw [← heq, hcounters counter, howed counter]
        omega
    · intro hne
      obtain ⟨row, hfind, hexact⟩ := h.observed hne
      obtain ⟨released, hreleased, _, hcounters⟩ := find?_releaseReservation now hwindow hfind
      refine ⟨released, hreleased, ?_⟩
      intro counter
      rw [hcounters counter, howed counter, hexact counter]
    · refine showsNewest_of_values h.shows ?_ ?_
      · rfl
      intro row hfind
      obtain ⟨released, hreleased, hvalues, _⟩ := find?_releaseReservation now hwindow hfind
      exact ⟨released, hreleased, hvalues⟩
  · exact h

/-- A late release while later reservations are outstanding takes their cover. -/
theorem inOrder_of_covered_release (h : LedgerExact window before) {grant : Grant} {now : Int}
    (hcovered : (performBudget window before (.releaseReservation grant now)).Covered window) :
    InOrder before (.releaseReservation grant now) := by
  intro hmem
  by_cases hcurrent : before.Current grant
  · exact .inl hcurrent
  · refine .inr ?_
    intro other hother hothers
    obtain ⟨hle, hrequests, htokens, hwindow⟩ := h.granted grant hmem
    obtain ⟨_, hotherRequests, hotherTokens, _⟩ := h.granted other hother
    have hne : before.observations ≠ [] := by
      intro hnil
      apply hcurrent
      unfold WindowLedger.Current
      rw [hnil, List.length_nil] at hle ⊢
      omega
    obtain ⟨row, hfind, hexact⟩ := h.observed hne
    obtain ⟨released, hreleased, _, hcounters⟩ := find?_releaseReservation now hwindow hfind
    simp only [performBudget, if_pos hmem] at hcovered
    have hcover := hcovered released hreleased .minuteRequests
    have hsum := owed_erase
      (CapacityAdmissionQueue.releaseReservation before.windows grant.reservation now)
      .minuteRequests hmem
    have hpos := owed_pos hother hothers hotherRequests hotherTokens .minuteRequests
    have htaken := Counter.taken_pos hrequests htokens .minuteRequests
    rw [hcounters .minuteRequests, hexact .minuteRequests] at hcover
    rw [share_of_not_current hcurrent] at hsum
    omega

/-- The newest observation of the ledger after one more. -/
theorem newest_cons_iff {observation newest : CapacityObservation}
    {windows : Table WindowRow.window} :
    ({ before with windows, observations := observation :: before.observations } :
        WindowLedger).Newest newest ↔
      (newest = observation ∧ ∀ other ∈ before.observations,
        other.observedAt ≤ observation.observedAt) ∨
      (before.Newest newest ∧ observation.observedAt ≤ newest.observedAt) := by
  unfold WindowLedger.Newest
  simp only [List.mem_cons, forall_eq_or_imp]
  constructor
  · rintro ⟨rfl | hmem, hself, hothers⟩
    · exact .inl ⟨rfl, hothers⟩
    · exact .inr ⟨⟨hmem, hothers⟩, hself⟩
  · rintro (⟨rfl, hothers⟩ | ⟨⟨hmem, hothers⟩, hself⟩)
    · exact ⟨.inl rfl, le_refl _, hothers⟩
    · exact ⟨.inr hmem, hself, hothers⟩

theorem showsNewest_observation_iff (before : WindowLedger) (observation : CapacityObservation) :
    (performBudget window before (.applyCapacityObservation observation)).ShowsNewest window ↔
      InOrder before (.applyCapacityObservation observation) := by
  obtain ⟨createdAt, hfind⟩ :=
    find?_applyCapacityObservation before.windows { observation with window }
  constructor
  · intro hshows
    obtain ⟨row, newest, hrow, hnewest, hvalues⟩ := hshows (List.cons_ne_nil _ _)
    have heq : observedRow { observation with window } createdAt = row :=
      Option.some.inj (hfind.symm.trans hrow)
    rcases newest_cons_iff.mp hnewest with ⟨rfl, hothers⟩ | ⟨hold, _⟩
    · exact .inl hothers
    · refine .inr ⟨newest, hold, ?_⟩
      rw [← hvalues, ← heq]
      rfl
  · intro hinOrder _
    refine ⟨observedRow { observation with window } createdAt, ?_⟩
    by_cases hothers : ∀ other ∈ before.observations, other.observedAt ≤ observation.observedAt
    · exact ⟨{ observation with window }, hfind, newest_cons_iff.mpr (.inl ⟨rfl, hothers⟩), rfl⟩
    · rcases hinOrder with hnew | ⟨newest, hold, hvalues⟩
      · exact absurd hnew hothers
      · refine ⟨newest, hfind, newest_cons_iff.mpr (.inr ⟨hold, ?_⟩), hvalues.symm⟩
        -- an earlier observation is later than this one, and the newest of them too
        obtain ⟨other, hother, hlater⟩ : ∃ other ∈ before.observations,
            observation.observedAt < other.observedAt := by
          by_contra hnone
          apply hothers
          intro other hother
          by_contra hlater
          exact hnone ⟨other, hother, by omega⟩
        have hle := hold.2 other hother
        dsimp only
        omega

theorem applyCapacityObservation (h : LedgerExact window before)
    {observation : CapacityObservation}
    (hinOrder : InOrder before (.applyCapacityObservation observation)) :
    LedgerExact window (performBudget window before (.applyCapacityObservation observation)) := by
  obtain ⟨createdAt, hfind⟩ :=
    find?_applyCapacityObservation before.windows { observation with window }
  have howed : ∀ counter : Counter,
      (performBudget window before (.applyCapacityObservation observation)).owed counter = 0 := by
    apply owed_eq_zero
    intro grant hmem hcurrent
    have hle := (h.granted grant hmem).1
    simp only [WindowLedger.Current, performBudget, List.length_cons] at hcurrent
    omega
  constructor
  · intro grant hmem
    obtain ⟨hle, hgranted⟩ := h.granted grant hmem
    refine ⟨?_, hgranted⟩
    simp only [performBudget, List.length_cons]
    omega
  · intro row _ counter
    rw [howed counter]
    exact Nat.zero_le _
  · intro _
    refine ⟨_, hfind, ?_⟩
    intro counter
    rw [howed counter]
    cases counter <;> rfl
  · exact (showsNewest_observation_iff before observation).mpr hinOrder

theorem perform (h : LedgerExact window before) {event : BudgetEvent}
    (hinOrder : InOrder before event) : LedgerExact window (performBudget window before event) := by
  cases event with
  | tryReserve requestCount tokenCount now => exact h.tryReserve requestCount tokenCount now
  | releaseReservation grant now => exact h.releaseReservation hinOrder
  | applyCapacityObservation observation => exact h.applyCapacityObservation hinOrder
  | freezeUntil frozenUntil now => exact h.freezeUntil frozenUntil now

theorem grantFits (h : LedgerExact window before) (event : BudgetEvent) :
    GrantFits window before event := by
  cases event with
  | tryReserve requestCount tokenCount now =>
    intro reservation windows hgranted row hfind counter amount hremaining
    obtain ⟨_, _, _, other, _, hother, _, _, hcounters⟩ := tryReserve_some hgranted
    rw [hfind] at hother
    cases hother
    have hcovered := h.covered row hfind counter
    have hroom := (hcounters counter).2 amount hremaining
    omega
  | releaseReservation _ _ | applyCapacityObservation _ | freezeUntil _ _ => trivial

theorem inOrder_of_exact {event : BudgetEvent} (h : LedgerExact window before)
    (hcovered : (performBudget window before event).Covered window)
    (hshows : (performBudget window before event).ShowsNewest window) : InOrder before event := by
  cases event with
  | releaseReservation grant now => exact h.inOrder_of_covered_release hcovered
  | applyCapacityObservation observation =>
    exact (showsNewest_observation_iff before observation).mp hshows
  | tryReserve _ _ _ | freezeUntil _ _ => trivial

end LedgerExact

/-- Over a run that starts with nothing outstanding and no observation, the
accounting is exact when the late calls are harmless, and only then. -/
theorem accountingExact_iff (window : WindowKey) (windows : Table WindowRow.window)
    (events : List BudgetEvent) :
    AccountingExact window ⟨windows, [], []⟩ events ↔
      EveryStep (performBudget window) InOrder ⟨windows, [], []⟩ events := by
  have hstart : LedgerExact window ⟨windows, [], []⟩ := by
    constructor
    · exact nofun
    · intro row _ counter
      exact Nat.zero_le _
    · exact fun hne => absurd rfl hne
    · exact fun hne => absurd rfl hne
  constructor
  · intro hexact
    apply hexact.of_invariant _ _ hstart
    · intro before event hbefore hafter
      exact hbefore.perform (hbefore.inOrder_of_exact hafter.1 hafter.2.1)
    · intro before event hbefore hafter
      exact hbefore.inOrder_of_exact hafter.1 hafter.2.1
  · intro hinOrder
    apply hinOrder.of_invariant _ _ hstart
    · exact fun before event hbefore hevent => hbefore.perform hevent
    · intro before event hbefore hevent
      have hafter := hbefore.perform hevent
      exact ⟨hafter.covered, hafter.shows, hbefore.grantFits event⟩

/-! Late calls of one worker while another one goes on. -/

def sampleWindow : WindowKey where
  provider := "groq"
  accountRef := some "account"
  modelRef := "qwen"

def sampleObservation (tokens : Nat) (observedAt : Int) : CapacityObservation where
  window := sampleWindow
  remainingMinuteRequests := some 60
  remainingMinuteTokens := some tokens
  remainingDailyRequests := some 1000
  remainingDailyTokens := some 500000
  minuteResetAt := none
  dailyResetAt := none
  observedAt := observedAt

/-- A reservation is released after an observation and another reservation. -/
def lateReleaseRun : List BudgetEvent :=
  [.applyCapacityObservation (sampleObservation 6000 1), .tryReserve 1 4000 1,
    .applyCapacityObservation (sampleObservation 2000 2), .tryReserve 1 2000 3,
    .releaseReservation ⟨⟨sampleWindow, 1, 4000, 1⟩, 1⟩ 4]

/-- The earlier of two observations is applied last. -/
def lateObservationRun : List BudgetEvent :=
  [.applyCapacityObservation (sampleObservation 2000 2),
    .applyCapacityObservation (sampleObservation 6000 1)]

theorem lateRuns_not_accountingExact :
    ¬ AccountingExact sampleWindow ⟨.empty, [], []⟩ lateReleaseRun ∧
      ¬ AccountingExact sampleWindow ⟨.empty, [], []⟩ lateObservationRun := by
  constructor
  · rintro ⟨_, _, _, _, ⟨hcovered, _⟩, _⟩
    have hle := hcovered _ rfl .minuteTokens
    revert hle
    decide
  · rintro ⟨_, ⟨_, hshows, _⟩, _⟩
    have hinOrder := (LedgerExact.showsNewest_observation_iff _ _).mp hshows
    rcases hinOrder with hnew | ⟨newest, hold, hvalues⟩
    · have hle := hnew (sampleObservation 2000 2) (List.mem_singleton_self _)
      revert hle
      decide
    · rw [List.mem_singleton.mp hold.1] at hvalues
      have hremaining := congrArg (fun values => values.remaining .minuteTokens) hvalues
      revert hremaining
      decide

end CrmBot.CapacityAdmissionQueue
