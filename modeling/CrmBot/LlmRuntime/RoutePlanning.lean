import CrmBot.LlmRuntime.GroqResponse
import CrmBot.LlmRuntime.RouteCapacity
import Mathlib.Data.List.MinMax
import Mathlib.Data.Prod.Lex
import Mathlib.Order.Bounds.Basic

/-!
Planning of the next route after a failed attempt. The policy has no memory: it
moves across the candidates by the error kind, the failed route and what is
available now. Waiting times are read for minute limits only.
-/

namespace CrmBot.LlmRuntime

open CrmBot.Python

/-- `LlmRouteCandidate`. -/
structure RouteCandidate where
  route : RouteKey
  contextWindowTokens : Nat
  maxOutputTokens : Nat
  modelRank : Nat
  accountRank : Nat
  minuteCapacityAvailable : Bool
  dailyCapacityAvailable : Bool
  unavailableUntil : Option Int
  contextWindowTokens_pos : 0 < contextWindowTokens
  maxOutputTokens_pos : 0 < maxOutputTokens

def RouteCandidate.availableNow (candidate : RouteCandidate) : Bool :=
  candidate.minuteCapacityAvailable && candidate.dailyCapacityAvailable

/-- The kinds of `LlmRoutePlanDecision` with what each of them must carry. -/
inductive RoutePlan
  | useRoute (route : RouteKey)
  | retrySameRoute
  | waitUntil (instant : Int)
  | splitRequired
  | dailyExhausted
  | terminalFailure
  deriving DecidableEq, Repr

structure RoutePlanDecision where
  plan : RoutePlan
  errorKind : LlmErrorKind
  deriving DecidableEq

section Policy

def lowestAccountRank (candidates : List RouteCandidate) : Option RouteCandidate :=
  candidates.argmin RouteCandidate.accountRank

def lowestModelThenAccountRank (candidates : List RouteCandidate) : Option RouteCandidate :=
  candidates.argmin fun candidate => toLex (candidate.modelRank, candidate.accountRank)

def sameAccount (current candidate : RouteCandidate) : Bool :=
  candidate.route.provider = current.route.provider &&
    candidate.route.accountRef = current.route.accountRef

def preferSameAccountThenRank (current : RouteCandidate) (candidates : List RouteCandidate) :
    Option RouteCandidate :=
  match lowestModelThenAccountRank (candidates.filter (sameAccount current)) with
  | some selected => some selected
  | none => lowestModelThenAccountRank candidates

def nearestUnavailableUntil (candidates : List RouteCandidate) : Option Int :=
  (candidates.filterMap RouteCandidate.unavailableUntil).min?

/-- The plan for a selected candidate, if there is one. -/
def routeOr (otherwise : RoutePlan) (selected : Option RouteCandidate) : RoutePlan :=
  match selected with
  | some candidate => .useRoute candidate.route
  | none => otherwise

/-- What `_larger_context_route_or_split` and its sibling for outputs do. -/
def largerRouteOrSplit (size : RouteCandidate → Nat) (current : RouteCandidate)
    (candidates : List RouteCandidate) : RoutePlan :=
  routeOr .splitRequired (preferSameAccountThenRank current
    (candidates.filter fun candidate => candidate.availableNow && size current < size candidate))

def largerContextRouteOrSplit : RouteCandidate → List RouteCandidate → RoutePlan :=
  largerRouteOrSplit RouteCandidate.contextWindowTokens

def largerOutputRouteOrSplit : RouteCandidate → List RouteCandidate → RoutePlan :=
  largerRouteOrSplit RouteCandidate.maxOutputTokens

def sameModelOtherAccount (current candidate : RouteCandidate) : Bool :=
  candidate.route.provider = current.route.provider &&
    candidate.route.modelRef = current.route.modelRef &&
    candidate.route.accountRef ≠ current.route.accountRef

def otherModel (current candidate : RouteCandidate) : Bool :=
  candidate.route.provider = current.route.provider &&
    candidate.route.modelRef ≠ current.route.modelRef

def sameModelOtherAccountOrWait (current : RouteCandidate) (candidates : List RouteCandidate) :
    RoutePlan :=
  let waiting := match nearestUnavailableUntil candidates with
    | some instant => .waitUntil instant
    | none => .retrySameRoute
  routeOr waiting (lowestAccountRank
    (candidates.filter fun candidate =>
      candidate.availableNow && sameModelOtherAccount current candidate))

def selectAfterDailyLimit (current : RouteCandidate) (candidates : List RouteCandidate) :
    Option RouteCandidate :=
  match lowestAccountRank (candidates.filter fun candidate =>
      candidate.availableNow && sameModelOtherAccount current candidate) with
  | some selected => some selected
  | none =>
    lowestModelThenAccountRank (candidates.filter fun candidate =>
      candidate.availableNow && otherModel current candidate)

def sameModelOtherAccountThenOtherModelOrExhausted (current : RouteCandidate)
    (candidates : List RouteCandidate) : RoutePlan :=
  routeOr .dailyExhausted (selectAfterDailyLimit current candidates)

/-- The cascade of `decide` over the error kinds. -/
def planFrom (errorKind : LlmErrorKind) (current : RouteCandidate)
    (candidates : List RouteCandidate) : RoutePlan :=
  match errorKind with
  | .authError => .terminalFailure
  | .requestTooLarge => largerContextRouteOrSplit current candidates
  | .outputTooLarge => largerOutputRouteOrSplit current candidates
  | .minuteLimit => sameModelOtherAccountOrWait current candidates
  | .dailyLimit => sameModelOtherAccountThenOtherModelOrExhausted current candidates
  | _ => .retrySameRoute

/-- `LlmRoutePlanningPolicy.decide`. -/
def planRoute (errorKind : LlmErrorKind) (currentRoute : RouteKey)
    (candidates : List RouteCandidate) : Except Fault RoutePlanDecision :=
  match candidates.find? fun candidate => candidate.route = currentRoute with
  | none => .error (.valueError "current_route must be present in candidates")
  | some current => .ok ⟨planFrom errorKind current candidates, errorKind⟩

end Policy

section Specification

/-- The candidates that an error kind leaves to move to. -/
def Allowed (errorKind : LlmErrorKind) (current candidate : RouteCandidate) : Prop :=
  match errorKind with
  | .requestTooLarge => current.contextWindowTokens < candidate.contextWindowTokens
  | .outputTooLarge => current.maxOutputTokens < candidate.maxOutputTokens
  | .minuteLimit => sameModelOtherAccount current candidate = true
  | .dailyLimit =>
    sameModelOtherAccount current candidate = true ∨ otherModel current candidate = true
  | _ => False

structure Usable (errorKind : LlmErrorKind) (current candidate : RouteCandidate) : Prop where
  available : candidate.availableNow = true
  allowed : Allowed errorKind current candidate

/-- The order of the larger routes: those of the same account first. -/
def sameAccountFirst (current candidate : RouteCandidate) : Nat ×ₗ (Nat ×ₗ Nat) :=
  toLex (if sameAccount current candidate then 0 else 1,
    toLex (candidate.modelRank, candidate.accountRank))

/-- The order after a limit: other accounts of the same model first. Among them
only the account rank counts. -/
def sameModelFirst (current candidate : RouteCandidate) : Nat ×ₗ (Nat ×ₗ Nat) :=
  if sameModelOtherAccount current candidate then toLex (0, toLex (0, candidate.accountRank))
  else toLex (1, toLex (candidate.modelRank, candidate.accountRank))

/-- The policy order: a smaller key is preferred. -/
def preferenceKey (errorKind : LlmErrorKind) (current candidate : RouteCandidate) :
    Nat ×ₗ (Nat ×ₗ Nat) :=
  match errorKind with
  | .requestTooLarge | .outputTooLarge => sameAccountFirst current candidate
  | _ => sameModelFirst current candidate

/-- The first choice of the policy order among the usable candidates. -/
structure FirstChoice (errorKind : LlmErrorKind) (current : RouteCandidate)
    (candidates : List RouteCandidate) (candidate : RouteCandidate) : Prop where
  listed : candidate ∈ candidates
  usable : Usable errorKind current candidate
  preferred : ∀ other ∈ candidates, Usable errorKind current other →
    preferenceKey errorKind current candidate ≤ preferenceKey errorKind current other

def NoneUsable (errorKind : LlmErrorKind) (current : RouteCandidate)
    (candidates : List RouteCandidate) : Prop :=
  ∀ candidate ∈ candidates, ¬ Usable errorKind current candidate

/-- What a plan says about the candidates. -/
structure RoutePlan.Optimal (errorKind : LlmErrorKind) (current : RouteCandidate)
    (candidates : List RouteCandidate) (plan : RoutePlan) : Prop where
  useRoute_sound : ∀ route, plan = .useRoute route →
    ∃ candidate, candidate.route = route ∧ FirstChoice errorKind current candidates candidate
  useRoute_complete : ¬ NoneUsable errorKind current candidates →
    ∃ route, plan = .useRoute route
  split_iff : plan = .splitRequired ↔
    (errorKind = .requestTooLarge ∨ errorKind = .outputTooLarge) ∧
      NoneUsable errorKind current candidates
  exhausted_iff : plan = .dailyExhausted ↔
    errorKind = .dailyLimit ∧ NoneUsable errorKind current candidates
  wait_iff : ∀ instant, plan = .waitUntil instant ↔
    errorKind = .minuteLimit ∧ NoneUsable errorKind current candidates ∧
      IsLeast {waiting | ∃ candidate ∈ candidates, candidate.unavailableUntil = some waiting}
        instant

end Specification

section Selection

variable {errorKind : LlmErrorKind} {current : RouteCandidate}
  {candidates : List RouteCandidate}

/-- A selection finds the first choice, or there is no usable candidate. -/
structure SelectsFirst (errorKind : LlmErrorKind) (current : RouteCandidate)
    (candidates : List RouteCandidate) (selected : Option RouteCandidate) : Prop where
  found : ∀ candidate, selected = some candidate →
    FirstChoice errorKind current candidates candidate
  missing : selected = none → NoneUsable errorKind current candidates

/-- Selecting the least key of some candidates, when no usable candidate is
preferred to them. -/
theorem firstChoice_of_argmin {κ : Type*} [LinearOrder κ] {candidate : RouteCandidate}
    {chosen : RouteCandidate → Bool} {key : RouteCandidate → κ}
    (hselected : (candidates.filter chosen).argmin key = some candidate)
    (husable : chosen candidate = true → Usable errorKind current candidate)
    (hkey : ∀ other ∈ candidates, chosen candidate = true → Usable errorKind current other →
      (chosen other = true → key candidate ≤ key other) →
      preferenceKey errorKind current candidate ≤ preferenceKey errorKind current other) :
    FirstChoice errorKind current candidates candidate := by
  have hmem := List.mem_filter.mp (List.argmin_mem hselected)
  refine ⟨hmem.1, husable hmem.2, fun other hlisted hother => ?_⟩
  apply hkey other hlisted hmem.2 hother
  intro hchosen
  exact List.le_of_mem_argmin (List.mem_filter.mpr ⟨hlisted, hchosen⟩) hselected

theorem not_chosen_of_argmin_none {κ : Type*} [LinearOrder κ] {chosen : RouteCandidate → Bool}
    {key : RouteCandidate → κ} (hnone : (candidates.filter chosen).argmin key = none) :
    ∀ candidate ∈ candidates, chosen candidate = false := by
  rw [List.argmin_eq_none, List.filter_eq_nil_iff] at hnone
  intro candidate hcandidate
  simpa using hnone candidate hcandidate

theorem selectsFirst_larger (size : RouteCandidate → Nat)
    (hallowed : ∀ candidate, Allowed errorKind current candidate ↔ size current < size candidate)
    (horder : ∀ candidate,
      preferenceKey errorKind current candidate = sameAccountFirst current candidate) :
    SelectsFirst errorKind current candidates
      (preferSameAccountThenRank current (candidates.filter fun candidate =>
        candidate.availableNow && size current < size candidate)) := by
  have husable (candidate : RouteCandidate) :
      (candidate.availableNow && decide (size current < size candidate)) = true ↔
        Usable errorKind current candidate := by
    rw [Bool.and_eq_true, decide_eq_true_eq, ← hallowed]
    exact ⟨fun h => ⟨h.1, h.2⟩, fun h => ⟨h.available, h.allowed⟩⟩
  unfold preferSameAccountThenRank lowestModelThenAccountRank
  split
  · next selected hselected =>
    -- A larger route of the same account.
    refine ⟨?_, nofun⟩
    rintro candidate ⟨⟩
    rw [List.filter_filter] at hselected
    apply firstChoice_of_argmin hselected
    · intro hchosen
      exact (husable _).mp (Bool.and_eq_true_iff.mp hchosen).2
    · intro other _ hchosen hother hle
      have hsame := (Bool.and_eq_true_iff.mp hchosen).1
      rw [horder, horder, sameAccountFirst, sameAccountFirst, if_pos hsame]
      by_cases hsameOther : sameAccount current other = true
      · rw [if_pos hsameOther, Prod.Lex.toLex_le_toLex]
        refine .inr ⟨rfl, hle ?_⟩
        rw [hsameOther, (husable other).mpr hother]
        rfl
      · rw [if_neg hsameOther, Prod.Lex.toLex_le_toLex]
        exact .inl Nat.zero_lt_one
  · next hnone =>
    rw [List.filter_filter] at hnone
    have hnotSame : ∀ candidate ∈ candidates, Usable errorKind current candidate →
        ¬ sameAccount current candidate = true := by
      intro candidate hcandidate hcandidateUsable hsame
      have hfalse := not_chosen_of_argmin_none hnone candidate hcandidate
      rw [hsame, (husable candidate).mpr hcandidateUsable] at hfalse
      cases hfalse
    constructor
    · intro candidate hselected
      have hlisted := List.mem_filter.mp (List.argmin_mem hselected)
      apply firstChoice_of_argmin hselected
      · exact (husable _).mp
      · intro other hother hchosen hotherUsable hle
        rw [horder, horder, sameAccountFirst, sameAccountFirst,
          if_neg (hnotSame candidate hlisted.1 ((husable _).mp hchosen)),
          if_neg (hnotSame other hother hotherUsable), Prod.Lex.toLex_le_toLex]
        exact .inr ⟨rfl, hle ((husable other).mpr hotherUsable)⟩
    · intro hmissing candidate hcandidate hcandidateUsable
      have hfalse := not_chosen_of_argmin_none hmissing candidate hcandidate
      rw [(husable candidate).mpr hcandidateUsable] at hfalse
      cases hfalse

theorem selectsFirst_minute :
    SelectsFirst .minuteLimit current candidates
      (lowestAccountRank (candidates.filter fun candidate =>
        candidate.availableNow && sameModelOtherAccount current candidate)) := by
  have hkey (candidate : RouteCandidate) :
      preferenceKey .minuteLimit current candidate = sameModelFirst current candidate := rfl
  unfold lowestAccountRank
  constructor
  · intro candidate hselected
    apply firstChoice_of_argmin hselected
    · intro hchosen
      exact ⟨(Bool.and_eq_true_iff.mp hchosen).1, (Bool.and_eq_true_iff.mp hchosen).2⟩
    · intro other _ hchosen hother hle
      have hallowed : sameModelOtherAccount current other = true := hother.allowed
      rw [hkey, hkey, sameModelFirst, sameModelFirst,
        if_pos (Bool.and_eq_true_iff.mp hchosen).2, if_pos hallowed]
      simp only [Prod.Lex.toLex_le_toLex, lt_self_iff_false, true_and, false_or]
      exact hle (Bool.and_eq_true_iff.mpr ⟨hother.available, hallowed⟩)
  · intro hmissing candidate hcandidate husable
    have hfalse := not_chosen_of_argmin_none hmissing candidate hcandidate
    rw [Bool.and_eq_true_iff.mpr ⟨husable.available, husable.allowed⟩] at hfalse
    cases hfalse

/-- After a daily limit another account of the model is the first choice, and
then another model. -/
theorem selectsFirst_daily :
    SelectsFirst .dailyLimit current candidates
      (selectAfterDailyLimit current candidates) := by
  have hkey (candidate : RouteCandidate) :
      preferenceKey .dailyLimit current candidate = sameModelFirst current candidate := rfl
  have hdisjoint (candidate : RouteCandidate) (hother : otherModel current candidate = true) :
      sameModelOtherAccount current candidate = false := by
    simp only [otherModel, Bool.and_eq_true, decide_eq_true_eq] at hother
    simp [sameModelOtherAccount, hother.2]
  unfold selectAfterDailyLimit lowestAccountRank lowestModelThenAccountRank
  split
  · next selected hselected =>
    refine ⟨?_, nofun⟩
    rintro candidate ⟨⟩
    apply firstChoice_of_argmin hselected
    · intro hchosen
      exact ⟨(Bool.and_eq_true_iff.mp hchosen).1, .inl (Bool.and_eq_true_iff.mp hchosen).2⟩
    · intro other _ hchosen hother hle
      rw [hkey, hkey, sameModelFirst, sameModelFirst,
        if_pos (Bool.and_eq_true_iff.mp hchosen).2]
      by_cases hsame : sameModelOtherAccount current other = true
      · rw [if_pos hsame]
        simp only [Prod.Lex.toLex_le_toLex, lt_self_iff_false, true_and, false_or]
        exact hle (Bool.and_eq_true_iff.mpr ⟨hother.available, hsame⟩)
      · rw [if_neg hsame, Prod.Lex.toLex_le_toLex]
        exact .inl Nat.zero_lt_one
  · next hnone =>
    have hnotSame : ∀ candidate ∈ candidates, Usable .dailyLimit current candidate →
        otherModel current candidate = true := by
      intro candidate hcandidate husable
      have hfalse := not_chosen_of_argmin_none hnone candidate hcandidate
      rcases husable.allowed with hsame | hother
      · rw [Bool.and_eq_true_iff.mpr ⟨husable.available, hsame⟩] at hfalse
        cases hfalse
      · exact hother
    constructor
    · intro candidate hselected
      apply firstChoice_of_argmin hselected
      · intro hchosen
        exact ⟨(Bool.and_eq_true_iff.mp hchosen).1, .inr (Bool.and_eq_true_iff.mp hchosen).2⟩
      · intro other hlisted hchosen hother hle
        have hotherModel := hnotSame other hlisted hother
        have hcandidateModel := (Bool.and_eq_true_iff.mp hchosen).2
        rw [hkey, hkey, sameModelFirst, sameModelFirst,
          if_neg (by rw [hdisjoint candidate hcandidateModel]; simp),
          if_neg (by rw [hdisjoint other hotherModel]; simp), Prod.Lex.toLex_le_toLex]
        exact .inr ⟨rfl, hle (Bool.and_eq_true_iff.mpr ⟨hother.available, hotherModel⟩)⟩
    · intro hmissing candidate hcandidate husable
      have hfalse := not_chosen_of_argmin_none hmissing candidate hcandidate
      rw [Bool.and_eq_true_iff.mpr
        ⟨husable.available, hnotSame candidate hcandidate husable⟩] at hfalse
      cases hfalse

theorem nearestUnavailableUntil_eq_some_iff (instant : Int) :
    nearestUnavailableUntil candidates = some instant ↔
      IsLeast {waiting | ∃ candidate ∈ candidates, candidate.unavailableUntil = some waiting}
        instant := by
  have hmem (waiting : Int) :
      waiting ∈ candidates.filterMap RouteCandidate.unavailableUntil ↔
        ∃ candidate ∈ candidates, candidate.unavailableUntil = some waiting :=
    List.mem_filterMap
  rw [nearestUnavailableUntil, List.min?_eq_some_iff]
  simp only [hmem]
  rfl

end Selection

section Optimality

variable {errorKind : LlmErrorKind} {current : RouteCandidate}
  {candidates : List RouteCandidate}

/-- A plan made of a selection that finds the first choice. -/
theorem optimal_routeOr {otherwise : RoutePlan} {selected : Option RouteCandidate}
    (hselects : SelectsFirst errorKind current candidates selected)
    (hroute : ∀ route, otherwise ≠ .useRoute route)
    (hsplit : otherwise = .splitRequired ↔
      errorKind = .requestTooLarge ∨ errorKind = .outputTooLarge)
    (hexhausted : otherwise = .dailyExhausted ↔ errorKind = .dailyLimit)
    (hwait : ∀ instant, otherwise = .waitUntil instant ↔ errorKind = .minuteLimit ∧
      IsLeast {waiting | ∃ candidate ∈ candidates, candidate.unavailableUntil = some waiting}
        instant) :
    (routeOr otherwise selected).Optimal errorKind current candidates := by
  cases selected with
  | some candidate =>
    have hfirst := hselects.found candidate rfl
    have hsome : ¬ NoneUsable errorKind current candidates :=
      fun hnone => hnone candidate hfirst.listed hfirst.usable
    refine ⟨?_, fun _ => ⟨candidate.route, rfl⟩, ?_, ?_, fun instant => ?_⟩
    · rintro route ⟨⟩
      exact ⟨candidate, rfl, hfirst⟩
    · exact iff_of_false nofun fun h => hsome h.2
    · exact iff_of_false nofun fun h => hsome h.2
    · exact iff_of_false nofun fun h => hsome h.2.1
  | none =>
    have hnone := hselects.missing rfl
    refine ⟨fun route hplan => absurd hplan (hroute route), fun hsome => absurd hnone hsome,
      ?_, ?_, fun instant => ?_⟩
    · exact hsplit.trans (and_iff_left hnone).symm
    · exact hexhausted.trans (and_iff_left hnone).symm
    · rw [and_left_comm]
      exact (hwait instant).trans (and_iff_right hnone).symm

/-- A plan that moves nowhere, for an error kind that leaves no candidate. -/
theorem optimal_of_not_allowed {plan : RoutePlan}
    (hallowed : ∀ candidate, ¬ Allowed errorKind current candidate)
    (hplan : plan = .terminalFailure ∨ plan = .retrySameRoute)
    (hkind : errorKind ≠ .requestTooLarge ∧ errorKind ≠ .outputTooLarge ∧
      errorKind ≠ .dailyLimit ∧ errorKind ≠ .minuteLimit) :
    plan.Optimal errorKind current candidates := by
  have hnone : NoneUsable errorKind current candidates :=
    fun candidate _ husable => hallowed candidate husable.allowed
  obtain ⟨hrequest, houtput, hdaily, hminute⟩ := hkind
  refine ⟨fun route hroute => ?_, fun hsome => absurd hnone hsome, ?_, ?_, fun instant => ?_⟩
  · rcases hplan with rfl | rfl <;> cases hroute
  · refine iff_of_false ?_ fun h => h.1.elim hrequest houtput
    rcases hplan with rfl | rfl <;> exact nofun
  · refine iff_of_false ?_ fun h => hdaily h.1
    rcases hplan with rfl | rfl <;> exact nofun
  · refine iff_of_false ?_ fun h => hminute h.1
    rcases hplan with rfl | rfl <;> exact nofun

/-- Every plan of the cascade is optimal, for each error kind. -/
theorem optimal_planFrom (errorKind : LlmErrorKind) (current : RouteCandidate)
    (candidates : List RouteCandidate) :
    (planFrom errorKind current candidates).Optimal errorKind current candidates := by
  cases errorKind with
  | requestTooLarge =>
    apply optimal_routeOr (selectsFirst_larger _ (fun _ => Iff.rfl) fun _ => rfl)
    all_goals simp
  | outputTooLarge =>
    apply optimal_routeOr (selectsFirst_larger _ (fun _ => Iff.rfl) fun _ => rfl)
    all_goals simp
  | minuteLimit =>
    unfold planFrom sameModelOtherAccountOrWait
    have hwait (instant : Int) : nearestUnavailableUntil candidates = some instant ↔ _ :=
      nearestUnavailableUntil_eq_some_iff instant
    cases hnearest : nearestUnavailableUntil candidates with
    | some nearest =>
      apply optimal_routeOr selectsFirst_minute
      all_goals simp [← hwait, hnearest]
    | none =>
      apply optimal_routeOr selectsFirst_minute
      all_goals simp [← hwait, hnearest]
  | dailyLimit =>
    apply optimal_routeOr selectsFirst_daily
    all_goals simp
  | authError => exact optimal_of_not_allowed (fun _ => id) (.inl rfl) (by simp)
  | invalidOutput | validationFailed | emptyOutput | networkError | unknown =>
    exact optimal_of_not_allowed (fun _ => id) (.inr rfl) (by simp)

/-- Without any other account and any waiting time the route is tried again. -/
theorem planFrom_minuteLimit_of_no_wait (hnone : NoneUsable .minuteLimit current candidates)
    (hnearest : nearestUnavailableUntil candidates = none) :
    planFrom .minuteLimit current candidates = .retrySameRoute := by
  unfold planFrom sameModelOtherAccountOrWait
  simp only [hnearest]
  cases hselected : lowestAccountRank (candidates.filter fun candidate =>
      candidate.availableNow && sameModelOtherAccount current candidate) with
  | none => rfl
  | some candidate =>
    have hfirst := selectsFirst_minute.found candidate hselected
    exact absurd hfirst.usable (hnone candidate hfirst.listed)

/-- No error kind allows to move to the failed candidate itself. -/
theorem not_allowed_self : ¬ Allowed errorKind current current := by
  cases errorKind with
  | requestTooLarge | outputTooLarge => exact lt_irrefl _
  | minuteLimit => simp [Allowed, sameModelOtherAccount]
  | dailyLimit => simp [Allowed, sameModelOtherAccount, otherModel]
  | invalidOutput | validationFailed | emptyOutput | networkError | authError | unknown =>
    exact id

/-- A plan for a listed route is optimal, and never leads back to the failed
route when every route is listed once. -/
theorem planRoute_optimal (errorKind : LlmErrorKind) (currentRoute : RouteKey)
    (candidates : List RouteCandidate) :
    ((∀ candidate ∈ candidates, candidate.route ≠ currentRoute) ∧
      planRoute errorKind currentRoute candidates =
        .error (.valueError "current_route must be present in candidates")) ∨
    ∃ current ∈ candidates, current.route = currentRoute ∧
      ∃ plan : RoutePlan, planRoute errorKind currentRoute candidates = .ok ⟨plan, errorKind⟩ ∧
        plan.Optimal errorKind current candidates ∧
        ((candidates.map RouteCandidate.route).Nodup → plan ≠ .useRoute currentRoute) := by
  unfold planRoute
  cases hfind : candidates.find? fun candidate => candidate.route = currentRoute with
  | none =>
    refine .inl ⟨fun candidate hcandidate => ?_, rfl⟩
    simpa using List.find?_eq_none.mp hfind candidate hcandidate
  | some current =>
    have hlisted := List.mem_of_find?_eq_some hfind
    have hroute : current.route = currentRoute := by simpa using List.find?_some hfind
    have hoptimal := optimal_planFrom errorKind current candidates
    refine .inr ⟨current, hlisted, hroute, _, rfl, hoptimal, fun hunique hplan => ?_⟩
    obtain ⟨candidate, hsame, hfirst⟩ := hoptimal.useRoute_sound currentRoute hplan
    have heq := List.inj_on_of_nodup_map hunique hfirst.listed hlisted (hsame.trans hroute.symm)
    have hallowed := hfirst.usable.allowed
    rw [heq] at hallowed
    exact not_allowed_self hallowed

/-- A larger route that frees in a minute does not prevent a split, and a route
of another model shortens the waiting time after a minute limit. -/
theorem planRoute_waiting_ignored :
    planRoute .requestTooLarge ⟨"groq", "a", "small"⟩
        [⟨⟨"groq", "a", "small"⟩, 8000, 2000, 0, 0, true, true, none, by decide, by decide⟩,
          ⟨⟨"groq", "a", "large"⟩, 9000, 2000, 1, 0, false, true, some 60, by decide, by decide⟩] =
        .ok ⟨.splitRequired, .requestTooLarge⟩ ∧
      planRoute .minuteLimit ⟨"groq", "a", "small"⟩
          [⟨⟨"groq", "a", "small"⟩, 8000, 2000, 0, 0, false, true, some 120, by decide, by decide⟩,
            ⟨⟨"groq", "a", "large"⟩, 9000, 2000, 1, 0, false, true, some 60,
              by decide, by decide⟩] =
        .ok ⟨.waitUntil 60, .minuteLimit⟩ :=
  ⟨rfl, rfl⟩

end Optimality

section CandidateBuilder

/-- What the candidate builder reads of a `ModelProfile`. -/
structure RouteModel where
  providerId : String
  modelId : String
  contextWindowTokens : Nat
  maxOutputTokens : Nat
  modelRank : Nat
  enabled : Bool
  contextWindowTokens_pos : 0 < contextWindowTokens
  maxOutputTokens_pos : 0 < maxOutputTokens

structure ProviderAccount where
  providerId : String
  accountRef : String
  accountRank : Nat
  enabled : Bool

structure RouteAvailability where
  minuteCapacityAvailable : Bool := true
  dailyCapacityAvailable : Bool := true
  unavailableUntil : Option Int := none

def routeOf (model : RouteModel) (account : ProviderAccount) : RouteKey :=
  ⟨model.providerId, account.accountRef, model.modelId⟩

/-- The candidate of a model and an account, under the given availability. -/
def candidateOf (availability : RouteAvailability) (model : RouteModel)
    (account : ProviderAccount) : RouteCandidate where
  route := routeOf model account
  contextWindowTokens := model.contextWindowTokens
  maxOutputTokens := model.maxOutputTokens
  modelRank := model.modelRank
  accountRank := account.accountRank
  minuteCapacityAvailable := availability.minuteCapacityAvailable
  dailyCapacityAvailable := availability.dailyCapacityAvailable
  unavailableUntil := availability.unavailableUntil
  contextWindowTokens_pos := model.contextWindowTokens_pos
  maxOutputTokens_pos := model.maxOutputTokens_pos

def candidateOrder (candidate : RouteCandidate) :
    Nat ×ₗ (Nat ×ₗ (String ×ₗ (String ×ₗ String))) :=
  toLex (candidate.modelRank, toLex (candidate.accountRank, toLex (candidate.route.provider,
    toLex (candidate.route.modelRef, candidate.route.accountRef))))

/-- `LlmRouteCandidateBuilder.build_candidates`. -/
def buildCandidates (models : List RouteModel) (accounts : List ProviderAccount)
    (availabilityByRoute : RouteKey → Option RouteAvailability) : List RouteCandidate :=
  let candidates := (models.filter RouteModel.enabled).flatMap fun model =>
    (accounts.filter fun account =>
      account.enabled && account.providerId = model.providerId).map fun account =>
        candidateOf ((availabilityByRoute (routeOf model account)).getD {}) model account
  candidates.insertionSort fun first second => candidateOrder first ≤ candidateOrder second

variable {models : List RouteModel} {accounts : List ProviderAccount}
  {availabilityByRoute : RouteKey → Option RouteAvailability}

/-- The candidates are the enabled models on the enabled accounts of their provider. -/
theorem mem_buildCandidates {candidate : RouteCandidate} :
    candidate ∈ buildCandidates models accounts availabilityByRoute ↔
      ∃ model ∈ models, model.enabled = true ∧ ∃ account ∈ accounts, account.enabled = true ∧
        account.providerId = model.providerId ∧
        candidate = candidateOf ((availabilityByRoute (routeOf model account)).getD {})
          model account := by
  simp only [buildCandidates, List.mem_insertionSort, List.mem_flatMap, List.mem_filter,
    List.mem_map, Bool.and_eq_true, decide_eq_true_eq]
  constructor
  · rintro ⟨model, ⟨hmodel, henabled⟩, account, ⟨haccount, haccountEnabled, hprovider⟩, rfl⟩
    exact ⟨model, hmodel, henabled, account, haccount, haccountEnabled, hprovider, rfl⟩
  · rintro ⟨model, hmodel, henabled, account, haccount, haccountEnabled, hprovider, rfl⟩
    exact ⟨model, ⟨hmodel, henabled⟩, account, ⟨haccount, haccountEnabled, hprovider⟩, rfl⟩

/-- A route that is planned over built candidates belongs to an enabled model
and an enabled account of one provider, and both its capacities are available. -/
theorem planFrom_built {errorKind : LlmErrorKind} {current : RouteCandidate} {route : RouteKey}
    (hplan : planFrom errorKind current (buildCandidates models accounts availabilityByRoute) =
      .useRoute route) :
    ∃ model ∈ models, model.enabled = true ∧ ∃ account ∈ accounts, account.enabled = true ∧
      account.providerId = model.providerId ∧ route = routeOf model account ∧
      let availability := (availabilityByRoute route).getD {}
      availability.minuteCapacityAvailable = true ∧
        availability.dailyCapacityAvailable = true := by
  obtain ⟨candidate, rfl, hfirst⟩ :=
    (optimal_planFrom errorKind current _).useRoute_sound route hplan
  obtain ⟨model, hmodel, henabled, account, haccount, haccountEnabled, hprovider, rfl⟩ :=
    mem_buildCandidates.mp hfirst.listed
  exact ⟨model, hmodel, henabled, account, haccount, haccountEnabled, hprovider, rfl,
    Bool.and_eq_true_iff.mp hfirst.usable.available⟩

end CandidateBuilder

end CrmBot.LlmRuntime
