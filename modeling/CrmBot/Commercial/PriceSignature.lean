import CrmBot.Commercial.DecimalText
import CrmBot.Commercial.PriceLookup
import Mathlib.Data.Finset.Dedup

/-! Signatures and the prices they stand for.

A signature keeps how a price is written: the places of its amounts, the sign of
a zero, the free text beside it, and how often a condition is repeated. -/

namespace CrmBot.Commercial

open CrmBot.Python Grouping

variable {mapping : CaseMapping} {snapshots : List CommercialFactSnapshot}

/-! Stated prices. -/

/-- What a fact says of a price. -/
structure StatedPrice where
  valueKind : PriceValueKind
  money : MoneyValue
  conditions : Finset String
  requestText : Option String
  deriving DecidableEq

def PublishedPriceFact.statedPrice (mapping : CaseMapping) (fact : PublishedPriceFact) :
    StatedPrice where
  valueKind := fact.valueKind
  money := fact.moneyValue mapping
  conditions := (normalizedConditions mapping fact.conditions).toFinset
  requestText := if fact.valueKind = .onRequest then
    some (normalizeSlotValue mapping fact.priceText) else none

/-- Two snapshots of the identity state different prices. -/
def PricesDiffer (mapping : CaseMapping) (snapshots : List CommercialFactSnapshot)
    (identity : CommercialFactIdentity) : Prop :=
  ∃ first ∈ snapshotsOf mapping snapshots identity,
    ∃ second ∈ snapshotsOf mapping snapshots identity,
      first.fact.statedPrice mapping ≠ second.fact.statedPrice mapping

/-- Exactly the identities whose snapshots state different prices are reported. -/
def ConflictsExact (mapping : CaseMapping) (snapshots : List CommercialFactSnapshot) : Prop :=
  ∀ identity,
    (∃ group ∈ detectCommercialFactConflicts mapping snapshots, group.identity = identity) ↔
      PricesDiffer mapping snapshots identity

/-! Spellings. -/

/-- The sign and the number of places an amount is written with. -/
def MoneyAmount.spelling (amount : MoneyAmount) : Bool × ℕ :=
  (amount.amount.negative, amount.amount.places)

/-- Besides the price, two facts have the spelling of the amounts, the
normalised text and the conditions with their repetitions in common. -/
structure WrittenAlike (mapping : CaseMapping) (first second : PublishedPriceFact) : Prop where
  amount : first.amount.map MoneyAmount.spelling = second.amount.map MoneyAmount.spelling
  bounds : first.priceRange.map (fun bounds =>
      (bounds.minAmount.spelling, bounds.maxAmount.spelling)) =
    second.priceRange.map fun bounds => (bounds.minAmount.spelling, bounds.maxAmount.spelling)
  text : normalizeSlotValue mapping first.priceText = normalizeSlotValue mapping second.priceText
  conditions : (normalizedConditions mapping first.conditions).Perm
    (normalizedConditions mapping second.conditions)

def UniformSpelling (mapping : CaseMapping) (snapshots : List CommercialFactSnapshot)
    (identity : CommercialFactIdentity) : Prop :=
  ∀ first ∈ snapshotsOf mapping snapshots identity,
    ∀ second ∈ snapshotsOf mapping snapshots identity,
      WrittenAlike mapping first.fact second.fact

theorem moneySignature_eq_iff (first second : MoneyAmount) :
    moneySignature mapping first = moneySignature mapping second ↔
      first.money mapping = second.money mapping ∧ first.spelling = second.spelling := by
  simp only [moneySignature, MoneyAmount.money, MoneyAmount.spelling, Prod.mk.injEq,
    decimalText_eq_iff]
  constructor
  · rintro ⟨⟨hvalue, hspelling⟩, hcurrency⟩
    exact ⟨⟨hvalue, hcurrency⟩, hspelling⟩
  · rintro ⟨⟨hvalue, hcurrency⟩, hspelling⟩
    exact ⟨⟨hvalue, hspelling⟩, hcurrency⟩

/-- What tells two values apart also tells optional values apart. -/
theorem option_map_eq_iff {α β γ δ : Type*} {whole : α → β} {first : α → γ} {second : α → δ}
    (hwhole : ∀ left right, whole left = whole right ↔
      first left = first right ∧ second left = second right) (left right : Option α) :
    left.map whole = right.map whole ↔
      left.map first = right.map first ∧ left.map second = right.map second := by
  cases left <;> cases right <;> simp [hwhole]

theorem rangeSignature_eq_iff (first second : PriceRange) :
    rangeSignature mapping first = rangeSignature mapping second ↔
      (first.minAmount.money mapping, first.maxAmount.money mapping) =
          (second.minAmount.money mapping, second.maxAmount.money mapping) ∧
        (first.minAmount.spelling, first.maxAmount.spelling) =
          (second.minAmount.spelling, second.maxAmount.spelling) := by
  simp only [rangeSignature, Prod.mk.injEq, moneySignature_eq_iff]
  exact and_and_and_comm

/-- One signature is one stated price, written alike. -/
theorem valueSignature_eq_iff {first second : PublishedPriceFact} :
    CommercialFactValueSignature.fromPriceFact mapping first = .fromPriceFact mapping second ↔
      first.statedPrice mapping = second.statedPrice mapping ∧
        WrittenAlike mapping first second := by
  have hamount : first.amount.map (moneySignature mapping) =
        second.amount.map (moneySignature mapping) ↔
      first.amount.map (MoneyAmount.money mapping) = second.amount.map (MoneyAmount.money mapping) ∧
        first.amount.map MoneyAmount.spelling = second.amount.map MoneyAmount.spelling :=
    option_map_eq_iff moneySignature_eq_iff _ _
  have hbounds : first.priceRange.map (rangeSignature mapping) =
        second.priceRange.map (rangeSignature mapping) ↔
      (first.moneyValue mapping).bounds = (second.moneyValue mapping).bounds ∧
        first.priceRange.map (fun bounds =>
            (bounds.minAmount.spelling, bounds.maxAmount.spelling)) =
          second.priceRange.map fun bounds =>
            (bounds.minAmount.spelling, bounds.maxAmount.spelling) :=
    option_map_eq_iff rangeSignature_eq_iff _ _
  simp only [CommercialFactValueSignature.fromPriceFact, CommercialFactValueSignature.mk.injEq,
    conditionSignature, sorted_eq_iff, hamount, hbounds]
  constructor
  · rintro ⟨hkind, ⟨hmoney, hspelling⟩, ⟨hboundsMoney, hboundsSpelling⟩, htext, hconditions⟩
    refine ⟨?_, hspelling, hboundsSpelling, htext, hconditions⟩
    have hvalue : first.moneyValue mapping = second.moneyValue mapping :=
      MoneyValue.mk.injEq _ _ _ _ ▸ ⟨hmoney, hboundsMoney⟩
    simp only [PublishedPriceFact.statedPrice, hvalue, hkind, htext,
      List.toFinset_eq_of_perm _ _ hconditions]
  · rintro ⟨hprice, halike⟩
    have hkind := congrArg StatedPrice.valueKind hprice
    have hmoney := congrArg StatedPrice.money hprice
    exact ⟨hkind, ⟨congrArg MoneyValue.amount hmoney, halike.amount⟩,
      ⟨congrArg MoneyValue.bounds hmoney, halike.bounds⟩, halike.text, halike.conditions⟩

/-- An identity is reported exactly when its snapshots disagree. -/
theorem exists_conflict_iff {identity : CommercialFactIdentity} :
    (∃ group ∈ detectCommercialFactConflicts mapping snapshots, group.identity = identity) ↔
      Conflicted mapping snapshots identity := by
  constructor
  · rintro ⟨group, hgroup, rfl⟩
    exact (mem_detectCommercialFactConflicts.mp hgroup).1
  · intro hconflicted
    exact ⟨⟨identity, snapshotsOf mapping snapshots identity⟩,
      mem_detectCommercialFactConflicts.mpr ⟨hconflicted, rfl⟩, rfl⟩

/-- Different prices are always reported. -/
theorem PricesDiffer.conflicted {identity : CommercialFactIdentity}
    (h : PricesDiffer mapping snapshots identity) : Conflicted mapping snapshots identity := by
  obtain ⟨first, hfirst, second, hsecond, hne⟩ := h
  refine ⟨first, hfirst, second, hsecond, fun hsame => hne ?_⟩
  exact (valueSignature_eq_iff.mp hsame).1

/-- Conflicts are exact exactly when the snapshots of every identity state
different prices or write their one price alike. -/
theorem conflictsExact_iff :
    ConflictsExact mapping snapshots ↔ ∀ identity,
      PricesDiffer mapping snapshots identity ∨ UniformSpelling mapping snapshots identity := by
  simp only [ConflictsExact, exists_conflict_iff]
  apply forall_congr'
  intro identity
  constructor
  · intro hexact
    by_cases hdiffer : PricesDiffer mapping snapshots identity
    · exact .inl hdiffer
    · right
      intro first hfirst second hsecond
      by_contra halike
      refine hdiffer (hexact.mp ⟨first, hfirst, second, hsecond, fun hsame => halike ?_⟩)
      exact (valueSignature_eq_iff.mp hsame).2
  · intro hcondition
    refine ⟨fun hconflicted => ?_, PricesDiffer.conflicted⟩
    rcases hcondition with hdiffer | huniform
    · exact hdiffer
    · obtain ⟨first, hfirst, second, hsecond, hne⟩ := hconflicted
      refine ⟨first, hfirst, second, hsecond, fun hprice => hne ?_⟩
      exact valueSignature_eq_iff.mpr ⟨hprice, huniform first hfirst second hsecond⟩

/-! One number written in two ways. -/

/-- Ten, written `10` and `10.0`. -/
def twoSpellings : List CommercialFactSnapshot :=
  [⟨proFact "fact-1" (proAmount 10 0) .published (Eq.refl false), priceList⟩,
    ⟨proFact "fact-2" (proAmount 100 (-1)) .published (Eq.refl false), faq⟩]

/-- The two are reported as a conflict although they state one price. -/
theorem twoSpellings_conflict : ¬ ConflictsExact plainCase twoSpellings := by
  intro hexact
  have hconflict : (detectCommercialFactConflicts plainCase twoSpellings).map (·.identity) =
      [.fromPriceFact plainCase (proFact "fact-1" (proAmount 10 0) .published (by decide))] := by
    decide +kernel
  have hprice : ∀ snapshot ∈ twoSpellings, snapshot.fact.statedPrice plainCase =
      (proFact "fact-1" (proAmount 10 0) .published (by decide)).statedPrice plainCase := by
    decide +kernel
  obtain ⟨group, hgroup⟩ := List.mem_map.mp (by
    rw [hconflict]
    exact List.mem_singleton_self _)
  obtain ⟨first, hfirst, second, hsecond, hne⟩ := (hexact _).mp ⟨group, hgroup⟩
  apply hne
  rw [hprice first (mem_snapshotsOf.mp hfirst).1, hprice second (mem_snapshotsOf.mp hsecond).1]

end CrmBot.Commercial
