import CrmBot.Commercial.UnpublishedFacts

/-! Looking a price up on the surface.

The surface keeps every fact of an identity whose sources agree; the lookup
takes more than one matching fact for a conflict. -/

namespace CrmBot.Commercial

open CrmBot.Python Grouping

variable {mapping : CaseMapping}

/-! Money values. -/

/-- The number and the currency of an amount. -/
def MoneyAmount.money (mapping : CaseMapping) (amount : MoneyAmount) : ℚ × String :=
  (amount.amount.value, mapping.upper (strip amount.currency))

/-- The money a fact names: an amount, the two bounds of a range, or nothing. -/
structure MoneyValue where
  amount : Option (ℚ × String)
  bounds : Option ((ℚ × String) × (ℚ × String))
  deriving DecidableEq

def PublishedPriceFact.moneyValue (mapping : CaseMapping) (fact : PublishedPriceFact) :
    MoneyValue where
  amount := fact.amount.map (MoneyAmount.money mapping)
  bounds := fact.priceRange.map fun priceRange =>
    (priceRange.minAmount.money mapping, priceRange.maxAmount.money mapping)

/-- One identity and one money value. -/
def SameQuote (mapping : CaseMapping) (first second : PublishedPriceFact) : Prop :=
  CommercialFactIdentity.fromPriceFact mapping first = .fromPriceFact mapping second ∧
    first.moneyValue mapping = second.moneyValue mapping

/-! The lookup. -/

/-- Two of the facts that match a query differ in identity or in money. -/
def QuotesDiffer (mapping : CaseMapping) (query : PriceLookupQuery)
    (facts : List PublishedPriceFact) : Prop :=
  ∃ first ∈ matchingFacts mapping query facts, ∃ second ∈ matchingFacts mapping query facts,
    ¬ SameQuote mapping first second

/-- When the query names the required variants and the matching facts quote one
price, the lookup answers with it; it reports a conflict only when they differ. -/
structure LookupAgrees (mapping : CaseMapping) (query : PriceLookupQuery)
    (facts : List PublishedPriceFact) (requiredVariantSlots : List String) : Prop where
  answers : missingSlots mapping query requiredVariantSlots = [] →
    matchingFacts mapping query facts ≠ [] →
    (∀ fact ∈ matchingFacts mapping query facts, fact.valueKind ≠ .onRequest) →
    ¬ QuotesDiffer mapping query facts →
    ∃ fact ∈ matchingFacts mapping query facts,
      lookupPriceFact mapping query facts requiredVariantSlots =
        { decision := .answerable, facts := [fact] }
  conflicts :
    (lookupPriceFact mapping query facts requiredVariantSlots).decision = .conflict →
      QuotesDiffer mapping query facts

/-- At most one fact matches, or a required variant is missing, or the matching
facts differ. -/
def SingleOrDiffering (mapping : CaseMapping) (query : PriceLookupQuery)
    (facts : List PublishedPriceFact) (requiredVariantSlots : List String) : Prop :=
  (matchingFacts mapping query facts).length ≤ 1 ∨
    missingSlots mapping query requiredVariantSlots ≠ [] ∨ QuotesDiffer mapping query facts

section Lookup

variable {query : PriceLookupQuery} {facts : List PublishedPriceFact}
  {requiredVariantSlots : List String}

/-- Facts that match are eligible. -/
theorem eligibleFacts_ne_nil (h : matchingFacts mapping query facts ≠ []) :
    eligibleFacts mapping query facts ≠ [] := by
  intro hnone
  apply h
  rw [matchingFacts, hnone, List.filter_nil]

/-- One matching fact with a price is the answer. -/
theorem lookupPriceFact_single {fact : PublishedPriceFact}
    (hmissing : missingSlots mapping query requiredVariantSlots = [])
    (hfact : matchingFacts mapping query facts = [fact]) (hkind : fact.valueKind ≠ .onRequest) :
    lookupPriceFact mapping query facts requiredVariantSlots =
      { decision := .answerable, facts := [fact] } := by
  have heligible : eligibleFacts mapping query facts ≠ [] :=
    eligibleFacts_ne_nil (by rw [hfact]; exact List.cons_ne_nil _ _)
  simp only [lookupPriceFact, if_neg heligible, hmissing, ne_eq, not_true, if_false, hfact,
    if_neg hkind]

/-- The lookup reports a conflict exactly when several facts match. -/
theorem lookupPriceFact_conflict_iff :
    (lookupPriceFact mapping query facts requiredVariantSlots).decision = .conflict ↔
      missingSlots mapping query requiredVariantSlots = [] ∧
        1 < (matchingFacts mapping query facts).length := by
  by_cases heligible : eligibleFacts mapping query facts = []
  · have hnone : matchingFacts mapping query facts = [] := by
      rw [matchingFacts, heligible, List.filter_nil]
    simp [lookupPriceFact, heligible, hnone]
  · by_cases hmissing : missingSlots mapping query requiredVariantSlots = []
    · simp only [lookupPriceFact, if_neg heligible, hmissing, ne_eq, not_true, if_false, true_and]
      cases hfound : matchingFacts mapping query facts with
      | nil => simp
      | cons first rest =>
        cases rest with
        | nil => by_cases hkind : first.valueKind = .onRequest <;> simp [hkind]
        | cons second others => simp
    · simp [lookupPriceFact, heligible, hmissing]

/-- Whatever the facts, the lookup agrees with them exactly when one matches at
most, a required variant is missing, or the matching facts differ. -/
theorem lookupAgrees_iff_single :
    LookupAgrees mapping query facts requiredVariantSlots ↔
      SingleOrDiffering mapping query facts requiredVariantSlots := by
  constructor
  · intro hagrees
    by_contra hnot
    simp only [SingleOrDiffering, not_or, not_le, not_not] at hnot
    obtain ⟨hmany, hmissing, hsame⟩ := hnot
    exact hsame (hagrees.conflicts (lookupPriceFact_conflict_iff.mpr ⟨hmissing, hmany⟩))
  · intro hcondition
    constructor
    · intro hmissing hne hkind hsame
      have hfew := hcondition.resolve_right fun h => h.elim (fun hslots => hslots hmissing) hsame
      obtain ⟨fact, hfact⟩ : ∃ fact, matchingFacts mapping query facts = [fact] := by
        apply List.length_eq_one_iff.mp
        have hpos := List.length_pos_of_ne_nil hne
        omega
      have hmem : fact ∈ matchingFacts mapping query facts := by
        rw [hfact]
        exact List.mem_singleton_self _
      exact ⟨fact, hmem, lookupPriceFact_single hmissing hfact (hkind fact hmem)⟩
    · intro hconflict
      obtain ⟨hmissing, hmany⟩ := lookupPriceFact_conflict_iff.mp hconflict
      rcases hcondition with hfew | hslots | hdiffer
      · omega
      · exact absurd hmissing hslots
      · exact hdiffer

end Lookup

/-- The lookup over a surface. -/
theorem surfaceLookupAgrees_iff (snapshots : List CommercialFactSnapshot)
    (policy : CommercialTruthResolutionPolicy) (query : PriceLookupQuery)
    (requiredVariantSlots : List String) :
    LookupAgrees mapping query (commercialRetrievalSurfaceFacts mapping snapshots policy)
        requiredVariantSlots ↔
      SingleOrDiffering mapping query (commercialRetrievalSurfaceFacts mapping snapshots policy)
        requiredVariantSlots :=
  lookupAgrees_iff_single

/-! Two sources that agree. -/

def agreeingPrices : List CommercialFactSnapshot :=
  [⟨proFact "fact-1" (proAmount 2490 0) .published (Eq.refl false), priceList⟩,
    ⟨proFact "fact-2" (proAmount 2490 0) .published (Eq.refl false), faq⟩]

def proQuery : PriceLookupQuery where
  projectId := "project-1"
  itemName := "pro"
  variantFilters := []
  projectId_text := Eq.refl false
  itemName_text := Eq.refl false

/-- Both facts are surfaced, and the lookup calls their one price a conflict. -/
theorem agreeingPrices_conflict :
    ¬ LookupAgrees plainCase proQuery
      (commercialRetrievalSurfaceFacts plainCase agreeingPrices .manualReview) [] := by
  intro hagrees
  have hconflict : (lookupPriceFact plainCase proQuery
      (commercialRetrievalSurfaceFacts plainCase agreeingPrices .manualReview) []).decision =
        .conflict := by
    decide +kernel
  have hfacts : matchingFacts plainCase proQuery
      (commercialRetrievalSurfaceFacts plainCase agreeingPrices .manualReview) =
        [proFact "fact-1" (proAmount 2490 0) .published (by decide),
          proFact "fact-2" (proAmount 2490 0) .published (by decide)] := by
    decide +kernel
  obtain ⟨first, hfirst, second, hsecond, hdiffer⟩ := hagrees.conflicts hconflict
  rw [hfacts] at hfirst hsecond
  have hsame : ∀ fact ∈ [proFact "fact-1" (proAmount 2490 0) .published (by decide),
      proFact "fact-2" (proAmount 2490 0) .published (by decide)],
      CommercialFactIdentity.fromPriceFact plainCase fact =
        .fromPriceFact plainCase (proFact "fact-1" (proAmount 2490 0) .published (by decide)) ∧
      fact.moneyValue plainCase =
        (proFact "fact-1" (proAmount 2490 0) .published (by decide)).moneyValue plainCase := by
    intro fact hmem
    rcases List.mem_pair.mp hmem with rfl | rfl
    · exact ⟨rfl, rfl⟩
    · exact ⟨rfl, rfl⟩
  obtain ⟨hfirstIdentity, hfirstMoney⟩ := hsame first hfirst
  obtain ⟨hsecondIdentity, hsecondMoney⟩ := hsame second hsecond
  exact hdiffer ⟨hfirstIdentity.trans hsecondIdentity.symm, hfirstMoney.trans hsecondMoney.symm⟩

end CrmBot.Commercial
