import CrmBot.Commercial.PriceKnowledge
import CrmBot.Library.Grouping

/-! Commercial facts of several sources: their conflicts, how a policy resolves
them, and the facts that reach retrieval. -/

namespace CrmBot.Commercial

open CrmBot.Python Grouping

/-! Sources. -/

inductive CommercialSourceKind
  | liveCrm
  | liveCatalog
  | liveBilling
  | liveStock
  | structuredPriceList
  | commercialOffer
  | faq
  | document
  | unknown
  deriving DecidableEq, Repr

inductive CommercialSourceAuthority
  | live
  | primary
  | supporting
  | unknown
  deriving DecidableEq, Repr

inductive CommercialTruthResolutionPolicy
  | manualReview
  | higherAuthorityWins
  | newerSourceWins
  deriving DecidableEq, Repr

def defaultCommercialSourceAuthority : CommercialSourceKind → CommercialSourceAuthority
  | .liveCrm | .liveCatalog | .liveBilling | .liveStock => .live
  | .structuredPriceList | .commercialOffer => .primary
  | .faq | .document => .supporting
  | .unknown => .unknown

def commercialSourceAuthorityRank : CommercialSourceAuthority → ℕ
  | .live => 300
  | .primary => 200
  | .supporting => 100
  | .unknown => 0

@[ext]
structure CommercialSourceDescriptor where
  id : String
  kind : CommercialSourceKind
  authority : Option CommercialSourceAuthority := none
  observedAt : Option Int := none
  id_text : isBlank id = false

instance : DecidableEq CommercialSourceDescriptor := fun _ _ =>
  decidable_of_iff _ CommercialSourceDescriptor.ext_iff.symm

namespace CommercialSourceDescriptor

variable (source : CommercialSourceDescriptor)

def effectiveAuthority : CommercialSourceAuthority :=
  source.authority.getD (defaultCommercialSourceAuthority source.kind)

def authorityRank : ℕ := commercialSourceAuthorityRank source.effectiveAuthority

end CommercialSourceDescriptor

/-! Identities. -/

structure CommercialFactIdentity where
  projectId : String
  normalizedItemName : String
  normalizedUnit : String
  normalizedVariant : List (String × String)
  factKind : String := "price"
  deriving DecidableEq

/-- The order of pairs of texts. -/
def itemBefore (first second : String × String) : Prop :=
  first.1 < second.1 ∨ (first.1 = second.1 ∧ first.2 ≤ second.2)

instance : DecidableRel itemBefore := fun _ _ => inferInstanceAs (Decidable (_ ∨ _))

def CommercialFactIdentity.fromPriceFact (mapping : CaseMapping) (fact : PublishedPriceFact) :
    CommercialFactIdentity where
  projectId := fact.projectId
  normalizedItemName := fact.normalizedItemName mapping
  normalizedUnit := normalizeSlotValue mapping fact.unit
  normalizedVariant := (fact.normalizedVariant mapping).insertionSort itemBefore

/-! Value signatures. -/

/-- Digits behind the point when a decimal is written out. -/
def Decimal.places (amount : Decimal) : ℕ := (-amount.exponent).toNat

/-- `format(value, "f")`. -/
def decimalText (amount : Decimal) : String :=
  let digits := amount.coefficient * 10 ^ amount.exponent.toNat
  let scale := 10 ^ amount.places
  (if amount.negative then "-" else "") ++ toString (digits / scale) ++
    (if amount.places = 0 then "" else "." ++ zeroPadded amount.places (digits % scale))

def moneySignature (mapping : CaseMapping) (amount : MoneyAmount) : String × String :=
  (decimalText amount.amount, mapping.upper (strip amount.currency))

def rangeSignature (mapping : CaseMapping) (priceRange : PriceRange) :
    (String × String) × (String × String) :=
  (moneySignature mapping priceRange.minAmount, moneySignature mapping priceRange.maxAmount)

def normalizedConditions (mapping : CaseMapping) (conditions : List PriceCondition) :
    List String :=
  (conditions.map fun condition => normalizeSlotValue mapping condition.text).filter fun text =>
    text ≠ ""

def conditionSignature (mapping : CaseMapping) (conditions : List PriceCondition) : List String :=
  sorted (normalizedConditions mapping conditions)

structure CommercialFactValueSignature where
  valueKind : PriceValueKind
  amount : Option (String × String)
  priceRange : Option ((String × String) × (String × String))
  priceText : String
  conditions : List String
  deriving DecidableEq

def CommercialFactValueSignature.fromPriceFact (mapping : CaseMapping)
    (fact : PublishedPriceFact) : CommercialFactValueSignature where
  valueKind := fact.valueKind
  amount := fact.amount.map (moneySignature mapping)
  priceRange := fact.priceRange.map (rangeSignature mapping)
  priceText := normalizeSlotValue mapping fact.priceText
  conditions := conditionSignature mapping fact.conditions

/-! Snapshots and conflicts. -/

structure CommercialFactSnapshot where
  fact : PublishedPriceFact
  source : CommercialSourceDescriptor
  deriving DecidableEq

namespace CommercialFactSnapshot

variable (mapping : CaseMapping) (snapshot : CommercialFactSnapshot)

def identity : CommercialFactIdentity := .fromPriceFact mapping snapshot.fact

def valueSignature : CommercialFactValueSignature := .fromPriceFact mapping snapshot.fact

end CommercialFactSnapshot

structure CommercialConflictGroup where
  identity : CommercialFactIdentity
  snapshots : List CommercialFactSnapshot
  deriving DecidableEq

def CommercialConflictGroup.factIds (group : CommercialConflictGroup) : List String :=
  group.snapshots.map fun snapshot => snapshot.fact.id

/-- The set of the signatures of some snapshots. -/
def signaturesOf (mapping : CaseMapping) (snapshots : List CommercialFactSnapshot) :
    List CommercialFactValueSignature :=
  (snapshots.map (·.valueSignature mapping)).dedup

def detectCommercialFactConflicts (mapping : CaseMapping)
    (snapshots : List CommercialFactSnapshot) : List CommercialConflictGroup :=
  ((groupBy (·.identity mapping) snapshots).filter fun entry =>
    1 < (signaturesOf mapping entry.2).length).map fun entry =>
      { identity := entry.1, snapshots := entry.2 }

/-! Resolution. -/

inductive CommercialConflictResolutionStatus
  | unresolved
  | resolvedByPolicy
  deriving DecidableEq, Repr

structure CommercialConflictResolution where
  group : CommercialConflictGroup
  policy : CommercialTruthResolutionPolicy
  status : CommercialConflictResolutionStatus
  selectedSnapshot : Option CommercialFactSnapshot := none
  reason : String
  deriving DecidableEq

def CommercialConflictResolution.isResolved (resolution : CommercialConflictResolution) : Bool :=
  resolution.status = .resolvedByPolicy

/-- `_select_if_winners_share_single_value`. -/
def selectIfWinnersShareSingleValue (mapping : CaseMapping)
    (winners : List CommercialFactSnapshot) : Option CommercialFactSnapshot :=
  if (signaturesOf mapping winners).length = 1 then winners.head? else none

/-- The resolution when a policy has its winners. -/
def resolveByWinners (mapping : CaseMapping) (group : CommercialConflictGroup)
    (policy : CommercialTruthResolutionPolicy) (winners : List CommercialFactSnapshot)
    (tieReason selectedReason : String) : CommercialConflictResolution :=
  match selectIfWinnersShareSingleValue mapping winners with
  | none => { group := group, policy := policy, status := .unresolved, reason := tieReason }
  | some selected =>
    { group := group, policy := policy, status := .resolvedByPolicy
      selectedSnapshot := some selected, reason := selectedReason }

/-- The snapshots of maximal authority rank. -/
def authorityWinners (snapshots : List CommercialFactSnapshot) : List CommercialFactSnapshot :=
  snapshots.filter fun snapshot =>
    (snapshots.map (·.source.authorityRank)).max? = some snapshot.source.authorityRank

/-- `_resolve_by_higher_authority`. -/
def resolveByHigherAuthority (mapping : CaseMapping) (group : CommercialConflictGroup)
    (policy : CommercialTruthResolutionPolicy) : CommercialConflictResolution :=
  resolveByWinners mapping group policy (authorityWinners group.snapshots)
    "higher_authority_tie_requires_manual_review" "higher_authority_source_selected"

/-- The snapshots of the latest date. -/
def newestWinners (snapshots : List CommercialFactSnapshot) : List CommercialFactSnapshot :=
  snapshots.filter fun snapshot =>
    snapshot.source.observedAt ≠ none &&
      (snapshots.filterMap (·.source.observedAt)).max? = snapshot.source.observedAt

/-- `_resolve_by_newer_source`. -/
def resolveByNewerSource (mapping : CaseMapping) (group : CommercialConflictGroup)
    (policy : CommercialTruthResolutionPolicy) : CommercialConflictResolution :=
  if group.snapshots.filterMap (·.source.observedAt) = [] then
    { group := group, policy := policy, status := .unresolved
      reason := "newer_source_policy_requires_observed_at" }
  else
    resolveByWinners mapping group policy (newestWinners group.snapshots)
      "newer_source_tie_requires_manual_review" "newer_source_selected"

def resolveCommercialConflictByPolicy (mapping : CaseMapping) (group : CommercialConflictGroup) :
    CommercialTruthResolutionPolicy → CommercialConflictResolution
  | .manualReview =>
    { group := group, policy := .manualReview, status := .unresolved
      reason := "manual_review_required" }
  | .higherAuthorityWins => resolveByHigherAuthority mapping group .higherAuthorityWins
  | .newerSourceWins => resolveByNewerSource mapping group .newerSourceWins

/-! The retrieval surface. -/

/-- The fact a conflict contributes, if it is resolved with a published one. -/
def surfacedFact? (mapping : CaseMapping) (policy : CommercialTruthResolutionPolicy)
    (conflict : CommercialConflictGroup) : Option PublishedPriceFact :=
  let resolution := resolveCommercialConflictByPolicy mapping conflict policy
  if resolution.isResolved then
    (resolution.selectedSnapshot.map (·.fact)).filter (·.isRuntimeEligible)
  else none

def commercialRetrievalSurfaceFacts (mapping : CaseMapping)
    (snapshots : List CommercialFactSnapshot) (policy : CommercialTruthResolutionPolicy) :
    List PublishedPriceFact :=
  let conflicts := detectCommercialFactConflicts mapping snapshots
  let conflictedFactIds := conflicts.flatMap CommercialConflictGroup.factIds
  let selected := (snapshots.filter fun snapshot =>
    !conflictedFactIds.contains snapshot.fact.id && snapshot.fact.isRuntimeEligible).map (·.fact)
  keepFirst (·.id) (selected ++ conflicts.filterMap (surfacedFact? mapping policy))

end CrmBot.Commercial
