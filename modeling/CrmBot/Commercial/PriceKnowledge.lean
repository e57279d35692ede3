import CrmBot.Library.Ink
import CrmBot.Python.Text
import Mathlib.Data.Rat.Defs
import Mathlib.Algebra.Order.Field.Rat

/-! Published prices and their lookup.

The case mappings of the language enter as functions of `CaseMapping`; no result
depends on which functions they are. Amounts are finite decimals, kept as they
are written, with trailing zeros and a sign of zero. -/

namespace CrmBot.Commercial

open CrmBot.Python

/-! Texts. -/

/-- `str.lower` and `str.upper`. -/
structure CaseMapping where
  lower : String → String
  upper : String → String

/-- `" ".join(text.split())`. -/
def joinWords (text : List Char) : String :=
  String.ofList ([' '].intercalate (Ink.words isSpace text))

def normalizeSlotName (mapping : CaseMapping) (value : String) : String :=
  joinWords ((mapping.lower (strip value)).toList.map fun c => if c = '_' then ' ' else c)

def normalizeSlotValue (mapping : CaseMapping) (value : String) : String :=
  joinWords (mapping.lower (strip value)).toList

/-! Amounts. -/

/-- A finite `decimal.Decimal`. -/
structure Decimal where
  negative : Bool
  coefficient : ℕ
  exponent : ℤ
  deriving DecidableEq

/-- The number a decimal stands for. -/
def Decimal.value (amount : Decimal) : ℚ :=
  (if amount.negative then -1 else 1) * amount.coefficient * 10 ^ amount.exponent

@[ext]
structure MoneyAmount where
  amount : Decimal
  currency : String
  currency_text : isBlank currency = false

instance : DecidableEq MoneyAmount := fun _ _ =>
  decidable_of_iff _ MoneyAmount.ext_iff.symm

structure PriceRange where
  minAmount : MoneyAmount
  maxAmount : MoneyAmount
  currency_eq : minAmount.currency = maxAmount.currency
  amount_le : minAmount.amount.value ≤ maxAmount.amount.value
  deriving DecidableEq

@[ext]
structure PriceCondition where
  text : String
  text_text : isBlank text = false

instance : DecidableEq PriceCondition := fun _ _ =>
  decidable_of_iff _ PriceCondition.ext_iff.symm

/-! Facts. -/

inductive PriceFactStatus
  | draft
  | needsReview
  | published
  | rejected
  | superseded
  deriving DecidableEq, Repr

inductive PriceValueKind
  | exact
  | startingFrom
  | range
  | onRequest
  | unknown
  deriving DecidableEq, Repr

/-- What each kind of value requires of the price. -/
def PriceShape (priceRange : Option PriceRange) (priceText : String) (amount : Option MoneyAmount) :
    PriceValueKind → Prop
  | .exact | .startingFrom => amount ≠ none ∧ priceRange = none
  | .range => priceRange ≠ none ∧ amount = none
  | .onRequest => amount = none ∧ priceRange = none ∧ isBlank priceText = false
  | .unknown => False

@[ext]
structure PublishedPriceFact where
  id : String
  projectId : String
  itemName : String
  valueKind : PriceValueKind
  unit : String
  status : PriceFactStatus
  amount : Option MoneyAmount
  priceRange : Option PriceRange
  priceText : String
  variant : List (String × String)
  aliases : List String
  conditions : List PriceCondition
  id_text : isBlank id = false
  projectId_text : isBlank projectId = false
  itemName_text : isBlank itemName = false
  unit_text : isBlank unit = false
  variant_keys : (variant.map Prod.fst).Nodup
  shape : PriceShape priceRange priceText amount valueKind

instance : DecidableEq PublishedPriceFact := fun _ _ =>
  decidable_of_iff _ PublishedPriceFact.ext_iff.symm

/-- `mapping[key] = value`. -/
def setItem (key value : String) : List (String × String) → List (String × String)
  | [] => [(key, value)]
  | (first, old) :: rest =>
    if first = key then (first, value) :: rest else (first, old) :: setItem key value rest

/-- `mapping.get(key)`. -/
def getItem (items : List (String × String)) (key : String) : Option String :=
  (items.find? fun item => item.1 = key).map Prod.snd

/-- `normalized_variant`, and the normalized filters of a query: entries whose
name or value is blank are left out. -/
def normalizedItems (mapping : CaseMapping) (items : List (String × String)) :
    List (String × String) :=
  items.foldl (fun normalized item =>
    let name := normalizeSlotName mapping item.1
    let value := normalizeSlotValue mapping item.2
    if name ≠ "" ∧ value ≠ "" then setItem name value normalized else normalized) []

namespace PublishedPriceFact

variable (mapping : CaseMapping) (fact : PublishedPriceFact)

def normalizedItemName : String := normalizeSlotValue mapping fact.itemName

def normalizedVariant : List (String × String) := normalizedItems mapping fact.variant

def isRuntimeEligible : Bool := fact.status = .published

def matchesItem (queryItemName : String) : Bool :=
  let normalizedQuery := normalizeSlotValue mapping queryItemName
  if normalizedQuery = "" then false
  else normalizedQuery = fact.normalizedItemName mapping ||
    (fact.aliases.map (normalizeSlotValue mapping)).contains normalizedQuery

def matchesVariant (filters : List (String × String)) : Bool :=
  filters.all fun filter =>
    let key := normalizeSlotName mapping filter.1
    let value := normalizeSlotValue mapping filter.2
    key = "" || value = "" || getItem (fact.normalizedVariant mapping) key = some value

end PublishedPriceFact

/-! Lookup. -/

structure PriceLookupQuery where
  projectId : String
  itemName : String
  variantFilters : List (String × String)
  projectId_text : isBlank projectId = false
  itemName_text : isBlank itemName = false

/-- The decisions of a lookup; it never answers `UNSAFE`. -/
inductive PriceLookupDecision
  | answerable
  | needsClarification
  | requiresManager
  | notFound
  | conflict
  deriving DecidableEq, Repr

structure PriceLookupResult where
  decision : PriceLookupDecision
  facts : List PublishedPriceFact := []
  missingSlots : List String := []
  conflictReason : String := ""
  managerReason : String := ""
  deriving DecidableEq

def runtimeEligiblePriceFacts (facts : List PublishedPriceFact) : List PublishedPriceFact :=
  facts.filter PublishedPriceFact.isRuntimeEligible

/-- The facts of the item that a query asks for. -/
def eligibleFacts (mapping : CaseMapping) (query : PriceLookupQuery)
    (facts : List PublishedPriceFact) : List PublishedPriceFact :=
  (runtimeEligiblePriceFacts facts).filter fun fact =>
    fact.projectId = query.projectId && fact.matchesItem mapping query.itemName

/-- The required slots that the query has no filter for. -/
def missingSlots (mapping : CaseMapping) (query : PriceLookupQuery)
    (requiredVariantSlots : List String) : List String :=
  (requiredVariantSlots.map (normalizeSlotName mapping)).filter fun slot =>
    slot ≠ "" && (getItem (normalizedItems mapping query.variantFilters) slot).isNone

/-- Eligible facts that have every variant the query filters by. -/
def matchingFacts (mapping : CaseMapping) (query : PriceLookupQuery)
    (facts : List PublishedPriceFact) : List PublishedPriceFact :=
  (eligibleFacts mapping query facts).filter fun fact =>
    fact.matchesVariant mapping query.variantFilters

def lookupPriceFact (mapping : CaseMapping) (query : PriceLookupQuery)
    (facts : List PublishedPriceFact) (requiredVariantSlots : List String) : PriceLookupResult :=
  let eligible := eligibleFacts mapping query facts
  let missing := missingSlots mapping query requiredVariantSlots
  let found := matchingFacts mapping query facts
  if eligible = [] then { decision := .notFound }
  else if missing ≠ [] then
    { decision := .needsClarification, facts := eligible, missingSlots := missing }
  else match found with
    | [] => { decision := .notFound }
    | [fact] =>
      if fact.valueKind = .onRequest then
        { decision := .requiresManager, facts := [fact]
          managerReason := "price_available_on_request" }
      else { decision := .answerable, facts := [fact] }
    | _ =>
      { decision := .conflict, facts := found
        conflictReason := "multiple_published_price_facts_match_query" }

end CrmBot.Commercial
