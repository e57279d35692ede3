import CrmBot.Commercial.PriceAcquisition
import CrmBot.Python.Numerals

/-! The price in a cell of a table.

A cell is searched for the first amount; a currency is read where the amount
ends, or else in the whole cell. Amounts that `Decimal` does not read raise. -/

namespace CrmBot.Commercial

open CrmBot.Python

def containsText (part text : String) : Bool := decide (part.toList <:+: text.toList)

/-! Amounts. -/

/-- `Decimal(text)` for a text of digits, points and white space. -/
def decimalOf? (text : List Char) : Option Decimal :=
  let numeral := Ink.trim isSpace text
  let whole := numeral.takeWhile isDecimal
  match numeral.dropWhile isDecimal with
  | [] => if whole = [] then none else some ⟨false, digitsValue whole, 0⟩
  | point :: fraction =>
    if point = '.' ∧ fraction.all isDecimal = true ∧ whole ++ fraction ≠ [] then
      some ⟨false, digitsValue (whole ++ fraction), -fraction.length⟩
    else none

/-- `MoneyAmount.from_text`. -/
def moneyAmountFromText (mapping : CaseMapping) (amount : List Char) (currency : String) :
    Except AcquisitionFault MoneyAmount :=
  match decimalOf? amount with
  | none => .error .invalidOperation
  | some number =>
    if hcurrency : isBlank (mapping.upper (strip currency)) = true then
      .error (.valueError "currency must not be empty")
    else .ok { amount := number, currency := mapping.upper (strip currency)
               currency_text := by simpa using hcurrency }

/-! The pattern of an amount, `(от\s+)?(\d[\d\s.,]*)\s*(currency)?`, where case is ignored. -/

/-- The characters that a letter of the pattern stands for. -/
def caseVariants (letter : Char) : List Char :=
  match letter with
  | 'о' => ['о', 'О', Char.ofNat 0x1c82]
  | 'т' => ['т', 'Т', Char.ofNat 0x1c84, Char.ofNat 0x1c85]
  | 'р' => ['р', 'Р']
  | 'у' => ['у', 'У']
  | 'б' => ['б', 'Б']
  | 's' => ['s', 'S', Char.ofNat 0x17f]
  | 'r' => ['r', 'R']
  | 'u' => ['u', 'U']
  | 'b' => ['b', 'B']
  | 'd' => ['d', 'D']
  | 'e' => ['e', 'E']
  | other => [other]

/-- The front of the text where it matches the word. -/
def matchedWord? : List Char → List Char → Option (List Char)
  | [], _ => some []
  | _ :: _, [] => none
  | letter :: word, c :: text =>
    if c ∈ caseVariants letter then (matchedWord? word text).map (c :: ·) else none

/-- The currency at the front of a text. The point of `руб.` is optional. -/
def currencyAt? (text : List Char) : Option (List Char) :=
  ["₽", "руб.", "руб", "rub", "usd", "eur", "$", "€"].findSome? fun word =>
    matchedWord? word.toList text

/-- `[\d\s.,]`. -/
def isAmountChar (c : Char) : Bool := isDecimal c || isSpace c || c = '.' || c = ','

/-- Whether the text ends in `от` and white space. -/
def endsInFrom (text : List Char) : Bool :=
  match text.reverse.takeWhile isSpace, text.reverse.dropWhile isSpace with
  | _ :: _, last :: first :: _ => last ∈ caseVariants 'т' && first ∈ caseVariants 'о'
  | _, _ => false

structure AmountMatch where
  hasPrefix : Bool
  amount : List Char
  currency : Option (List Char)
  deriving DecidableEq

/-- `_AMOUNT_RE.search`. The first digit begins the amount, and everything
around the amount may be missing. -/
def amountMatch? (text : List Char) : Option AmountMatch :=
  match text.dropWhile fun c => !isDecimal c with
  | [] => none
  | c :: rest => some
    { hasPrefix := endsInFrom (text.takeWhile fun c => !isDecimal c)
      amount := c :: rest.takeWhile isAmountChar
      currency := currencyAt? (rest.dropWhile isAmountChar) }

/-! Prices. -/

def onRequestMarkers : List String :=
  ["по запросу", "индивидуально", "индивидуальная", "рассчитывается", "on request", "custom"]

/-- `_currency_from_text`. -/
def currencyFromText (mapping : CaseMapping) (value : String) : Option String :=
  let normalized := mapping.lower (strip value)
  if containsText "₽" normalized || containsText "руб" normalized ||
      containsText "rub" normalized then some "RUB"
  else if containsText "$" normalized || containsText "usd" normalized then some "USD"
  else if containsText "€" normalized || containsText "eur" normalized then some "EUR"
  else none

/-- The amount without spaces, and with points for commas. -/
def plainAmount (amount : List Char) : List Char :=
  (amount.filter fun c => c ≠ ' ').map fun c => if c = ',' then '.' else c

/-- `_parse_price_value`. -/
def parsePriceValue (mapping : CaseMapping) (value : String) :
    Except AcquisitionFault (Option (PriceValueKind × Option MoneyAmount × String)) :=
  let normalized := mapping.lower (strip value)
  if normalized = "" then .ok none
  else if onRequestMarkers.any (containsText · normalized) then
    .ok (some (.onRequest, none, strip value))
  else match amountMatch? normalized.toList with
    | none => .ok none
    | some found =>
      match currencyFromText mapping (found.currency.elim value String.ofList) with
      | none => .ok none
      | some currency => do
        let amount ← moneyAmountFromText mapping (plainAmount found.amount) currency
        let kind := if found.hasPrefix || "от ".toList.isPrefixOf normalized.toList then
          PriceValueKind.startingFrom else .exact
        pure (some (kind, some amount, strip value))

/-- `_unit_from_price_text`. -/
def unitFromPriceText (mapping : CaseMapping) (value : String) : String :=
  let normalized := mapping.lower (strip value)
  if containsText "мес" normalized || containsText "month" normalized then "month"
  else if containsText "год" normalized || containsText "year" normalized then "year"
  else if containsText "час" normalized || containsText "hour" normalized then "hour"
  else if containsText "день" normalized || containsText "day" normalized then "day"
  else "item"

end CrmBot.Commercial
