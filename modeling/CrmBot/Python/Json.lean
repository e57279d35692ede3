import Mathlib.Data.List.Chain
import Mathlib.Data.List.TakeWhile
import Mathlib.Data.Char

/-! `json.dumps` and `json.loads` on texts that may hold surrogates.

A Python text is a list of code points. A text that was decoded from bytes has no
surrogates and is a list of characters. The limits on nesting and on the digits of an
integer are left out. -/

namespace CrmBot.Python

/-- What a Python text consists of. -/
abbrev CodePoint := Fin 0x110000

abbrev PyText := List CodePoint

def codePoint (c : Char) : CodePoint :=
  ⟨c.toNat, by
    have hvalid : c.toNat.isValidChar := c.valid
    unfold Nat.isValidChar at hvalid
    omega⟩

def PyText.ofString (text : String) : PyText := text.toList.map codePoint

def CodePoint.isHighSurrogate (point : CodePoint) : Bool :=
  0xd800 ≤ point.val && point.val ≤ 0xdbff

def CodePoint.isLowSurrogate (point : CodePoint) : Bool :=
  0xdc00 ≤ point.val && point.val ≤ 0xdfff

/-- The character of a code point that is no surrogate. -/
def CodePoint.toChar? (point : CodePoint) : Option Char :=
  if point.isHighSurrogate || point.isLowSurrogate then none else some (Char.ofNat point.val)

/-- The text as UTF-8 can encode it. -/
def PyText.toString? (text : PyText) : Option String :=
  (text.mapM CodePoint.toChar?).map String.ofList

namespace Json

/-- A number with a fraction or an exponent is `mantissa * 10 ^ exponent`. -/
inductive Value
  | null
  | bool (value : Bool)
  | int (value : Int)
  | float (mantissa exponent : Int)
  | nan
  | infinity (negative : Bool)
  | str (text : PyText)
  | array (items : List Value)
  | object (entries : List (PyText × Value))

/-- `payload.get(key)`: the last entry of a key counts. -/
def get (entries : List (PyText × Value)) (key : PyText) : Option Value :=
  (entries.reverse.find? fun entry => entry.1 = key).map Prod.snd

/-! Writing, with `ensure_ascii`. -/

def hexDigits (unit : Nat) : List Char :=
  [Nat.digitChar (unit / 4096 % 16), Nat.digitChar (unit / 256 % 16),
    Nat.digitChar (unit / 16 % 16), Nat.digitChar (unit % 16)]

def highUnit (point : CodePoint) : CodePoint :=
  ⟨0xd800 + (point.val - 0x10000) / 0x400 % 0x400, by omega⟩

def lowUnit (point : CodePoint) : CodePoint := ⟨0xdc00 + (point.val - 0x10000) % 0x400, by omega⟩

/-- The code units of UTF-16 that a code point is escaped by. -/
def codeUnits (point : CodePoint) : List CodePoint :=
  if point.val < 0x10000 then [point] else [highUnit point, lowUnit point]

/-- The characters with an escape of their own, with its letter. -/
def escapes : List (Nat × Char) :=
  [(0x22, '"'), (0x5c, '\\'), (0x0a, 'n'), (0x0d, 'r'), (0x09, 't'), (0x0c, 'f'), (0x08, 'b')]

def escapedUnit (unit : CodePoint) : List Char := '\\' :: 'u' :: hexDigits unit.val

def escaped (point : CodePoint) : List Char :=
  match escapes.find? fun escape => escape.1 = point.val with
  | some escape => ['\\', escape.2]
  | none =>
    if 0x20 ≤ point.val ∧ point.val ≤ 0x7e then [Char.ofNat point.val]
    else (codeUnits point).flatMap escapedUnit

def dumpText (text : PyText) : List Char := '"' :: text.flatMap escaped ++ ['"']

def dumpInt (value : Int) : List Char :=
  if value < 0 then '-' :: Nat.toDigits 10 value.natAbs else Nat.toDigits 10 value.natAbs

/-- A value that is written without others in it. -/
inductive Scalar
  | int (value : Int)
  | str (text : PyText)

def Scalar.dump : Scalar → List Char
  | .int value => dumpInt value
  | .str text => dumpText text

def dumpEntry (entry : PyText × Scalar) : List Char :=
  dumpText entry.1 ++ ':' :: entry.2.dump

/-- `json.dumps` of a dictionary with `separators=(",", ":")`. -/
def dumpObject (entries : List (PyText × Scalar)) : List Char :=
  '{' :: List.intercalate [','] (entries.map dumpEntry) ++ ['}']

/-! Reading. -/

def isJsonSpace (c : Char) : Bool := c = ' ' || c = '\t' || c = '\n' || c = '\r'

def skipSpace (text : List Char) : List Char := text.dropWhile isJsonSpace

def hexValue? (c : Char) : Option Nat :=
  if '0' ≤ c ∧ c ≤ '9' then some (c.toNat - '0'.toNat)
  else if 'a' ≤ c ∧ c ≤ 'f' then some (c.toNat - 'a'.toNat + 10)
  else if 'A' ≤ c ∧ c ≤ 'F' then some (c.toNat - 'A'.toNat + 10)
  else none

/-- The code unit of four hexadecimal digits. -/
def hexUnit? (first second third fourth : Char) : Option CodePoint := do
  let first ← hexValue? first
  let second ← hexValue? second
  let third ← hexValue? third
  let fourth ← hexValue? fourth
  let unit := ((first * 16 + second) * 16 + third) * 16 + fourth
  if h : unit < 0x110000 then some ⟨unit, h⟩ else none

/-- The character that a letter after a backslash stands for. -/
def unescape? (letter : Char) : Option CodePoint :=
  if letter = '/' then some (codePoint '/')
  else ((escapes.find? fun escape => escape.2 = letter).map fun escape =>
    codePoint (Char.ofNat escape.1))

/-- The rest of a text literal, with the code units of its escapes, and what follows. -/
def scanUnits : List Char → Option (PyText × List Char)
  | [] => none
  | c :: rest =>
    if c = '"' then some ([], rest)
    else if c = '\\' then
      match rest with
      | 'u' :: first :: second :: third :: fourth :: rest =>
        match hexUnit? first second third fourth with
        | some unit => (scanUnits rest).map (Prod.map (unit :: ·) id)
        | none => none
      | letter :: rest =>
        match unescape? letter with
        | some point => (scanUnits rest).map (Prod.map (point :: ·) id)
        | none => none
      | [] => none
    else if c.toNat < 0x20 then none
    else (scanUnits rest).map (Prod.map (codePoint c :: ·) id)

/-- Surrogates that stand in a pair are one code point. -/
def joined (high low : CodePoint) : CodePoint :=
  ⟨(0x10000 + (high.val - 0xd800) % 0x400 * 0x400 + (low.val - 0xdc00) % 0x400), by omega⟩

def combine : PyText → PyText
  | high :: low :: rest =>
    if high.isHighSurrogate && low.isLowSurrogate then joined high low :: combine rest
    else high :: combine (low :: rest)
  | short => short

def scanText (text : List Char) : Option (PyText × List Char) :=
  (scanUnits text).map (Prod.map combine id)

def digitsOf (text : List Char) : List Char := text.takeWhile Char.isDigit

def afterDigits (text : List Char) : List Char := text.dropWhile Char.isDigit

/-- `0|[1-9][0-9]*`. -/
def integerPart? : List Char → Option (List Char × List Char)
  | '0' :: rest => some (['0'], rest)
  | text => if (digitsOf text).isEmpty then none else some (digitsOf text, afterDigits text)

/-- `(\.[0-9]+)?`. -/
def fractionPart (text : List Char) : List Char × List Char :=
  match text with
  | '.' :: rest =>
    if (digitsOf rest).isEmpty then ([], text) else (digitsOf rest, afterDigits rest)
  | _ => ([], text)

/-- `([eE][-+]?[0-9]+)?`. -/
def exponentPart (text : List Char) : Option Int × List Char :=
  match text with
  | e :: rest =>
    let (negative, digits) := match rest with
      | '-' :: digits => (true, digits)
      | '+' :: digits => (false, digits)
      | digits => (false, digits)
    if (e = 'e' ∨ e = 'E') ∧ ¬ (digitsOf digits).isEmpty then
      let size : Int := Nat.ofDigitChars 10 (digitsOf digits) 0
      (some (if negative then -size else size), afterDigits digits)
    else (none, text)
  | [] => (none, text)

/-- A number after its sign. -/
def scanUnsigned? (sign : Int) (text : List Char) : Option (Value × List Char) :=
  (integerPart? text).map fun (integer, afterInteger) =>
    let (fraction, afterFraction) := fractionPart afterInteger
    let (exponent, rest) := exponentPart afterFraction
    let mantissa : Int := sign * Nat.ofDigitChars 10 (integer ++ fraction) 0
    if fraction.isEmpty ∧ exponent = none then (.int mantissa, rest)
    else (.float mantissa (exponent.getD 0 - fraction.length), rest)

def scanNumber? : List Char → Option (Value × List Char)
  | '-' :: rest => scanUnsigned? (-1) rest
  | text => scanUnsigned? 1 text

/-- What follows a word at the front of a text. -/
def afterWord? (word : String) (text : List Char) : Option (List Char) :=
  if word.toList <+: text then some (text.drop word.length) else none

/-- The words that stand for values. -/
def words : List (String × Value) :=
  [("null", .null), ("true", .bool true), ("false", .bool false), ("NaN", .nan),
    ("Infinity", .infinity false), ("-Infinity", .infinity true)]

def scanWord? (text : List Char) : Option (Value × List Char) :=
  words.findSome? fun word => (afterWord? word.1 text).map fun rest => (word.2, rest)

/-- What follows a character. -/
def expect (c : Char) : List Char → Option (List Char)
  | [] => none
  | first :: rest => if first = c then some rest else none

mutual

/-- `scan_once`. Every call takes a character, so the length of the text is fuel enough. -/
def scanValue : Nat → List Char → Option (Value × List Char)
  | 0, _ => none
  | fuel + 1, text =>
    match text with
    | '"' :: text => (scanText text).map (Prod.map .str id)
    | '{' :: text =>
      match expect '}' (skipSpace text) with
      | some text => some (.object [], text)
      | none => (scanEntries fuel (skipSpace text)).map (Prod.map .object id)
    | '[' :: text =>
      match expect ']' (skipSpace text) with
      | some text => some (.array [], text)
      | none => (scanItems fuel (skipSpace text)).map (Prod.map .array id)
    | text => (scanNumber? text).orElse fun _ => scanWord? text

def scanItems : Nat → List Char → Option (List Value × List Char)
  | 0, _ => none
  | fuel + 1, text => do
    let (item, text) ← scanValue fuel text
    match expect ',' (skipSpace text) with
    | some text => (scanItems fuel (skipSpace text)).map (Prod.map (item :: ·) id)
    | none => (expect ']' (skipSpace text)).map fun text => ([item], text)

def scanEntries : Nat → List Char → Option (List (PyText × Value) × List Char)
  | 0, _ => none
  | fuel + 1, text => do
    let text ← expect '"' text
    let (key, text) ← scanText text
    let text ← expect ':' (skipSpace text)
    let (value, text) ← scanValue fuel (skipSpace text)
    match expect ',' (skipSpace text) with
    | some text => (scanEntries fuel (skipSpace text)).map (Prod.map ((key, value) :: ·) id)
    | none => (expect '}' (skipSpace text)).map fun text => ([(key, value)], text)

end

/-- `json.loads`. A text that starts with a byte order mark is refused. -/
def loads (text : List Char) : Option Value :=
  if text.head? = some '\uFEFF' then none
  else match scanValue (text.length + 1) (skipSpace text) with
    | some (value, rest) => if (skipSpace rest).isEmpty then some value else none
    | none => none

/-! What was written is read again. -/

theorem hexValue?_digitChar : ∀ digit < 16, hexValue? (Nat.digitChar digit) = some digit := by
  decide

theorem scanUnits_escapedUnit {unit : CodePoint} (h : unit.val < 0x10000) (rest : List Char) :
    scanUnits (escapedUnit unit ++ rest) = (scanUnits rest).map (Prod.map (unit :: ·) id) := by
  have hvalue : ((unit.val / 4096 % 16 * 16 + unit.val / 256 % 16) * 16 + unit.val / 16 % 16) * 16 +
      unit.val % 16 = unit.val := by omega
  have hunit : hexUnit? (Nat.digitChar (unit.val / 4096 % 16)) (Nat.digitChar (unit.val / 256 % 16))
      (Nat.digitChar (unit.val / 16 % 16)) (Nat.digitChar (unit.val % 16)) = some unit := by
    unfold hexUnit?
    rw [hexValue?_digitChar _ (by omega), hexValue?_digitChar _ (by omega),
      hexValue?_digitChar _ (by omega), hexValue?_digitChar _ (by omega)]
    simp [hvalue]
  simp only [escapedUnit, hexDigits, List.cons_append, List.nil_append]
  rw [scanUnits, if_neg (by decide), if_pos rfl]
  simp only [hunit]

theorem scanUnits_letter {letter : Char} {point : CodePoint} (hletter : letter ≠ 'u')
    (hpoint : unescape? letter = some point) (rest : List Char) :
    scanUnits ('\\' :: letter :: rest) = (scanUnits rest).map (Prod.map (point :: ·) id) := by
  rw [scanUnits, if_neg (by decide), if_pos rfl, hpoint]
  intro _ _ _ _ _ hu _
  exact hletter hu

theorem scanUnits_quote (rest : List Char) : scanUnits ('"' :: rest) = some ([], rest) := by
  rw [scanUnits.eq_def]
  rfl

theorem scanUnits_char {c : Char} (hquote : c ≠ '"') (hescape : c ≠ '\\') (hspace : 0x20 ≤ c.toNat)
    (rest : List Char) :
    scanUnits (c :: rest) = (scanUnits rest).map (Prod.map (codePoint c :: ·) id) := by
  rw [scanUnits.eq_def]
  dsimp only
  rw [if_neg hquote, if_neg hescape, if_neg (by omega)]

theorem unescape?_of_mem : ∀ escape ∈ escapes, escape.2 ≠ 'u' ∧
    unescape? escape.2 = some (codePoint (Char.ofNat escape.1)) ∧
      (Char.ofNat escape.1).toNat = escape.1 := by
  decide

theorem escape_lt : ∀ escape ∈ escapes, escape.1 < 0x10000 := by decide

theorem scanUnits_escaped (point : CodePoint) (rest : List Char) :
    scanUnits (escaped point ++ rest) =
      (scanUnits rest).map (Prod.map (codeUnits point ++ ·) id) := by
  unfold escaped
  cases hescape : escapes.find? fun escape => escape.1 = point.val with
  | some escape =>
    have hmem := List.mem_of_find?_eq_some hescape
    have hvalue : escape.1 = point.val := by simpa using List.find?_some hescape
    obtain ⟨hletter, hunescape, hchar⟩ := unescape?_of_mem escape hmem
    have hpoint : codePoint (Char.ofNat escape.1) = point := Fin.ext (hchar.trans hvalue)
    have hsmall : point.val < 0x10000 := hvalue ▸ escape_lt escape hmem
    rw [hpoint] at hunescape
    simp only [codeUnits, hsmall, if_true]
    exact scanUnits_letter hletter hunescape rest
  | none =>
    dsimp only
    split
    · next hprintable =>
      have hchar : (Char.ofNat point.val).toNat = point.val := by
        have hvalid : point.val.isValidChar := .inl (by omega)
        rw [Char.ofNat, dif_pos hvalid]
        rfl
      have hne : ∀ escape ∈ escapes, Char.ofNat point.val ≠ Char.ofNat escape.1 := by
        intro escape hmem heq
        have hvalue := congrArg Char.toNat heq
        rw [hchar, (unescape?_of_mem escape hmem).2.2] at hvalue
        have hother := List.find?_eq_none.mp hescape escape hmem
        simp [hvalue] at hother
      have hpoint : codePoint (Char.ofNat point.val) = point := Fin.ext hchar
      rw [List.singleton_append, scanUnits_char (hne (0x22, '"') (by decide))
        (hne (0x5c, '\\') (by decide)) (by omega), hpoint, codeUnits, if_pos (by omega)]
      rfl
    · unfold codeUnits
      split
      · next hsmall =>
        simp only [List.flatMap_cons, List.flatMap_nil, List.append_nil]
        exact scanUnits_escapedUnit hsmall rest
      · simp only [List.flatMap_cons, List.flatMap_nil, List.append_nil, List.append_assoc]
        rw [scanUnits_escapedUnit (by simp only [highUnit]; omega),
          scanUnits_escapedUnit (by simp only [lowUnit]; omega),
          Option.map_map]
        rfl

theorem scanUnits_dumpText (text : PyText) (rest : List Char) :
    scanUnits (text.flatMap escaped ++ '"' :: rest) = some (text.flatMap codeUnits, rest) := by
  induction text with
  | nil =>
    rw [List.flatMap_nil, List.nil_append, scanUnits_quote]
    rfl
  | cons point text ih =>
    rw [List.flatMap_cons, List.append_assoc, scanUnits_escaped, ih]
    rfl

/-! Surrogates that stand in a pair are not read as they were. -/

theorem joined_units {point : CodePoint} (h : ¬ point.val < 0x10000) :
    joined (highUnit point) (lowUnit point) = point := by
  apply Fin.ext
  simp only [joined, highUnit, lowUnit]
  omega

theorem isHighSurrogate_highUnit (point : CodePoint) : (highUnit point).isHighSurrogate = true := by
  simp only [CodePoint.isHighSurrogate, Bool.and_eq_true, decide_eq_true_eq]
  simp only [highUnit]
  omega

theorem isLowSurrogate_lowUnit (point : CodePoint) : (lowUnit point).isLowSurrogate = true := by
  simp only [CodePoint.isLowSurrogate, Bool.and_eq_true, decide_eq_true_eq]
  simp only [lowUnit]
  omega

theorem isLowSurrogate_highUnit (point : CodePoint) : (highUnit point).isLowSurrogate = false := by
  have hlow : ¬ 0xdc00 ≤ (highUnit point).val := by
    simp only [highUnit]
    omega
  rw [CodePoint.isLowSurrogate, decide_eq_false hlow, Bool.false_and]

theorem lt_of_isHighSurrogate {point : CodePoint} (h : point.isHighSurrogate = true) :
    point.val < 0x10000 := by
  simp only [CodePoint.isHighSurrogate, Bool.and_eq_true, decide_eq_true_eq] at h
  omega

theorem lt_of_isLowSurrogate {point : CodePoint} (h : point.isLowSurrogate = true) :
    point.val < 0x10000 := by
  simp only [CodePoint.isLowSurrogate, Bool.and_eq_true, decide_eq_true_eq] at h
  omega

theorem combine_codeUnits_append {point : CodePoint} (h : ¬ point.val < 0x10000) (rest : PyText) :
    combine (codeUnits point ++ rest) = point :: combine rest := by
  have hpair : ((highUnit point).isHighSurrogate && (lowUnit point).isLowSurrogate) = true := by
    rw [isHighSurrogate_highUnit, isLowSurrogate_lowUnit]
    rfl
  rw [codeUnits, if_neg h, List.cons_append, List.cons_append, List.nil_append, combine,
    if_pos hpair, joined_units h]

theorem codeUnits_ne_nil (point : CodePoint) : codeUnits point ≠ [] := by
  unfold codeUnits
  split <;> exact List.cons_ne_nil _ _

/-- The first code unit of a code point is a low surrogate only if the code point is. -/
theorem isLowSurrogate_of_codeUnits {point unit : CodePoint} {rest : PyText}
    (h : codeUnits point = unit :: rest) (hlow : unit.isLowSurrogate = true) :
    point.isLowSurrogate = true := by
  unfold codeUnits at h
  split at h
  · rw [(List.cons.inj h).1]
    exact hlow
  · rw [← (List.cons.inj h).1, isLowSurrogate_highUnit] at hlow
    cases hlow

/-- Writing the code units of a text joins no more than is joined in the text. -/
theorem combine_codeUnits (text : PyText) : combine (text.flatMap codeUnits) = combine text := by
  induction text using combine.induct with
  | case1 high low rest hpair ih =>
    rw [combine, if_pos hpair]
    rw [Bool.and_eq_true] at hpair
    rw [List.flatMap_cons, List.flatMap_cons, codeUnits, if_pos (lt_of_isHighSurrogate hpair.1),
      codeUnits, if_pos (lt_of_isLowSurrogate hpair.2), List.singleton_append,
      List.singleton_append, combine, if_pos (by simp [hpair]), ih]
  | case2 high low rest hpair ih =>
    rw [combine, if_neg hpair, List.flatMap_cons]
    by_cases hhigh : high.val < 0x10000
    · obtain ⟨unit, more, hunits⟩ := List.exists_cons_of_ne_nil (codeUnits_ne_nil low)
      rw [List.flatMap_cons, hunits, List.cons_append] at ih ⊢
      rw [codeUnits, if_pos hhigh, List.singleton_append, combine, if_neg, ih]
      rw [Bool.and_eq_true] at hpair ⊢
      exact fun h => hpair ⟨h.1, isLowSurrogate_of_codeUnits hunits h.2⟩
    · rw [combine_codeUnits_append hhigh, ih]
  | case3 short hshort =>
    match short, hshort with
    | [], _ => rfl
    | [point], _ =>
      by_cases hpoint : point.val < 0x10000
      · rw [List.flatMap_cons, codeUnits, if_pos hpoint]
        rfl
      · rw [List.flatMap_cons, combine_codeUnits_append hpoint]
        rfl
    | first :: second :: rest, hshort => exact (hshort first second rest rfl).elim

/-- No two code points of the text are the halves of another one. -/
def Unsplit (text : PyText) : Prop :=
  text.IsChain fun high low => ¬ (high.isHighSurrogate && low.isLowSurrogate) = true

theorem combine_eq_self_iff {text : PyText} : combine text = text ↔ Unsplit text := by
  unfold Unsplit
  induction text using combine.induct with
  | case1 high low rest hpair ih =>
    rw [combine, if_pos hpair, List.isChain_cons_cons]
    refine iff_of_false (fun heq => ?_) fun hchain => hchain.1 hpair
    have hjoined := congrArg Fin.val (List.cons.inj heq).1
    rw [Bool.and_eq_true] at hpair
    have hhigh := lt_of_isHighSurrogate hpair.1
    simp only [joined] at hjoined
    omega
  | case2 high low rest hpair ih =>
    rw [combine, if_neg hpair, List.isChain_cons_cons, List.cons.injEq, ih]
    simp [hpair]
  | case3 short hshort =>
    match short, hshort with
    | [], _ => simp [combine]
    | [point], _ => simp [combine]
    | first :: second :: rest, hshort => exact (hshort first second rest rfl).elim

/-! Numbers. -/

theorem head?_toDigits_ne {n : Nat} (h : 0 < n) : (Nat.toDigits 10 n).head? ≠ some '0' := by
  induction n using Nat.strongRecOn with
  | ind n ih =>
    by_cases hsmall : n < 10
    · have hdigit : ∀ n < 10, 0 < n → n.digitChar ≠ '0' := by decide
      rw [Nat.toDigits_of_lt_base hsmall]
      simpa using hdigit n hsmall h
    · rw [Nat.toDigits_of_base_le (by decide) (by omega), List.head?_append]
      have hhead := ih (n / 10) (by omega) (by omega)
      cases hdigits : Nat.toDigits 10 (n / 10) with
      | nil => exact absurd hdigits Nat.toDigits_ne_nil
      | cons digit digits =>
        rw [hdigits] at hhead
        simpa using hhead

theorem exists_toDigits (n : Nat) :
    ∃ digit digits, Nat.toDigits 10 n = digit :: digits ∧ digit.isDigit = true := by
  cases hdigits : Nat.toDigits 10 n with
  | nil => exact absurd hdigits Nat.toDigits_ne_nil
  | cons digit digits =>
    refine ⟨digit, digits, rfl,
      Nat.isDigit_of_mem_toDigits (b := 10) (n := n) (by decide) (by decide) ?_⟩
    simp [hdigits]

theorem digitsOf_append {digits : List Char} (hdigits : ∀ c ∈ digits, c.isDigit = true) {c : Char}
    (hc : c.isDigit = false) (rest : List Char) :
    digitsOf (digits ++ c :: rest) = digits ∧ afterDigits (digits ++ c :: rest) = c :: rest := by
  unfold digitsOf afterDigits
  rw [List.takeWhile_append_of_pos hdigits, List.dropWhile_append_of_pos hdigits]
  simp [hc]

theorem integerPart?_toDigits (n : Nat) {c : Char} (hc : c.isDigit = false) (rest : List Char) :
    integerPart? (Nat.toDigits 10 n ++ c :: rest) = some (Nat.toDigits 10 n, c :: rest) := by
  rcases Nat.eq_zero_or_pos n with rfl | hpos
  · rfl
  · have hall : ∀ c ∈ Nat.toDigits 10 n, c.isDigit = true :=
      fun c hmem => Nat.isDigit_of_mem_toDigits (by decide) (by decide) hmem
    obtain ⟨hdigits, hafter⟩ := digitsOf_append hall hc rest
    obtain ⟨digit, digits, heq, _⟩ := exists_toDigits n
    have hzero := head?_toDigits_ne hpos
    rw [heq] at hdigits hafter hzero ⊢
    rw [integerPart?.eq_def]
    split
    · next hfirst =>
      rw [List.cons_append] at hfirst
      simp [(List.cons.inj hfirst).1] at hzero
    · rw [hdigits, hafter]
      rfl

/-- What may follow a value in an object. -/
def EndsValue (c : Char) : Prop := c = ',' ∨ c = '}'

theorem scanUnsigned?_toDigits (sign : Int) (n : Nat) {c : Char} (hc : EndsValue c)
    (rest : List Char) :
    scanUnsigned? sign (Nat.toDigits 10 n ++ c :: rest) = some (.int (sign * n), c :: rest) := by
  have hdigit : c.isDigit = false := by rcases hc with rfl | rfl <;> rfl
  have hfraction : fractionPart (c :: rest) = ([], c :: rest) := by rcases hc with rfl | rfl <;> rfl
  have hexponent : exponentPart (c :: rest) = (none, c :: rest) := by
    rcases hc with rfl | rfl <;> simp [exponentPart]
  rw [scanUnsigned?, integerPart?_toDigits n hdigit, Option.map_some]
  dsimp only
  rw [hfraction]
  dsimp only
  rw [hexponent]
  simp [Nat.ofDigitChars_ten_toDigits]

theorem scanNumber?_dumpInt (value : Int) {c : Char} (hc : EndsValue c) (rest : List Char) :
    scanNumber? (dumpInt value ++ c :: rest) = some (.int value, c :: rest) := by
  unfold dumpInt
  split
  · next hnegative =>
    rw [List.cons_append, scanNumber?, scanUnsigned?_toDigits _ _ hc]
    have hvalue : -1 * (value.natAbs : Int) = value := by omega
    rw [hvalue]
  · next hnegative =>
    have hvalue : 1 * (value.natAbs : Int) = value := by omega
    have hscan := scanUnsigned?_toDigits 1 value.natAbs hc rest
    rw [hvalue] at hscan
    obtain ⟨digit, digits, heq, hdigit⟩ := exists_toDigits value.natAbs
    rw [heq] at hscan ⊢
    rw [scanNumber?.eq_def]
    split
    · next hsign =>
      rw [List.cons_append] at hsign
      rw [(List.cons.inj hsign).1] at hdigit
      cases hdigit
    · exact hscan

/-! Objects. -/

/-- What is read of a written value. -/
def Scalar.loaded : Scalar → Value
  | .int value => .int value
  | .str text => .str (combine text)

theorem scanText_dumpText (text : PyText) (rest : List Char) :
    scanText (text.flatMap escaped ++ '"' :: rest) = some (combine text, rest) := by
  rw [scanText, scanUnits_dumpText, Option.map_some, Prod.map_apply, combine_codeUnits, id]

/-- The first character of a number starts no text, object or array. -/
theorem exists_dumpInt (value : Int) :
    ∃ first rest, dumpInt value = first :: rest ∧ first ≠ '"' ∧ first ≠ '{' ∧ first ≠ '[' := by
  unfold dumpInt
  split
  · exact ⟨'-', _, rfl, by decide, by decide, by decide⟩
  · obtain ⟨digit, digits, heq, hdigit⟩ := exists_toDigits value.natAbs
    refine ⟨digit, digits, heq, ?_, ?_, ?_⟩
    all_goals
      rintro rfl
      cases hdigit

theorem scanValue_dump (value : Scalar) (fuel : Nat) {c : Char} (hc : EndsValue c)
    (rest : List Char) :
    scanValue (fuel + 1) (value.dump ++ c :: rest) = some (value.loaded, c :: rest) := by
  cases value with
  | str text =>
    simp only [Scalar.dump, dumpText, List.cons_append, List.append_assoc, List.nil_append]
    rw [scanValue, scanText_dumpText]
    rfl
  | int value =>
    have hnumber := scanNumber?_dumpInt value hc rest
    obtain ⟨first, more, heq, htext, hobject, harray⟩ := exists_dumpInt value
    simp only [Scalar.dump, heq, List.cons_append] at hnumber ⊢
    rw [scanValue, hnumber]
    · rfl
    · intro _ h
      exact htext (List.cons.inj h).1
    · intro _ h
      exact hobject (List.cons.inj h).1
    · intro _ h
      exact harray (List.cons.inj h).1

theorem skipSpace_cons {c : Char} (hc : isJsonSpace c = false) (rest : List Char) :
    skipSpace (c :: rest) = c :: rest := by
  rw [skipSpace, List.dropWhile_cons_of_neg (by simp [hc])]

/-- What is read of a written entry. -/
def loadedEntry (entry : PyText × Scalar) : PyText × Value := (combine entry.1, entry.2.loaded)

/-- No value starts with white space. -/
theorem skipSpace_dump (value : Scalar) (rest : List Char) :
    skipSpace (value.dump ++ rest) = value.dump ++ rest := by
  cases value with
  | str text => exact skipSpace_cons rfl _
  | int value =>
    change skipSpace (dumpInt value ++ rest) = dumpInt value ++ rest
    unfold dumpInt
    split
    · exact skipSpace_cons rfl _
    · obtain ⟨digit, digits, heq, hdigit⟩ := exists_toDigits value.natAbs
      rw [heq, List.cons_append]
      refine skipSpace_cons ?_ _
      cases hspace : isJsonSpace digit with
      | false => rfl
      | true =>
        simp only [isJsonSpace, Bool.or_eq_true, decide_eq_true_eq] at hspace
        rcases hspace with ((rfl | rfl) | rfl) | rfl <;> cases hdigit

/-- Written entries start with a key. -/
theorem exists_intercalate_dumpEntry (entry : PyText × Scalar) (others : List (PyText × Scalar)) :
    ∃ rest, List.intercalate [','] ((entry :: others).map dumpEntry) = '"' :: rest := by
  cases others with
  | nil => exact ⟨_, by rw [List.map_cons, List.map_nil, List.intercalate_singleton]; rfl⟩
  | cons next more =>
    exact ⟨_, by rw [List.map_cons, List.map_cons, List.intercalate_cons_cons]; rfl⟩

theorem length_le_dump (entries : List (PyText × Scalar)) :
    entries.length ≤ (List.intercalate [','] (entries.map dumpEntry)).length := by
  induction entries with
  | nil => exact Nat.zero_le _
  | cons entry others ih =>
    cases others with
    | nil =>
      obtain ⟨rest, hrest⟩ := exists_intercalate_dumpEntry entry []
      rw [hrest]
      simp
    | cons next more =>
      rw [List.map_cons, List.map_cons, List.intercalate_cons_cons, ← List.map_cons]
      simp only [List.length_cons, List.length_append, List.length_nil] at ih ⊢
      omega

@[simp] theorem expect_self (c : Char) (rest : List Char) : expect c (c :: rest) = some rest :=
  if_pos rfl

theorem expect_of_ne {c first : Char} (h : first ≠ c) (rest : List Char) :
    expect c (first :: rest) = none := if_neg h

/-- One written entry, and what follows it. -/
theorem scanEntries_dumpEntry (entry : PyText × Scalar) (fuel : Nat) {c : Char} (hc : EndsValue c)
    (rest : List Char) :
    scanEntries (fuel + 2) (dumpEntry entry ++ c :: rest) =
      match expect ',' (c :: rest) with
      | some text =>
        (scanEntries (fuel + 1) (skipSpace text)).map (Prod.map (loadedEntry entry :: ·) id)
      | none => (expect '}' (c :: rest)).map fun text => ([loadedEntry entry], text) := by
  obtain ⟨key, value⟩ := entry
  have hspace : isJsonSpace c = false := by rcases hc with rfl | rfl <;> rfl
  have hcolon : isJsonSpace ':' = false := rfl
  simp only [dumpEntry, dumpText, List.cons_append, List.append_assoc, List.nil_append]
  rw [scanEntries, expect_self]
  simp only [Option.bind_eq_bind, Option.bind_some, scanText_dumpText,
    skipSpace_cons hcolon, expect_self, skipSpace_dump, scanValue_dump value fuel hc,
      skipSpace_cons hspace]
  rfl

theorem scanEntries_dump (entries : List (PyText × Scalar)) (hne : entries ≠ []) {fuel : Nat}
    (hfuel : entries.length < fuel) (rest : List Char) :
    scanEntries fuel (List.intercalate [','] (entries.map dumpEntry) ++ '}' :: rest) =
      some (entries.map loadedEntry, rest) := by
  induction entries generalizing fuel with
  | nil => exact absurd rfl hne
  | cons entry entries ih =>
    obtain ⟨fuel, rfl⟩ : ∃ more, fuel = more + 2 := ⟨fuel - 2, by simp at hfuel; omega⟩
    cases entries with
    | nil =>
      rw [List.map_cons, List.map_nil, List.intercalate_singleton,
        scanEntries_dumpEntry entry fuel (.inr rfl), expect_of_ne (by decide), expect_self]
      rfl
    | cons next others =>
      rw [List.map_cons, List.map_cons, List.intercalate_cons_cons, List.append_assoc,
        List.append_assoc, List.singleton_append, scanEntries_dumpEntry entry fuel (.inl rfl),
        expect_self, ← List.map_cons]
      obtain ⟨first, hfirst⟩ := exists_intercalate_dumpEntry next others
      have hstart : skipSpace (List.intercalate [','] ((next :: others).map dumpEntry) ++
          '}' :: rest) = List.intercalate [',']
              ((next :: others).map dumpEntry) ++ '}' :: rest := by
        rw [hfirst]
        exact skipSpace_cons rfl _
      dsimp only
      rw [hstart, ih (List.cons_ne_nil _ _) (by simp only [List.length_cons] at hfuel ⊢; omega)]
      rfl

/-- A written dictionary is read with its surrogates joined. -/
theorem loads_dumpObject {entries : List (PyText × Scalar)} (hne : entries ≠ []) :
    loads (dumpObject entries) = some (.object (entries.map loadedEntry)) := by
  obtain ⟨entry, others, rfl⟩ := List.exists_cons_of_ne_nil hne
  obtain ⟨first, hfirst⟩ := exists_intercalate_dumpEntry entry others
  have hlength := length_le_dump (entry :: others)
  have hfuel : (entry :: others).length < (dumpObject (entry :: others)).length := by
    unfold dumpObject
    simp only [List.cons_append, List.length_cons, List.length_append] at hlength ⊢
    omega
  have hentries := scanEntries_dump (entry :: others) hne hfuel []
  have hscan : scanValue ((dumpObject (entry :: others)).length + 1)
      (dumpObject (entry :: others)) = some (.object ((entry :: others).map loadedEntry), []) := by
    unfold dumpObject at hentries ⊢
    rw [hfirst] at hentries ⊢
    simp only [List.cons_append] at hentries ⊢
    rw [scanValue, skipSpace_cons rfl, expect_of_ne (by decide)]
    dsimp only
    rw [hentries]
    rfl
  have hstart : skipSpace (dumpObject (entry :: others)) = dumpObject (entry :: others) :=
    skipSpace_cons rfl _
  rw [loads, hstart, hscan, if_neg nofun]
  rfl

end Json

end CrmBot.Python
