import CrmBot.Library.Ink
import CrmBot.Python.Builtins
import Mathlib.Algebra.Field.Rat
import Mathlib.Algebra.Order.Ring.Rat

/-! The numerals that `int` and `float` read, with the decimal digits of Unicode.

A float is taken as the exact number that is written. -/

namespace CrmBot.Python

/-- The zeros of the blocks of ten decimal digits. -/
def digitZeros : List Nat :=
  [0x30, 0x660, 0x6f0, 0x7c0, 0x966, 0x9e6, 0xa66, 0xae6, 0xb66, 0xbe6, 0xc66, 0xce6, 0xd66, 0xde6,
    0xe50, 0xed0, 0xf20, 0x1040, 0x1090, 0x17e0, 0x1810, 0x1946, 0x19d0, 0x1a80, 0x1a90, 0x1b50,
    0x1bb0, 0x1c40, 0x1c50, 0xa620, 0xa8d0, 0xa900, 0xa9d0, 0xa9f0, 0xaa50, 0xabf0, 0xff10, 0x104a0,
    0x10d30, 0x11066, 0x110f0, 0x11136, 0x111d0, 0x112f0, 0x11450, 0x114d0, 0x11650, 0x116c0,
    0x11730, 0x118e0, 0x11950, 0x11c50, 0x11d50, 0x11da0, 0x11f50, 0x16a60, 0x16ac0, 0x16b50,
    0x1d7ce, 0x1d7d8, 0x1d7e2, 0x1d7ec, 0x1d7f6, 0x1e140, 0x1e2f0, 0x1e4f0, 0x1e950, 0x1fbf0]

def digitValue? (c : Char) : Option Nat :=
  (digitZeros.find? fun first => first ≤ c.toNat && c.toNat < first + 10).map fun first =>
    c.toNat - first

/-- `\d`. -/
def isDecimal (c : Char) : Bool := (digitValue? c).isSome

def digitsValue (digits : List Char) : Nat :=
  digits.foldl (fun value c => 10 * value + (digitValue? c).getD 0) 0

/-- The number with the digits before and after its point. -/
def decimalValue (whole fraction : List Char) : ℚ :=
  digitsValue (whole ++ fraction) / 10 ^ fraction.length

/-- Digits, with single underscores between them. -/
def digitPart? (text : List Char) : Option (List Char) :=
  let groups := text.splitOn '_'
  if groups.all fun group => !group.isEmpty && group.all isDecimal then some groups.flatten
  else none

/-- A sign, and what follows it. -/
def signed : List Char → Bool × List Char
  | '-' :: rest => (true, rest)
  | '+' :: rest => (false, rest)
  | text => (false, text)

/-- The number of digits that `int` reads at most. -/
def maxStrDigits : Nat := 4300

/-- `int(text)`. -/
def intOf? (text : List Char) : Option Int :=
  let (negative, numeral) := signed (Ink.trim isSpace text)
  (digitPart? numeral).bind fun digits =>
    if maxStrDigits < digits.length then none
    else some (if negative then -(digitsValue digits : Int) else digitsValue digits)

inductive PyFloat
  | finite (value : ℚ)
  | infinite (negative : Bool)
  | nan
  deriving DecidableEq

/-- Digits that may be missing. -/
def optionalDigits? (text : List Char) : Option (List Char) :=
  if text.isEmpty then some [] else digitPart? text

/-- `[e[sign]digits]`. -/
def exponentOf? : List Char → Option Int
  | [] => some 0
  | _ :: text =>
    let (negative, numeral) := signed text
    (digitPart? numeral).map fun digits =>
      if negative then -(digitsValue digits : Int) else digitsValue digits

/-- A numeral without its sign. -/
def unsignedFloat? (text : List Char) : Option ℚ :=
  let isExponent := fun c => c = 'e' || c = 'E'
  let mantissa := text.takeWhile fun c => !isExponent c
  let whole := mantissa.takeWhile fun c => c ≠ '.'
  let fraction := (mantissa.dropWhile fun c => c ≠ '.').drop 1
  if whole.isEmpty && fraction.isEmpty then none
  else (optionalDigits? whole).bind fun whole =>
    (optionalDigits? fraction).bind fun fraction =>
      (exponentOf? (text.dropWhile fun c => !isExponent c)).map fun exponent =>
        decimalValue whole fraction * 10 ^ exponent

/-- `float(text)`. -/
def floatOf? (text : List Char) : Option PyFloat :=
  let (negative, numeral) := signed (Ink.trim isSpace text)
  let word := numeral.map Char.toLower
  if word = "inf".toList ∨ word = "infinity".toList then some (.infinite negative)
  else if word = "nan".toList then some .nan
  else (unsignedFloat? numeral).map fun value => .finite (if negative then -value else value)

/-- `max(value, 0.0)`. Nothing is greater than a value that is no number. -/
def PyFloat.atLeastZero : PyFloat → PyFloat
  | .finite value => .finite (max value 0)
  | .infinite negative => if negative then .finite 0 else .infinite false
  | .nan => .nan

end CrmBot.Python
