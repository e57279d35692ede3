import CrmBot.Commercial.CommercialTruth
import CrmBot.Library.Delimited
import Mathlib.Tactic.FieldSimp
import Mathlib.Tactic.Ring

/-! The written form of a decimal.

`format(value, "f")` writes the sign, the digits and as many places behind the
point as the exponent says. It can be read back, so that one text stands for one
number, but one number has many texts. -/

namespace CrmBot.Commercial

open CrmBot.Python Delimited

namespace Decimal

/-- The number without its sign, in units of the last place written. -/
def scaled (amount : Decimal) : ℕ := amount.coefficient * 10 ^ amount.exponent.toNat

theorem value_eq (amount : Decimal) :
    amount.value = (if amount.negative then -1 else 1) * amount.scaled / 10 ^ amount.places := by
  unfold value scaled places
  rcases Int.le_total 0 amount.exponent with hpos | hneg
  · obtain ⟨n, hn⟩ := Int.eq_ofNat_of_zero_le hpos
    rw [hn]
    simp
  · obtain ⟨n, hn⟩ := Int.eq_ofNat_of_zero_le (Int.neg_nonneg_of_nonpos hneg)
    have hexponent : amount.exponent = -(n : ℤ) := by omega
    have htoNat : (-(n : ℤ)).toNat = 0 := by omega
    rw [hexponent, neg_neg, htoNat, Int.toNat_natCast, zpow_neg, zpow_natCast]
    simp only [pow_zero, mul_one]
    field_simp

/-- Under one sign and one number of places, equal numbers are equal digits. -/
theorem scaled_eq_of_value_eq {first second : Decimal} (hvalue : first.value = second.value)
    (hnegative : first.negative = second.negative) (hplaces : first.places = second.places) :
    first.scaled = second.scaled := by
  rw [value_eq, value_eq, hnegative, hplaces] at hvalue
  have hscale : (10 : ℚ) ^ second.places ≠ 0 := pow_ne_zero _ (by norm_num)
  have hsigned := (div_left_inj' hscale).mp hvalue
  have hsign : (if second.negative then (-1 : ℚ) else 1) ≠ 0 := by split <;> norm_num
  exact_mod_cast mul_left_cancel₀ hsign hsigned

end Decimal

/-! Digits. -/

theorem toList_toString (value : ℕ) : (toString value).toList = Nat.toDigits 10 value :=
  Nat.toList_repr

theorem isDigit_of_mem_toDigits {value : ℕ} {c : Char} (h : c ∈ Nat.toDigits 10 value) :
    c.isDigit = true :=
  Nat.isDigit_of_mem_toDigits (by omega) (by omega) h

theorem notMem_toDigits {value : ℕ} {c : Char} (hc : c.isDigit = false) :
    c ∉ Nat.toDigits 10 value := by
  intro hmem
  rw [isDigit_of_mem_toDigits hmem] at hc
  cases hc

theorem toList_pushn (text : String) (c : Char) (count : ℕ) :
    (text.pushn c count).toList = text.toList ++ List.replicate count c := by
  rw [String.pushn_eq_repeat_push]
  induction count with
  | zero => simp [Nat.repeat]
  | succ count ih =>
    simp only [Nat.repeat, String.toList_push, ih, List.replicate_succ', List.append_assoc]

/-- Padding with zeros in front. -/
theorem toList_zeroPadded (width value : ℕ) :
    (zeroPadded width value).toList =
      List.replicate (width - (Nat.toDigits 10 value).length) '0' ++ Nat.toDigits 10 value := by
  have hlength : (toString value).length = (Nat.toDigits 10 value).length := by
    rw [← String.length_toList, toList_toString]
  simp only [zeroPadded, String.toList_append, hlength, toList_toString, toList_pushn,
    String.toList_empty, List.nil_append]

theorem zeroPadded_length {width value : ℕ} (hwidth : 0 < width) (h : value < 10 ^ width) :
    (zeroPadded width value).toList.length = width := by
  have hdigits := (Nat.length_toDigits_le_iff (by omega : 1 < 10) hwidth).mpr h
  rw [toList_zeroPadded, List.length_append, List.length_replicate]
  omega

/-- The padded digits can be read back. -/
theorem ofDigitChars_zeroPadded (width value : ℕ) :
    Nat.ofDigitChars 10 (zeroPadded width value).toList 0 = value := by
  rw [toList_zeroPadded, Nat.ofDigitChars_append, Nat.ofDigitChars_replicate_zero, Nat.mul_zero,
    Nat.ofDigitChars_ten_toDigits]

/-! The text. -/

/-- The characters behind the sign. -/
def unsignedText (places scaled : ℕ) : List Char :=
  Nat.toDigits 10 (scaled / 10 ^ places) ++
    if places = 0 then [] else '.' :: (zeroPadded places (scaled % 10 ^ places)).toList

theorem toList_decimalText (amount : Decimal) :
    (decimalText amount).toList =
      (if amount.negative then ['-'] else []) ++ unsignedText amount.places amount.scaled := by
  simp only [decimalText, String.toList_append, toList_toString, unsignedText, Decimal.scaled,
    List.append_assoc]
  congr 1
  · split <;> rfl
  · congr 1
    split
    · rfl
    · rw [String.toList_append]
      rfl

theorem unsignedText_head {places scaled : ℕ} {c : Char} {rest : List Char}
    (h : unsignedText places scaled = c :: rest) : c.isDigit = true := by
  unfold unsignedText at h
  cases hdigits : Nat.toDigits 10 (scaled / 10 ^ places) with
  | nil =>
    have hpos := @Nat.length_toDigits_pos 10 (scaled / 10 ^ places)
    rw [hdigits] at hpos
    cases hpos
  | cons first digits =>
    rw [hdigits, List.cons_append, List.cons.injEq] at h
    rw [← h.1]
    apply @isDigit_of_mem_toDigits (scaled / 10 ^ places)
    rw [hdigits]
    exact List.mem_cons_self

/-- The unsigned text tells the places and the digits. -/
theorem unsignedText_inj {places scaled otherPlaces otherScaled : ℕ}
    (h : unsignedText places scaled = unsignedText otherPlaces otherScaled) :
    places = otherPlaces ∧ scaled = otherScaled := by
  have hpoint : ∀ value : ℕ, '.' ∉ Nat.toDigits 10 value := fun value => notMem_toDigits rfl
  unfold unsignedText at h
  by_cases hplaces : places = 0
  · by_cases hother : otherPlaces = 0
    · rw [if_pos hplaces, if_pos hother, List.append_nil, List.append_nil] at h
      have hread := congrArg (fun digits => Nat.ofDigitChars 10 digits 0) h
      simp only [Nat.ofDigitChars_ten_toDigits, hplaces, hother, pow_zero, Nat.div_one] at hread
      exact ⟨hplaces.trans hother.symm, hread⟩
    · rw [if_pos hplaces, if_neg hother, List.append_nil] at h
      refine absurd ?_ (hpoint (scaled / 10 ^ places))
      rw [h]
      exact List.mem_append_right _ List.mem_cons_self
  · by_cases hother : otherPlaces = 0
    · rw [if_neg hplaces, if_pos hother, List.append_nil] at h
      refine absurd ?_ (hpoint (otherScaled / 10 ^ otherPlaces))
      rw [← h]
      exact List.mem_append_right _ List.mem_cons_self
    · rw [if_neg hplaces, if_neg hother] at h
      obtain ⟨hwhole, hpadded⟩ := split_eq (hpoint _) (hpoint _) h
      have hscale : ∀ {width value : ℕ}, value % 10 ^ width < 10 ^ width :=
        fun {width value} => Nat.mod_lt _ (Nat.pow_pos (by omega))
      have hlength := congrArg List.length hpadded
      rw [zeroPadded_length (Nat.pos_of_ne_zero hplaces) hscale,
        zeroPadded_length (Nat.pos_of_ne_zero hother) hscale] at hlength
      subst hlength
      have hrest := congrArg (fun digits => Nat.ofDigitChars 10 digits 0) hpadded
      have hfront := congrArg (fun digits => Nat.ofDigitChars 10 digits 0) hwhole
      simp only [ofDigitChars_zeroPadded] at hrest
      simp only [Nat.ofDigitChars_ten_toDigits] at hfront
      refine ⟨rfl, ?_⟩
      calc scaled = 10 ^ places * (scaled / 10 ^ places) + scaled % 10 ^ places :=
          (Nat.div_add_mod _ _).symm
        _ = 10 ^ places * (otherScaled / 10 ^ places) + otherScaled % 10 ^ places := by
          rw [hfront, hrest]
        _ = otherScaled := Nat.div_add_mod _ _

/-- Two decimals have one text exactly when they are one number, written with
one number of places and one sign. -/
theorem decimalText_eq_iff {first second : Decimal} :
    decimalText first = decimalText second ↔ first.value = second.value ∧
      first.negative = second.negative ∧ first.places = second.places := by
  constructor
  · intro h
    have hlist := congrArg String.toList h
    rw [toList_decimalText, toList_decimalText] at hlist
    have hminus : ∀ {rest : List Char} {places scaled : ℕ},
        '-' :: rest ≠ unsignedText places scaled := by
      intro rest places scaled heq
      have hdigit := unsignedText_head heq.symm
      exact absurd hdigit (by decide)
    have hnegative : first.negative = second.negative := by
      cases hfirst : first.negative <;> cases hsecond : second.negative <;>
        simp only [hfirst, hsecond, if_true, Bool.false_eq_true, if_false, List.nil_append,
          List.cons_append] at hlist
      · rfl
      · exact absurd hlist.symm hminus
      · exact absurd hlist hminus
      · rfl
    rw [hnegative, List.append_cancel_left_eq] at hlist
    obtain ⟨hplaces, hscaled⟩ := unsignedText_inj hlist
    refine ⟨?_, hnegative, hplaces⟩
    rw [Decimal.value_eq, Decimal.value_eq, hnegative, hplaces, hscaled]
  · rintro ⟨hvalue, hnegative, hplaces⟩
    apply String.toList_inj.mp
    rw [toList_decimalText, toList_decimalText, hnegative, hplaces,
      Decimal.scaled_eq_of_value_eq hvalue hnegative hplaces]

end CrmBot.Commercial
