import CrmBot.Commercial.PriceText
import CrmBot.Commercial.PublishedSurface
import CrmBot.Library.Fold
import Mathlib.Tactic.NormNum

/-! Spellings of a number, and how the price in a cell reads them.

A number is spelled in groups of digits with one separator between the groups,
and may have a fraction after a comma or a point that does not separate groups. -/

namespace CrmBot.Commercial

open CrmBot.Python

/-! Digits. -/

theorem isSpace_of_isDecimal {c : Char} (h : isDecimal c = true) : isSpace c = false := by
  unfold isDecimal digitValue? at h
  rw [Option.isSome_map, List.find?_isSome] at h
  obtain ⟨first, hfirst, hcode⟩ := h
  rw [Bool.and_eq_true, decide_eq_true_eq, decide_eq_true_eq] at hcode
  -- no block of digits meets the white space
  have hblocks : ∀ first ∈ digitZeros, ∀ k < 10, isSpace (Char.ofNat (first + k)) = false := by
    decide +kernel
  have hspace := hblocks first hfirst (c.toNat - first) (by omega)
  rwa [Nat.add_sub_cancel' hcode.1, Char.ofNat_toNat] at hspace

theorem ne_of_isDecimal {c other : Char} (h : isDecimal c = true)
    (hother : isDecimal other = false) :
    c ≠ other := by
  rintro rfl
  rw [h] at hother
  cases hother

theorem isDecimal_space : isDecimal ' ' = false := by decide +kernel

theorem isDecimal_comma : isDecimal ',' = false := by decide +kernel

theorem isDecimal_point : isDecimal '.' = false := by decide +kernel

/-! The decimals of plain texts. -/

section Decimals

variable {digits : List Char} (hdigits : ∀ c ∈ digits, isDecimal c = true) (hsome : digits ≠ [])
  {blanks : List Char} (hblanks : ∀ c ∈ blanks, isSpace c = true)

include hdigits hsome hblanks

theorem decimalOf?_digits :
    decimalOf? (digits ++ blanks) = some ⟨false, digitsValue digits, 0⟩ := by
  have htrim : Ink.trim isSpace (digits ++ blanks) = digits := by
    rw [Ink.trim_append_of_blank hblanks, Ink.trim_eq_self_iff]
    exact ⟨fun c hc => isSpace_of_isDecimal (hdigits c (List.mem_of_head? hc)),
      fun c hc => isSpace_of_isDecimal (hdigits c (List.mem_of_getLast? hc))⟩
  have hdrop : digits.dropWhile isDecimal = [] := List.dropWhile_eq_nil_iff.mpr hdigits
  have htake : digits.takeWhile isDecimal = digits := List.takeWhile_eq_self_iff.mpr hdigits
  unfold decimalOf?
  rw [htrim]
  simp only [hdrop, htake, if_neg hsome]

/-- The first character that is no digit has to be the point, and only digits
may follow. -/
theorem decimalOf?_point {c : Char} (hc : isDecimal c = false) {rest : List Char}
    (hlast : ∀ last ∈ (c :: rest).getLast?, isSpace last = false) :
    decimalOf? (digits ++ c :: rest ++ blanks) =
      if c = '.' ∧ rest.all isDecimal = true then
        some ⟨false, digitsValue (digits ++ rest), -rest.length⟩
      else none := by
  have htrim : Ink.trim isSpace (digits ++ c :: rest ++ blanks) = digits ++ c :: rest := by
    rw [Ink.trim_append_of_blank hblanks, Ink.trim_eq_self_iff]
    refine ⟨fun first hfirst => ?_, fun last hmem => hlast last ?_⟩
    · obtain ⟨head, tail, rfl⟩ := List.exists_cons_of_ne_nil hsome
      obtain rfl := Option.some.inj hfirst
      exact isSpace_of_isDecimal (hdigits _ List.mem_cons_self)
    · rwa [List.getLast?_append_of_ne_nil _ (List.cons_ne_nil c rest)] at hmem
  have hdrop : (digits ++ c :: rest).dropWhile isDecimal = c :: rest := by
    rw [List.dropWhile_append_of_pos hdigits, List.dropWhile_cons_of_neg (by simp [hc])]
  have htake : (digits ++ c :: rest).takeWhile isDecimal = digits := by
    rw [List.takeWhile_append_of_pos hdigits, List.takeWhile_cons_of_neg (by simp [hc]),
      List.append_nil]
  unfold decimalOf?
  rw [htrim]
  simp only [hdrop, htake]
  have hne : digits ++ rest ≠ [] := fun hnil => hsome (List.append_eq_nil_iff.mp hnil).1
  simp only [hne, ne_eq, not_false_eq_true, and_true]

end Decimals

/-! Spellings. -/

def thousandsSeparators : List Char := [' ', '\u00a0', ',', '.']

/-- A number as it is spelled. One separator stands before every later group,
and the fraction begins with a comma or a point that is not this separator. -/
structure Spelling where
  first : List Char
  later : List (List Char)
  separator : Char
  fraction : Option (Char × List Char)
  first_some : first ≠ []
  first_digits : ∀ c ∈ first, isDecimal c = true
  first_short : later ≠ [] → first.length ≤ 3
  later_three : ∀ group ∈ later, group.length = 3
  later_digits : ∀ group ∈ later, ∀ c ∈ group, isDecimal c = true
  separator_mem : separator ∈ thousandsSeparators
  fraction_point : ∀ part ∈ fraction, part.1 = ',' ∨ part.1 = '.'
  fraction_other : later ≠ [] → ∀ part ∈ fraction, part.1 ≠ separator
  fraction_some : ∀ part ∈ fraction, part.2 ≠ []
  fraction_digits : ∀ part ∈ fraction, ∀ c ∈ part.2, isDecimal c = true

namespace Spelling

def fractionText : Option (Char × List Char) → List Char
  | none => []
  | some (point, digits) => point :: digits

def text (s : Spelling) : List Char :=
  s.first ++ s.later.flatMap (s.separator :: ·) ++ fractionText s.fraction

/-- The digits before the fraction. -/
def whole (s : Spelling) : List Char := s.first ++ s.later.flatten

/-- The number that is written. -/
def number (s : Spelling) : ℚ := decimalValue s.whole ((s.fraction.map Prod.snd).getD [])

/-- Groups, if there are several, with spaces between them. -/
def SpaceGrouped (s : Spelling) : Prop := s.later = [] ∨ s.separator = ' '

instance (s : Spelling) : Decidable s.SpaceGrouped := inferInstanceAs (Decidable (_ ∨ _))

/-- The number that a comma and a point make as the decimal point and spaces as
the separator of the groups. -/
def asRead (s : Spelling) : Option ℚ :=
  if s.SpaceGrouped then some s.number
  else if s.separator = ',' ∨ s.separator = '.' then
    match s.later, s.fraction with
    | [group], none => some (decimalValue s.first group)
    | _, _ => none
  else none

variable (s : Spelling)

theorem whole_digits : ∀ c ∈ s.whole, isDecimal c = true := by
  intro c hc
  rcases List.mem_append.mp hc with hfirst | hlater
  · exact s.first_digits c hfirst
  · obtain ⟨group, hgroup, hmem⟩ := List.mem_flatten.mp hlater
    exact s.later_digits group hgroup c hmem

theorem whole_some : s.whole ≠ [] :=
  fun hnil => s.first_some (List.append_eq_nil_iff.mp hnil).1

theorem isDecimal_separator : isDecimal s.separator = false := by
  have hall : ∀ c ∈ [' ', '\u00a0', ',', '.'], isDecimal c = false := by
    simp only [List.forall_mem_cons]
    exact ⟨isDecimal_space, by decide +kernel, isDecimal_comma, isDecimal_point,
      List.forall_mem_nil _⟩
  exact hall s.separator s.separator_mem

/-- Every character of a spelling belongs to the amount. -/
theorem isAmountChar_text : ∀ c ∈ s.text, isAmountChar c = true := by
  have hdigit {c : Char} (hc : isDecimal c = true) : isAmountChar c = true := by
    simp [isAmountChar, hc]
  have hseparator : ∀ c ∈ [' ', '\u00a0', ',', '.'], isAmountChar c = true := by
    simp only [List.forall_mem_cons]
    exact ⟨by decide +kernel, by decide +kernel, by decide +kernel, by decide +kernel,
      List.forall_mem_nil _⟩
  intro c hc
  rcases List.mem_append.mp hc with hwhole | hfraction
  · rcases List.mem_append.mp hwhole with hfirst | hlater
    · exact hdigit (s.first_digits c hfirst)
    · obtain ⟨group, hgroup, hmem⟩ := List.mem_flatMap.mp hlater
      rcases List.mem_cons.mp hmem with rfl | hmem
      · exact hseparator _ s.separator_mem
      · exact hdigit (s.later_digits group hgroup c hmem)
  · cases hpart : s.fraction with
    | none => simp [hpart, fractionText] at hfraction
    | some part =>
      obtain ⟨point, digits⟩ := part
      rw [hpart] at hfraction
      rcases List.mem_cons.mp hfraction with rfl | hmem
      · rcases s.fraction_point _ hpart with heq | heq
        · exact hseparator _ (by simp [show c = ',' from heq])
        · exact hseparator _ (by simp [show c = '.' from heq])
      · exact hdigit (s.fraction_digits _ hpart c hmem)

end Spelling

/-! What is left of a spelling for `Decimal`. -/

theorem plainAmount_append (front rest : List Char) :
    plainAmount (front ++ rest) = plainAmount front ++ plainAmount rest := by
  unfold plainAmount
  rw [List.filter_append, List.map_append]

theorem plainAmount_digits {digits : List Char} (h : ∀ c ∈ digits, isDecimal c = true) :
    plainAmount digits = digits := by
  unfold plainAmount
  have hfilter : digits.filter (fun c => c ≠ ' ') = digits :=
    List.filter_eq_self.mpr fun c hc => by simpa using ne_of_isDecimal (h c hc) isDecimal_space
  rw [hfilter]
  refine (List.map_congr_left fun c hc => ?_).trans (List.map_id digits)
  rw [if_neg (ne_of_isDecimal (h c hc) isDecimal_comma), id]

theorem isSpace_plainAmount {blanks : List Char} (h : ∀ c ∈ blanks, isSpace c = true) :
    ∀ c ∈ plainAmount blanks, isSpace c = true := by
  have hcomma : isSpace ',' = false := by decide
  intro c hc
  obtain ⟨blank, hblank, rfl⟩ := List.mem_map.mp hc
  have hspace := h blank (List.mem_of_mem_filter hblank)
  rw [if_neg]
  · exact hspace
  · rintro rfl
    rw [hcomma] at hspace
    cases hspace

namespace Spelling

variable (s : Spelling)

/-- The point and the digits of a fraction, with the point of `Decimal`. -/
theorem plainAmount_fractionText :
    plainAmount (fractionText s.fraction) =
      fractionText (s.fraction.map fun part => ('.', part.2)) := by
  cases hpart : s.fraction with
  | none => rfl
  | some part =>
    obtain ⟨point, digits⟩ := part
    have hdigits := plainAmount_digits (s.fraction_digits _ hpart)
    change plainAmount ([point] ++ digits) = ['.'] ++ digits
    rw [plainAmount_append, hdigits]
    rcases s.fraction_point _ hpart with heq | heq
    · obtain rfl : point = ',' := heq
      rfl
    · obtain rfl : point = '.' := heq
      rfl

theorem plainAmount_later :
    plainAmount (s.later.flatMap (s.separator :: ·)) =
      s.later.flatMap (plainAmount [s.separator] ++ ·) := by
  have hgroups : ∀ groups : List (List Char),
      (∀ group ∈ groups, ∀ c ∈ group, isDecimal c = true) →
      plainAmount (groups.flatMap (s.separator :: ·)) =
        groups.flatMap (plainAmount [s.separator] ++ ·) := by
    intro groups hdigits
    induction groups with
    | nil => rfl
    | cons group rest ih =>
      obtain ⟨hgroup, hrest⟩ := List.forall_mem_cons.mp hdigits
      rw [List.flatMap_cons, List.flatMap_cons, plainAmount_append, ih hrest,
        ← List.singleton_append, plainAmount_append, plainAmount_digits hgroup]
  exact hgroups s.later s.later_digits

/-- A spelling without separators, or with spaces, reads as the number written. -/
theorem decimalOf?_spaceGrouped (hspace : s.SpaceGrouped) {blanks : List Char}
    (hblanks : ∀ c ∈ blanks, isSpace c = true) :
    (decimalOf? (plainAmount (s.text ++ blanks))).map Decimal.value = some s.number := by
  have hlater : s.later.flatMap (plainAmount [s.separator] ++ ·) = s.later.flatten := by
    rcases hspace with hnil | heq
    · rw [hnil]; rfl
    · rw [heq]
      change s.later.flatMap (fun group => group) = s.later.flatten
      rw [List.flatMap_id']
  have hplain : plainAmount (s.text ++ blanks) =
      s.whole ++ fractionText (s.fraction.map fun part => ('.', part.2)) ++ plainAmount blanks := by
    rw [text, plainAmount_append, plainAmount_append, plainAmount_append,
      plainAmount_digits s.first_digits, s.plainAmount_later, hlater, s.plainAmount_fractionText,
      whole]
  rw [hplain]
  cases hpart : s.fraction with
  | none =>
    rw [Option.map_none, fractionText, List.append_nil,
      decimalOf?_digits s.whole_digits s.whole_some (isSpace_plainAmount hblanks)]
    have hvalue := value_unsigned (digitsValue s.whole) 0
    simpa [number, hpart, decimalValue] using hvalue
  | some part =>
    obtain ⟨point, digits⟩ := part
    have hdigits : ∀ c ∈ digits, isDecimal c = true := s.fraction_digits _ hpart
    have hsome : digits ≠ [] := s.fraction_some _ hpart
    have hlast : ∀ last ∈ ('.' :: digits).getLast?, isSpace last = false := by
      intro last hmem
      rw [List.getLast?_cons_of_ne_nil hsome] at hmem
      exact isSpace_of_isDecimal (hdigits last (List.mem_of_getLast? hmem))
    rw [Option.map_some, fractionText, decimalOf?_point s.whole_digits s.whole_some
      (isSpace_plainAmount hblanks) isDecimal_point hlast,
      if_pos ⟨rfl, List.all_eq_true.mpr hdigits⟩, Option.map_some, value_unsigned]
    simp [number, hpart, decimalValue]

end Spelling

/-! Other groupings: the first separator is the point, and no other may follow. -/

/-- A text whose last character is a digit. -/
def EndsInDigit (text : List Char) : Prop := ∃ front last, text = front ++ [last] ∧
  isDecimal last = true

theorem EndsInDigit.of_digits {digits : List Char} (hsome : digits ≠ [])
    (hdigits : ∀ c ∈ digits, isDecimal c = true) : EndsInDigit digits :=
  ⟨digits.dropLast, digits.getLast hsome, (List.dropLast_append_getLast hsome).symm,
    hdigits _ (List.getLast_mem hsome)⟩

theorem EndsInDigit.append {rest : List Char} (h : EndsInDigit rest) (front : List Char) :
    EndsInDigit (front ++ rest) := by
  obtain ⟨before, last, rfl, hlast⟩ := h
  exact ⟨front ++ before, last, (List.append_assoc _ _ _).symm, hlast⟩

theorem EndsInDigit.isSpace_getLast {text : List Char} (h : EndsInDigit text) :
    ∀ last ∈ text.getLast?, isSpace last = false := by
  obtain ⟨front, last, rfl, hlast⟩ := h
  intro other hother
  rw [List.getLast?_concat, Option.mem_some_iff] at hother
  exact hother ▸ isSpace_of_isDecimal hlast

theorem EndsInDigit.append_groups {front : List Char} (h : EndsInDigit front)
    {groups : List (List Char)} (hthree : ∀ group ∈ groups, group.length = 3)
    (hdigits : ∀ group ∈ groups, ∀ c ∈ group, isDecimal c = true) (separator : List Char) :
    EndsInDigit (front ++ groups.flatMap (separator ++ ·)) := by
  rcases List.eq_nil_or_concat groups with rfl | ⟨before, group, rfl⟩
  · simpa using h
  · have hmem : group ∈ before.concat group := by simp
    have hsome : group ≠ [] := fun hnil => by simpa [hnil] using hthree group hmem
    rw [List.concat_eq_append, List.flatMap_append, List.flatMap_singleton, ← List.append_assoc,
      ← List.append_assoc]
    exact (EndsInDigit.of_digits hsome (hdigits group hmem)).append _

namespace Spelling

variable (s : Spelling)

theorem endsInDigit_fraction {front : List Char} (h : EndsInDigit front) :
    EndsInDigit (front ++ fractionText (s.fraction.map fun part => ('.', part.2))) := by
  cases hpart : s.fraction with
  | none => simpa [fractionText] using h
  | some part =>
    have hdigits := EndsInDigit.of_digits (s.fraction_some part hpart)
      (s.fraction_digits part hpart)
    exact (hdigits.append ['.']).append front

/-- A spelling with another separator reads as a decimal when the separator can
be the point, stands once and no fraction follows. -/
theorem decimalOf?_notSpaceGrouped (hspace : ¬ s.SpaceGrouped) {blanks : List Char}
    (hblanks : ∀ c ∈ blanks, isSpace c = true) :
    (decimalOf? (plainAmount (s.text ++ blanks))).map Decimal.value = s.asRead := by
  obtain ⟨hlater, hseparator⟩ := not_or.mp hspace
  obtain ⟨group, groups, hgroups⟩ := List.exists_cons_of_ne_nil hlater
  obtain ⟨point, hpoint, hplain⟩ : ∃ point, plainAmount [s.separator] = [point] ∧
      (point = '.' ↔ s.separator = ',' ∨ s.separator = '.') ∧ isDecimal point = false := by
    have hmem := s.separator_mem
    have hdecimal := s.isDecimal_separator
    simp only [thousandsSeparators, List.mem_cons, List.not_mem_nil, or_false] at hmem
    rcases hmem with heq | heq | heq | heq
    · exact absurd heq hseparator
    · exact ⟨s.separator, by rw [heq]; rfl, by rw [heq]; decide, hdecimal⟩
    · exact ⟨'.', by rw [heq]; rfl, by rw [heq]; decide, isDecimal_point⟩
    · exact ⟨'.', by rw [heq]; rfl, by rw [heq]; decide, isDecimal_point⟩
  obtain ⟨hplain, hdecimal⟩ := hplain
  have hthree := s.later_three
  have hdigits := s.later_digits
  rw [hgroups] at hthree hdigits
  obtain ⟨hgroupThree, hgroupsThree⟩ := List.forall_mem_cons.mp hthree
  obtain ⟨hgroupDigits, hgroupsDigits⟩ := List.forall_mem_cons.mp hdigits
  -- what follows the first two groups begins with a point, if anything follows
  generalize hmore : groups.flatMap ([point] ++ ·) ++
    fractionText (s.fraction.map fun part => ('.', part.2)) = more
  have htext : plainAmount (s.text ++ blanks) =
      s.first ++ point :: (group ++ more) ++ plainAmount blanks := by
    rw [text, plainAmount_append, plainAmount_append, plainAmount_append,
      plainAmount_digits s.first_digits, s.plainAmount_later, s.plainAmount_fractionText, hgroups,
      hpoint, List.flatMap_cons, ← hmore]
    simp
  have hsome : group ≠ [] := fun hnil => by simp [hnil] at hgroupThree
  have hlast : EndsInDigit (point :: (group ++ more)) := by
    have hgroup := (EndsInDigit.of_digits hsome hgroupDigits).append_groups hgroupsThree
      hgroupsDigits [point]
    have hwhole := (s.endsInDigit_fraction hgroup).append [point]
    rw [← hmore, ← List.append_assoc]
    exact hwhole
  rw [htext, decimalOf?_point s.first_digits s.first_some (isSpace_plainAmount hblanks) hdecimal
    hlast.isSpace_getLast, asRead, if_neg hspace]
  by_cases hdot : s.separator = ',' ∨ s.separator = '.'
  · rw [if_pos hdot, hgroups]
    obtain rfl := hplain.mpr hdot
    cases groups with
    | cons next rest =>
      have hnot : ¬ (group ++ more).all isDecimal = true := by
        rw [← hmore]
        simp [isDecimal_point]
      rw [if_neg fun hall => hnot hall.2]
      rfl
    | nil =>
      cases hpart : s.fraction with
      | some part =>
        have hnot : ¬ (group ++ more).all isDecimal = true := by
          rw [← hmore, hpart]
          simp [fractionText, isDecimal_point]
        rw [if_neg fun hall => hnot hall.2]
        rfl
      | none =>
        have hnil : more = [] := by
          rw [← hmore, hpart]
          rfl
        rw [hnil, List.append_nil, if_pos ⟨rfl, List.all_eq_true.mpr hgroupDigits⟩,
          Option.map_some, value_unsigned]
        rfl
  · rw [if_neg hdot, if_neg fun hall => hdot (hplain.mp hall.1)]
    rfl

theorem decimalOf?_asRead {blanks : List Char} (hblanks : ∀ c ∈ blanks, isSpace c = true) :
    (decimalOf? (plainAmount (s.text ++ blanks))).map Decimal.value = s.asRead := by
  by_cases hspace : s.SpaceGrouped
  · rw [s.decimalOf?_spaceGrouped hspace hblanks, asRead, if_pos hspace]
  · exact s.decimalOf?_notSpaceGrouped hspace hblanks

end Spelling

/-! Cells. -/

/-- A cell where the first digit begins a spelling. Only white space may stand
between the spelling and the first character that is no part of an amount. -/
def Spells (mapping : CaseMapping) (value : String) (s : Spelling) : Prop :=
  ∃ before blanks after, (mapping.lower (strip value)).toList =
      before ++ (s.text ++ blanks) ++ after ∧
    (∀ c ∈ before, isDecimal c = false) ∧ (∀ c ∈ blanks, isSpace c = true) ∧
    ∀ c ∈ after.head?, isAmountChar c = false

/-- The price parser finds the amount in a cell. -/
def YieldsAmount (mapping : CaseMapping) (value : String) (amount : MoneyAmount) : Prop :=
  ∃ kind text, parsePriceValue mapping value = .ok (some (kind, some amount, text))

theorem exists_amount_of_yieldsAmount {mapping : CaseMapping} {value : String}
    {amount : MoneyAmount} (h : YieldsAmount mapping value amount) :
    ∃ found, amountMatch? (mapping.lower (strip value)).toList = some found ∧
      decimalOf? (plainAmount found.amount) = some amount.amount := by
  obtain ⟨kind, text, hparse⟩ := h
  unfold parsePriceValue at hparse
  simp only at hparse
  split at hparse
  · cases hparse
  split at hparse
  · cases hparse
  split at hparse
  · cases hparse
  next found hfound =>
    refine ⟨found, hfound, ?_⟩
    split at hparse
    · cases hparse
    next currency hcurrency =>
      obtain ⟨made, hmade, hpure⟩ := FailingFold.bind_eq_ok.mp hparse
      cases hpure
      unfold moneyAmountFromText at hmade
      split at hmade
      · cases hmade
      next number hnumber =>
        split at hmade
        · cases hmade
        · cases hmade
          exact hnumber

theorem amount_of_spells {mapping : CaseMapping} {value : String} {s : Spelling}
    (h : Spells mapping value s) :
    ∃ blanks found, amountMatch? (mapping.lower (strip value)).toList = some found ∧
      found.amount = s.text ++ blanks ∧ ∀ c ∈ blanks, isSpace c = true := by
  obtain ⟨before, blanks, after, hvalue, hbefore, hblanks, hafter⟩ := h
  obtain ⟨c, rest, hfirst⟩ := List.exists_cons_of_ne_nil s.first_some
  have hc : isDecimal c = true := s.first_digits c (hfirst ▸ List.mem_cons_self)
  obtain ⟨tail, htail⟩ : ∃ tail, s.text = c :: tail := by
    rw [Spelling.text, hfirst]
    exact ⟨_, rfl⟩
  have hamount : ∀ c ∈ tail ++ blanks, isAmountChar c = true := by
    intro other hother
    rcases List.mem_append.mp hother with hmem | hmem
    · exact s.isAmountChar_text other (htail ▸ List.mem_cons_of_mem c hmem)
    · simp [isAmountChar, hblanks other hmem]
  have hdrop : (before ++ (c :: tail ++ blanks) ++ after).dropWhile (fun c => !isDecimal c) =
      c :: (tail ++ blanks ++ after) := by
    rw [List.append_assoc, List.dropWhile_append_of_pos (by simpa using hbefore)]
    simp [hc]
  have hrun : (tail ++ blanks ++ after).takeWhile isAmountChar = tail ++ blanks := by
    rw [List.takeWhile_append_of_pos hamount]
    cases after with
    | nil => simp
    | cons other others =>
      rw [List.takeWhile_cons_of_neg (by simp [hafter other rfl]), List.append_nil]
  have hmatch : amountMatch? (mapping.lower (strip value)).toList = some
      { hasPrefix := endsInFrom ((before ++ (c :: tail ++ blanks) ++ after).takeWhile
          fun c => !isDecimal c)
        amount := c :: (tail ++ blanks ++ after).takeWhile isAmountChar
        currency := currencyAt? ((tail ++ blanks ++ after).dropWhile isAmountChar) } := by
    rw [hvalue, htail, amountMatch?, hdrop]
  refine ⟨blanks, _, hmatch, ?_, hblanks⟩
  rw [hrun, htail]
  rfl

/-- An amount is the number that the spelling is read as. -/
theorem value_of_spells {mapping : CaseMapping} {value : String} {s : Spelling}
    {amount : MoneyAmount} (hspells : Spells mapping value s)
    (hyields : YieldsAmount mapping value amount) : s.asRead = some amount.amount.value := by
  obtain ⟨blanks, found, hfound, hamount, hblanks⟩ := amount_of_spells hspells
  obtain ⟨found', hfound', hdecimal⟩ := exists_amount_of_yieldsAmount hyields
  obtain rfl := Option.some.inj (hfound.symm.trans hfound')
  rw [← s.decimalOf?_asRead hblanks, ← hamount, hdecimal, Option.map_some]

/-- The price of a spelling is the number with a comma or a point as its decimal
point. Where the groups have spaces between them, or there is one group, this is
the number that is written, whichever way it is spelled. -/
theorem price_of_spelling {mapping : CaseMapping} {value other : String} {s t : Spelling}
    {amount otherAmount : MoneyAmount}
    (hspells : Spells mapping value s) (hyields : YieldsAmount mapping value amount)
    (hother : Spells mapping other t) (hotherYields : YieldsAmount mapping other otherAmount) :
    s.asRead = some amount.amount.value ∧
      (s.SpaceGrouped → amount.amount.value = s.number) ∧
      (s.SpaceGrouped → t.SpaceGrouped → s.number = t.number →
        amount.amount.value = otherAmount.amount.value) := by
  have hvalue := value_of_spells hspells hyields
  have hotherValue := value_of_spells hother hotherYields
  have hnumber (hspace : s.SpaceGrouped) : amount.amount.value = s.number := by
    rw [Spelling.asRead, if_pos hspace] at hvalue
    exact (Option.some.inj hvalue).symm
  refine ⟨hvalue, hnumber, fun hspace hotherSpace hsame => ?_⟩
  rw [Spelling.asRead, if_pos hotherSpace] at hotherValue
  rw [hnumber hspace, hsame, Option.some.inj hotherValue]

/-! Cells in roubles. -/

def digitsThousand : List Char := ['0', '0', '0']

theorem digitsThousand_digits : ∀ c ∈ digitsThousand, isDecimal c = true := by
  simp only [digitsThousand, List.forall_mem_cons]
  exact ⟨by decide +kernel, by decide +kernel, by decide +kernel, List.forall_mem_nil _⟩

/-- One thousand, as two groups with the separator between them. -/
def groupedThousand (separator : Char) (hmem : separator ∈ thousandsSeparators) : Spelling where
  first := ['1']
  later := [digitsThousand]
  separator := separator
  fraction := none
  first_some := by decide
  first_digits := by
    simp only [List.forall_mem_cons]
    exact ⟨by decide +kernel, nofun⟩
  first_short := by decide
  later_three := by simp [digitsThousand]
  later_digits := by simpa using digitsThousand_digits
  separator_mem := hmem
  fraction_point := nofun
  fraction_other := nofun
  fraction_some := nofun
  fraction_digits := nofun

theorem number_groupedThousand {separator : Char} (hmem : separator ∈ thousandsSeparators) :
    (groupedThousand separator hmem).number = 1000 := by
  have hdigits : digitsValue ['1', '0', '0', '0'] = 1000 := by decide +kernel
  change ((digitsValue ['1', '0', '0', '0'] : ℕ) : ℚ) / 10 ^ 0 = 1000
  rw [hdigits]
  norm_num

def roubles (coefficient places : ℕ) : MoneyAmount where
  amount := ⟨false, coefficient, -places⟩
  currency := "RUB"
  currency_text := Eq.refl false

theorem spells_roubles {s : Spelling} {value : String}
    (hvalue : value.toList = s.text ++ [' ', 'r', 'u', 'b'])
    (hstrip : strip value = value) : Spells plainCase value s := by
  refine ⟨[], [' '], ['r', 'u', 'b'], ?_, nofun, ?_, ?_⟩
  · change (strip value).toList = _
    rw [hstrip, hvalue]
    simp
  · intro c hc
    obtain rfl := List.mem_singleton.mp hc
    decide
  · intro c hc
    obtain rfl := Option.some.inj hc
    decide +kernel

/-- One thousand, as one group with a fraction of two digits. -/
def plainThousand : Spelling where
  first := '1' :: digitsThousand
  later := []
  separator := ' '
  fraction := some ('.', ['0', '0'])
  first_some := by decide
  first_digits := by
    rw [List.forall_mem_cons]
    exact ⟨by decide +kernel, digitsThousand_digits⟩
  first_short := nofun
  later_three := nofun
  later_digits := nofun
  separator_mem := by decide
  fraction_point := by simp
  fraction_other := nofun
  fraction_some := by simp
  fraction_digits := by
    intro part hpart
    obtain rfl := Option.some.inj hpart
    simp only [List.forall_mem_cons]
    exact ⟨by decide +kernel, by decide +kernel, nofun⟩

theorem thousand_with_space :
    Spells plainCase "1 000 rub" (groupedThousand ' ' (by decide)) ∧
      YieldsAmount plainCase "1 000 rub" (roubles 1000 0) ∧
      Spells plainCase "1000.00 rub" plainThousand ∧
      YieldsAmount plainCase "1000.00 rub" (roubles 100000 2) ∧
      (roubles 1000 0).amount.value = (roubles 100000 2).amount.value := by
  have hspace : Spells plainCase "1 000 rub" (groupedThousand ' ' (by decide)) :=
    spells_roubles (by decide) (by decide)
  have hplain : Spells plainCase "1000.00 rub" plainThousand :=
    spells_roubles (by decide) (by decide)
  have hnumber : (groupedThousand ' ' (by decide)).number = plainThousand.number := by
    have hdigits : digitsValue ['1', '0', '0', '0', '0', '0'] = 100000 := by decide +kernel
    rw [number_groupedThousand]
    change 1000 = ((digitsValue ['1', '0', '0', '0', '0', '0'] : ℕ) : ℚ) / 10 ^ 2
    rw [hdigits]
    norm_num
  have hspaceYields : YieldsAmount plainCase "1 000 rub" (roubles 1000 0) :=
    ⟨.exact, "1 000 rub", by decide +kernel⟩
  have hplainYields : YieldsAmount plainCase "1000.00 rub" (roubles 100000 2) :=
    ⟨.exact, "1000.00 rub", by decide +kernel⟩
  exact ⟨hspace, hspaceYields, hplain, hplainYields,
    (price_of_spelling hspace hspaceYields hplain hplainYields).2.2 (by decide) (by decide)
      hnumber⟩

/-- A comma is a decimal point: one thousand with a comma between its groups is
read as one, and three digits after the comma of a grouped number are a fraction. -/
theorem thousand_with_comma :
    (∃ s t amount other, Spells plainCase "1,000 rub" s ∧ Spells plainCase "1 000 rub" t ∧
      s.number = 1000 ∧ t.number = 1000 ∧
      YieldsAmount plainCase "1,000 rub" amount ∧ YieldsAmount plainCase "1 000 rub" other ∧
      amount.amount.value = 1 ∧ other.amount.value = 1000) ∧
    ∃ amount, YieldsAmount plainCase "1 234,567 rub" amount ∧
      amount.amount.value = 1234567 / 1000 := by
  have hvalue (coefficient places : ℕ) :
      (roubles coefficient places).amount.value = coefficient / 10 ^ places :=
    value_unsigned coefficient places
  have hcomma : YieldsAmount plainCase "1,000 rub" (roubles 1000 3) :=
    ⟨.exact, "1,000 rub", by decide +kernel⟩
  have hspace : YieldsAmount plainCase "1 000 rub" (roubles 1000 0) :=
    ⟨.exact, "1 000 rub", by decide +kernel⟩
  have hboth : YieldsAmount plainCase "1 234,567 rub" (roubles 1234567 3) :=
    ⟨.exact, "1 234,567 rub", by decide +kernel⟩
  refine ⟨⟨groupedThousand ',' (by decide), groupedThousand ' ' (by decide), _, _,
    spells_roubles (by decide) (by decide), spells_roubles (by decide) (by decide),
    number_groupedThousand _, number_groupedThousand _, hcomma, hspace, ?_, ?_⟩, _, hboth, ?_⟩
  all_goals
    rw [hvalue]
    norm_num

end CrmBot.Commercial
