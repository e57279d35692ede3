import CrmBot.Library.Ink

/-! Base64 with the alphabet for URLs, as `urlsafe_b64encode` and `urlsafe_b64decode` have it.

The decoder is the lenient one: characters outside the alphabet are skipped. -/

namespace Base64

def alphabet : List Char :=
  ['A', 'B', 'C', 'D', 'E', 'F', 'G', 'H', 'I', 'J', 'K', 'L', 'M', 'N', 'O', 'P', 'Q', 'R',
    'S', 'T', 'U', 'V', 'W', 'X', 'Y', 'Z', 'a', 'b', 'c', 'd', 'e', 'f', 'g', 'h', 'i', 'j',
    'k', 'l', 'm', 'n', 'o', 'p', 'q', 'r', 's', 't', 'u', 'v', 'w', 'x', 'y', 'z', '0', '1',
    '2', '3', '4', '5', '6', '7', '8', '9', '-', '_']

def digitChar (digit : ℕ) : Char := alphabet.getD digit 'A'

/-- The value of a digit. The characters of the standard alphabet are digits as well. -/
def digitOf? (c : Char) : Option ℕ :=
  if c = '+' then some 62 else if c = '/' then some 63 else alphabet.idxOf? c

def encode : List UInt8 → List Char
  | first :: second :: third :: rest =>
    digitChar (first.toNat / 4) :: digitChar (first.toNat % 4 * 16 + second.toNat / 16) ::
      digitChar (second.toNat % 16 * 4 + third.toNat / 64) :: digitChar (third.toNat % 64) ::
      encode rest
  | [first, second] =>
    [digitChar (first.toNat / 4), digitChar (first.toNat % 4 * 16 + second.toNat / 16),
      digitChar (second.toNat % 16 * 4), '=']
  | [first] => [digitChar (first.toNat / 4), digitChar (first.toNat % 4 * 16), '=', '=']
  | [] => []

/-- Decodes from a place in a group of four digits, with the bits left over from the digit
before and the number of pads since. Enough pads end the text. -/
def decodeFrom (place left pads : ℕ) : List Char → Option (List UInt8)
  | [] => if place = 0 then some [] else none
  | c :: rest =>
    if c = '=' then
      if 2 ≤ place then
        if 4 ≤ place + (pads + 1) then some [] else decodeFrom place left (pads + 1) rest
      else decodeFrom place left pads rest
    else match digitOf? c with
      | none => decodeFrom place left pads rest
      | some digit =>
        match place with
        | 0 => decodeFrom 1 digit 0 rest
        | 1 => (decodeFrom 2 (digit % 16) 0 rest).map (UInt8.ofNat (left * 4 + digit / 16) :: ·)
        | 2 => (decodeFrom 3 (digit % 4) 0 rest).map (UInt8.ofNat (left * 16 + digit / 4) :: ·)
        | _ => (decodeFrom 0 0 0 rest).map (UInt8.ofNat (left * 64 + digit) :: ·)

def decode (text : List Char) : Option (List UInt8) := decodeFrom 0 0 0 text

/-- The text without its pads. -/
def unpadded (text : List Char) : List Char := text.rdropWhile (· = '=')

/-- The text with the pads that its length asks for. -/
def padded (text : List Char) : List Char :=
  text ++ List.replicate ((4 - text.length % 4) % 4) '='

theorem digitOf?_digitChar : ∀ digit < 64, digitOf? (digitChar digit) = some digit := by
  decide

theorem digitChar_ne_pad : ∀ digit < 64, digitChar digit ≠ '=' := by decide

section Digits

variable {digit : ℕ} (hdigit : digit < 64) (left pads : ℕ) (rest : List Char) {byte : UInt8}

include hdigit

theorem decodeFrom_zero :
    decodeFrom 0 left pads (digitChar digit :: rest) = decodeFrom 1 digit 0 rest := by
  rw [decodeFrom, if_neg (digitChar_ne_pad digit hdigit), digitOf?_digitChar digit hdigit]
  rfl

theorem decodeFrom_one (hbyte : left * 4 + digit / 16 = byte.toNat) :
    decodeFrom 1 left pads (digitChar digit :: rest) =
      (decodeFrom 2 (digit % 16) 0 rest).map (byte :: ·) := by
  rw [decodeFrom, if_neg (digitChar_ne_pad digit hdigit), digitOf?_digitChar digit hdigit]
  simp only [hbyte, UInt8.ofNat_toNat]

theorem decodeFrom_two (hbyte : left * 16 + digit / 4 = byte.toNat) :
    decodeFrom 2 left pads (digitChar digit :: rest) =
      (decodeFrom 3 (digit % 4) 0 rest).map (byte :: ·) := by
  rw [decodeFrom, if_neg (digitChar_ne_pad digit hdigit), digitOf?_digitChar digit hdigit]
  simp only [hbyte, UInt8.ofNat_toNat]

theorem decodeFrom_three (hbyte : left * 64 + digit = byte.toNat) :
    decodeFrom 3 left pads (digitChar digit :: rest) =
      (decodeFrom 0 0 0 rest).map (byte :: ·) := by
  rw [decodeFrom, if_neg (digitChar_ne_pad digit hdigit), digitOf?_digitChar digit hdigit]
  simp only [hbyte, UInt8.ofNat_toNat]

end Digits

theorem decode_encode (bytes : List UInt8) : decode (encode bytes) = some bytes := by
  unfold decode
  induction bytes using encode.induct with
  | case1 first second third rest ih =>
    have hfirst := first.toNat_lt
    have hsecond := second.toNat_lt
    have hthird := third.toNat_lt
    rw [encode, decodeFrom_zero (by omega),
      decodeFrom_one (by omega) _ _ _ (show _ = first.toNat by omega),
      decodeFrom_two (by omega) _ _ _ (show _ = second.toNat by omega),
      decodeFrom_three (by omega) _ _ _ (show _ = third.toNat by omega), ih]
    rfl
  | case2 first second =>
    have hfirst := first.toNat_lt
    have hsecond := second.toNat_lt
    rw [encode, decodeFrom_zero (by omega),
      decodeFrom_one (by omega) _ _ _ (show _ = first.toNat by omega),
      decodeFrom_two (by omega) _ _ _ (show _ = second.toNat by omega)]
    rfl
  | case3 first =>
    have hfirst := first.toNat_lt
    rw [encode, decodeFrom_zero (by omega),
      decodeFrom_one (by omega) _ _ _ (show _ = first.toNat by omega)]
    rfl
  | case4 => rfl

theorem digitChar_mem_alphabet : ∀ digit < 64, digitChar digit ∈ alphabet := by decide

theorem exists_digit_of_mem {c : Char} (h : c ∈ alphabet) : ∃ digit < 64, digitChar digit = c := by
  obtain ⟨digit, hdigit, hc⟩ := List.getElem_of_mem h
  refine ⟨digit, hdigit, ?_⟩
  rw [digitChar, List.getD_eq_getElem?_getD, List.getElem?_eq_getElem hdigit, hc, Option.getD_some]

/-- An encoded text is digits, and then the pads that fill its last group. -/
theorem exists_digits (bytes : List UInt8) :
    ∃ digits count, encode bytes = digits ++ List.replicate count '=' ∧
      (∀ c ∈ digits, c ∈ alphabet) ∧ count < 4 ∧ (digits.length + count) % 4 = 0 := by
  induction bytes using encode.induct with
  | case1 first second third rest ih =>
    obtain ⟨digits, count, heq, hdigits, hcount, hlength⟩ := ih
    have hfirst := first.toNat_lt
    have hsecond := second.toNat_lt
    have hthird := third.toNat_lt
    refine ⟨_ :: _ :: _ :: _ :: digits, count, by rw [encode, heq]; rfl, ?_, hcount, ?_⟩
    · simp only [List.forall_mem_cons]
      exact ⟨digitChar_mem_alphabet _ (by omega), digitChar_mem_alphabet _ (by omega),
        digitChar_mem_alphabet _ (by omega), digitChar_mem_alphabet _ (by omega), hdigits⟩
    · simp only [List.length_cons]
      omega
  | case2 first second =>
    have hfirst := first.toNat_lt
    have hsecond := second.toNat_lt
    refine ⟨[_, _, _], 1, rfl, ?_, by omega, by simp⟩
    simp only [List.forall_mem_cons]
    exact ⟨digitChar_mem_alphabet _ (by omega), digitChar_mem_alphabet _ (by omega),
      digitChar_mem_alphabet _ (by omega), nofun⟩
  | case3 first =>
    have hfirst := first.toNat_lt
    refine ⟨[_, _], 2, rfl, ?_, by omega, by simp⟩
    simp only [List.forall_mem_cons]
    exact ⟨digitChar_mem_alphabet _ (by omega), digitChar_mem_alphabet _ (by omega), nofun⟩
  | case4 => exact ⟨[], 0, rfl, nofun, by omega, rfl⟩

theorem pad_notMem_alphabet : '=' ∉ alphabet := by decide

/-- An encoded text without its pads, which can be put back. -/
theorem unpadded_encode (bytes : List UInt8) :
    padded (unpadded (encode bytes)) = encode bytes ∧
      (∀ c ∈ unpadded (encode bytes), c ∈ alphabet) ∧
      (unpadded (encode bytes) = [] → bytes = []) := by
  obtain ⟨digits, count, heq, hdigits, hcount, hlength⟩ := exists_digits bytes
  have hpads : ∀ c ∈ List.replicate count '=', decide (c = '=') = true := by
    intro c hc
    simp [List.eq_of_mem_replicate hc]
  have hunpadded : unpadded (encode bytes) = digits := by
    rw [heq, unpadded, Ink.rdropWhile_append_of_blank hpads, List.rdropWhile_eq_self_iff]
    intro hne hlast
    rw [decide_eq_true_eq] at hlast
    exact pad_notMem_alphabet (hdigits _ (hlast ▸ List.getLast_mem hne))
  rw [hunpadded]
  refine ⟨?_, hdigits, ?_⟩
  · rw [heq, padded]
    congr 2
    omega
  · rintro rfl
    have hzero : count = 0 := by
      simp only [List.length_nil] at hlength
      omega
    rw [hzero] at heq
    have hdecode := decode_encode bytes
    rw [heq] at hdecode
    exact (Option.some.inj hdecode).symm

end Base64
