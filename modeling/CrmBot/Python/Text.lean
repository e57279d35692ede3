import CrmBot.Library.Ink
import CrmBot.Python.Builtins
import Mathlib.Data.List.TakeWhile

/-! Texts taken apart, as the handlers read them. -/

namespace CrmBot.Python

/-- `value.strip()`. -/
def strip (value : String) : String :=
  String.ofList (((value.toList.dropWhile isSpace).reverse.dropWhile isSpace).reverse)

theorem strip_strip (text : String) : strip (strip text) = strip text := by
  have htrim (value : String) : strip value = String.ofList (Ink.trim isSpace value.toList) := rfl
  rw [htrim (strip text), htrim text, String.toList_ofList, Ink.trim_trim]

theorem strip_eq_empty_iff {text : String} : strip text = "" ↔ isBlank text = true := by
  have htrim : strip text = String.ofList (Ink.trim isSpace text.toList) := rfl
  rw [isBlank, List.all_eq_true, ← Ink.ink_eq_nil_iff, ← Ink.ink_trim, htrim,
    ← String.ofList_nil, String.ofList_inj]
  refine ⟨fun hnil => by rw [hnil, Ink.ink_nil], fun hnil => ?_⟩
  rw [Ink.ink_trim, Ink.ink_eq_nil_iff] at hnil
  rw [Ink.trim, List.dropWhile_eq_nil_iff.mpr hnil, List.rdropWhile_nil]

theorem isBlank_append (front rest : String) :
    isBlank (front ++ rest) = (isBlank front && isBlank rest) := by
  unfold isBlank
  rw [String.toList_append, List.all_append]

/-- Stripping takes white space from both ends, and leaves none at the second. -/
theorem strip_spec (value : String) :
    ∃ before after, value.toList = before ++ (strip value).toList ++ after ∧
      (∀ c ∈ before, isSpace c = true) ∧ (∀ c ∈ after, isSpace c = true) ∧
      ∀ last, (strip value).toList.getLast? = some last → isSpace last = false := by
  have hstrip : (strip value).toList =
      ((value.toList.dropWhile isSpace).reverse.dropWhile isSpace).reverse := by
    rw [strip, String.toList_ofList]
  generalize hfront : value.toList.dropWhile isSpace = front at hstrip
  refine ⟨value.toList.takeWhile isSpace, (front.reverse.takeWhile isSpace).reverse, ?_, ?_, ?_, ?_⟩
  · rw [hstrip, List.append_assoc, ← List.reverse_append, List.takeWhile_append_dropWhile,
      List.reverse_reverse, ← hfront, List.takeWhile_append_dropWhile]
  · exact fun c hc => List.mem_takeWhile_imp hc
  · exact fun c hc => List.mem_takeWhile_imp (List.mem_reverse.mp hc)
  · intro last hlast
    rw [hstrip, List.getLast?_reverse] at hlast
    have hhead := List.head?_dropWhile_not isSpace front.reverse
    rw [hlast] at hhead
    simpa using hhead

/-- A text does not become a part of its end by stripping when a character that
is not white space stands before that part. -/
theorem strip_append_ne {front : List Char} {rest : String} {c : Char}
    (hc : isSpace c = false) : strip (String.ofList (front ++ c :: rest.toList)) ≠ rest := by
  intro h
  obtain ⟨before, after, hwhole, hbefore, hafter, hlast⟩ :=
    strip_spec (String.ofList (front ++ c :: rest.toList))
  rw [h, String.toList_ofList, List.append_cons] at hwhole
  rw [h] at hlast
  generalize rest.toList = tail at hwhole hlast
  rcases List.eq_nil_or_concat after with rfl | ⟨others, final, rfl⟩
  · rw [List.append_nil] at hwhole
    have hmem : c ∈ before := by
      rw [← List.append_cancel_right hwhole]
      simp
    rw [hbefore c hmem] at hc
    cases hc
  · rcases List.eq_nil_or_concat tail with rfl | ⟨inner, last, rfl⟩
    · have hmem : c ∈ before ++ [] ++ others.concat final := by
        rw [← hwhole]
        simp
      rw [List.append_nil, List.mem_append] at hmem
      rw [hmem.elim (hbefore c) (hafter c)] at hc
      cases hc
    · have hspace := hafter final (by simp)
      have hlast := hlast last (by simp)
      have hends := congrArg List.getLast? hwhole
      simp only [List.concat_eq_append, ← List.append_assoc, List.getLast?_concat,
        Option.some.injEq] at hends
      rw [hends, hspace] at hlast
      cases hlast

/-- The text after the first empty line, the last part of `partition("\n\n")`. -/
def afterEmptyLine? : List Char → Option (List Char)
  | '\n' :: '\n' :: rest => some rest
  | _ :: rest => afterEmptyLine? rest
  | [] => none

/-- The characters at which `splitlines` ends a line. -/
def isLineBreak (c : Char) : Bool :=
  let code := c.toNat
  (10 ≤ code && code ≤ 13) || (28 ≤ code && code ≤ 30) || code == 0x85 || code == 0x2028 ||
    code == 0x2029

/-- `splitlines`, with what was read of the current line, backwards. -/
def splitlinesFrom (line : List Char) : List Char → List (List Char)
  | [] => if line.isEmpty then [] else [line.reverse]
  | '\r' :: '\n' :: rest => line.reverse :: splitlinesFrom [] rest
  | c :: rest =>
    if isLineBreak c then line.reverse :: splitlinesFrom [] rest
    else splitlinesFrom (c :: line) rest

def splitlines (text : String) : List (List Char) := splitlinesFrom [] text.toList

/-- `text.removeprefix(front)` where the text starts with it. -/
def afterPrefix? (front : List Char) (text : List Char) : Option (List Char) :=
  if front <+: text then some (text.drop front.length) else none

def isLatinLetter (c : Char) : Bool := c.isAlpha

/-- `[A-Za-z0-9_-]`. -/
def isLatinTokenChar (c : Char) : Bool := c.isAlphanum || c == '_' || c == '-'

/-- `re.finditer("[A-Za-z][A-Za-z0-9_-]*", …)`, with what was read of the current
token, backwards. -/
def latinTokensFrom (token : List Char) : List Char → List (List Char)
  | [] => if token.isEmpty then [] else [token.reverse]
  | c :: rest =>
    if token.isEmpty then
      if isLatinLetter c then latinTokensFrom [c] rest else latinTokensFrom [] rest
    else if isLatinTokenChar c then latinTokensFrom (c :: token) rest
    else token.reverse :: latinTokensFrom [] rest

/-- `_latin_tokens`. -/
def latinTokens (text : String) : List (List Char) := latinTokensFrom [] text.toList

example : latinTokens "see RFC-822, 4x and v2_b" =
    ["see".toList, "RFC-822".toList, "x".toList, "and".toList, "v2_b".toList] := by decide

end CrmBot.Python
