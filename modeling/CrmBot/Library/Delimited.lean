import Mathlib.Data.List.Infix
import Mathlib.Data.Nat.Notation
import Mathlib.Data.Set.Finite.Basic

/-! Keys that are built by joining texts.

A decimal counter followed by a colon can be read back from the front of a key,
and two prefixes of which none begins the other never give the same key. -/

namespace Delimited

/-- A list is cut in one way only at the first occurrence of a delimiter. -/
theorem split_eq {α : Type*} {delimiter : α} {first second : List α} {rest other : List α}
    (hfirst : delimiter ∉ first) (hsecond : delimiter ∉ second)
    (h : first ++ delimiter :: rest = second ++ delimiter :: other) :
    first = second ∧ rest = other := by
  induction first generalizing second with
  | nil =>
    cases second with
    | nil => exact ⟨rfl, by simpa using h⟩
    | cons head tail =>
      have hhead : delimiter = head := by simpa using (List.cons.inj h).1
      exact absurd (hhead ▸ List.mem_cons_self) hsecond
  | cons head tail ih =>
    cases second with
    | nil =>
      have hhead : head = delimiter := by simpa using (List.cons.inj h).1
      exact absurd (hhead ▸ List.mem_cons_self) hfirst
    | cons head' tail' =>
      obtain ⟨hhead, htail⟩ := List.cons.inj h
      have hrest := ih (fun hmem => hfirst (List.mem_cons_of_mem head hmem))
        (fun hmem => hsecond (List.mem_cons_of_mem head' hmem)) htail
      exact ⟨by rw [hhead, hrest.1], hrest.2⟩

/-- The same for the last occurrence. -/
theorem split_last_eq {α : Type*} {delimiter : α} {front other : List α} {first second : List α}
    (hfirst : delimiter ∉ first) (hsecond : delimiter ∉ second)
    (h : front ++ delimiter :: first = other ++ delimiter :: second) :
    front = other ∧ first = second := by
  have hreverse := congrArg List.reverse h
  simp only [List.reverse_append, List.reverse_cons, List.append_assoc, List.singleton_append]
    at hreverse
  obtain ⟨hlast, hrest⟩ := split_eq (List.mem_reverse.not.mpr hfirst)
    (List.mem_reverse.not.mpr hsecond) hreverse
  exact ⟨List.reverse_injective hrest, List.reverse_injective hlast⟩

/-! Cutting a list at the first delimiters. -/

section Cut

variable {α : Type*} [DecidableEq α]

/-- The parts before and after the first delimiter. -/
def cut? (delimiter : α) : List α → Option (List α × List α)
  | [] => none
  | head :: tail =>
    if head = delimiter then some ([], tail)
    else (cut? delimiter tail).map fun parts => (head :: parts.1, parts.2)

/-- The list cut at its first delimiters, at most as many as given. -/
def splitUpTo (delimiter : α) : Nat → List α → List (List α)
  | 0, whole => [whole]
  | count + 1, whole => match cut? delimiter whole with
    | some (front, rest) => front :: splitUpTo delimiter count rest
    | none => [whole]

variable {delimiter : α} {front rest : List α}

theorem cut?_append (hfront : delimiter ∉ front) :
    cut? delimiter (front ++ delimiter :: rest) = some (front, rest) := by
  induction front with
  | nil => simp [cut?]
  | cons head tail ih =>
    rw [List.mem_cons, not_or] at hfront
    have hne : head ≠ delimiter := fun heq => hfront.1 heq.symm
    rw [List.cons_append, cut?, if_neg hne, ih hfront.2]
    rfl

/-- A delimiter in the front is where the list is cut. -/
theorem cut?_append_of_mem (hfront : delimiter ∈ front) (rest : List α) :
    ∃ first later, delimiter ∉ first ∧ cut? delimiter (front ++ delimiter :: rest) =
      some (first, later ++ delimiter :: rest) := by
  obtain ⟨first, later, rfl, hfirst⟩ := List.eq_append_cons_of_mem hfront
  refine ⟨first, later, hfirst, ?_⟩
  rw [List.append_assoc, List.cons_append, cut?_append hfirst]

theorem splitUpTo_append {count : Nat} (hfront : delimiter ∉ front) :
    splitUpTo delimiter (count + 1) (front ++ delimiter :: rest) =
      front :: splitUpTo delimiter count rest := by
  rw [splitUpTo, cut?_append hfront]

theorem splitUpTo_append_of_mem (count : Nat) (hfront : delimiter ∈ front) (rest : List α) :
    ∃ first later, splitUpTo delimiter (count + 1) (front ++ delimiter :: rest) =
      first :: splitUpTo delimiter count (later ++ delimiter :: rest) := by
  obtain ⟨first, later, _, hcut⟩ := cut?_append_of_mem hfront rest
  exact ⟨first, later, by rw [splitUpTo, hcut]⟩

end Cut

theorem colon_notMem_digits (count : Nat) : ':' ∉ (toString count).toList := by
  intro hmem
  rw [show (toString count) = count.repr from rfl, Nat.toList_repr] at hmem
  have hdigit := Nat.isDigit_of_mem_toDigits (by omega) (by omega) hmem
  simp at hdigit

theorem toString_inj {first second : Nat} (h : (toString first).toList = (toString second).toList) :
    first = second := by
  rw [show (toString first) = first.repr from rfl, show (toString second) = second.repr from rfl,
    Nat.toList_repr, Nat.toList_repr] at h
  have hread := congrArg (fun digits => Nat.ofDigitChars 10 digits 0) h
  simpa using hread

/-- The counter and the text after the colon can be read back. -/
theorem counted_inj {first second : Nat} {rest other : String}
    (h : toString first ++ ":" ++ rest = toString second ++ ":" ++ other) :
    first = second ∧ rest = other := by
  have hlist := congrArg String.toList h
  simp only [String.toList_append, show ":".toList = [':'] from rfl, List.append_assoc,
    List.singleton_append] at hlist
  obtain ⟨hcount, hrest⟩ := split_eq (colon_notMem_digits first) (colon_notMem_digits second) hlist
  exact ⟨toString_inj hcount, String.toList_inj.mp hrest⟩

/-- A common front can be dropped. -/
theorem append_left_inj {front first second : String} (h : front ++ first = front ++ second) :
    first = second := by
  have hlist := congrArg String.toList h
  rw [String.toList_append, String.toList_append] at hlist
  exact String.toList_inj.mp (List.append_cancel_left hlist)

/-- Neither text begins the other. -/
def Diverge (first second : String) : Prop :=
  ¬ first.toList <+: second.toList ∧ ¬ second.toList <+: first.toList

instance (first second : String) : Decidable (Diverge first second) :=
  inferInstanceAs (Decidable (_ ∧ _))

/-- Diverging fronts give different texts, whatever follows. -/
theorem Diverge.append_ne {first second : String} (h : Diverge first second)
    (rest other : String) : first ++ rest ≠ second ++ other := by
  intro heq
  have hlist : first.toList ++ rest.toList = second.toList ++ other.toList := by
    rw [← String.toList_append, ← String.toList_append, heq]
  have hfirst : first.toList <+: second.toList ++ other.toList := hlist ▸ List.prefix_append _ _
  have hsecond : second.toList <+: second.toList ++ other.toList := List.prefix_append _ _
  rcases List.prefix_or_prefix_of_prefix hfirst hsecond with hprefix | hprefix
  · exact h.1 hprefix
  · exact h.2 hprefix

/-- A longer text still diverges. -/
theorem Diverge.append {first second : String} (h : Diverge first second) (rest : String) :
    Diverge first (second ++ rest) := by
  constructor
  · intro hprefix
    rw [String.toList_append] at hprefix
    rcases List.prefix_or_prefix_of_prefix hprefix (List.prefix_append _ _) with hfirst | hsecond
    · exact h.1 hfirst
    · exact h.2 hsecond
  · intro hprefix
    rw [String.toList_append] at hprefix
    exact h.2 ((List.prefix_append _ _).trans hprefix)

theorem Diverge.symm {first second : String} (h : Diverge first second) : Diverge second first :=
  ⟨h.2, h.1⟩

theorem Diverge.append_both {first second : String} (h : Diverge first second)
    (rest other : String) : Diverge (first ++ rest) (second ++ other) :=
  ((h.symm.append rest).symm).append other

theorem Diverge.prepend {first second : String} (h : Diverge first second) (front : String) :
    Diverge (front ++ first) (front ++ second) := by
  unfold Diverge
  simp only [String.toList_append, List.prefix_append_right_inj]
  exact h

/-- Two series of texts without repetition have a number at which both avoid some
finitely many texts. -/
theorem exists_fresh {first second : Nat → String} (hfirst : Function.Injective first)
    (hsecond : Function.Injective second) (taken other : List String) :
    ∃ number, first number ∉ taken ∧ second number ∉ other := by
  have htaken := (List.finite_toSet taken).preimage hfirst.injOn
  have hother := (List.finite_toSet other).preimage hsecond.injOn
  obtain ⟨number, hnumber⟩ := (htaken.union hother).infinite_compl.nonempty
  rw [Set.mem_compl_iff, Set.mem_union, not_or] at hnumber
  exact ⟨number, hnumber.1, hnumber.2⟩

theorem numbered_injective (front : String) :
    Function.Injective fun number : Nat => front ++ toString number := by
  intro first second heq
  exact toString_inj (congrArg String.toList (append_left_inj heq))

end Delimited
