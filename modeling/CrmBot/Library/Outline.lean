import Mathlib.Data.List.Basic
import Mathlib.Order.Basic
import Mathlib.Tactic.Common

/-! The headings of an outline that enclose a line.

A heading stands at an index and has a level, of which the smaller one is the
higher. It encloses what follows it, up to the next heading of its own level or
a higher one. -/

namespace Outline

variable {α : Type*} (index level : α → ℕ)

def Encloses (headings : List α) (line : ℕ) (heading : α) : Prop :=
  index heading ≤ line ∧
    ∀ other ∈ headings, index heading < index other → index other ≤ line →
      level heading < level other

instance (headings : List α) (line : ℕ) (heading : α) :
    Decidable (Encloses index level headings line heading) :=
  inferInstanceAs (Decidable (_ ∧ _))

/-- The headings that enclose a line, in the order of the lines. -/
def enclosing (headings : List α) (line : ℕ) : List α :=
  headings.filter fun heading => Encloses index level headings line heading

/-- A heading ends the open ones of its level and of the levels below, so that the
outermost comes first. -/
def push (opened : List α) (heading : α) : List α :=
  (opened.filter fun other => level other < level heading) ++ [heading]

/-- Headings in the order of the lines, at most one on each. -/
abbrev Ordered (headings : List α) : Prop :=
  headings.Pairwise fun first second => index first < index second

variable {index level}

theorem Ordered.filter {headings : List α} (h : Ordered index headings) (p : α → Bool) :
    Ordered index (headings.filter p) :=
  List.Pairwise.filter p h

/-- Headings after a line do not matter for it. -/
theorem enclosing_eq_filter (headings : List α) (line : ℕ) :
    enclosing index level headings line =
      enclosing index level (headings.filter fun heading => index heading ≤ line) line := by
  unfold enclosing
  rw [List.filter_filter]
  refine List.filter_congr fun heading _ => ?_
  rw [← Bool.decide_and, decide_eq_decide]
  constructor
  · rintro ⟨hle, hended⟩
    exact ⟨⟨hle, fun other hother => hended other (List.mem_filter.mp hother).1⟩, hle⟩
  · rintro ⟨⟨hle, hended⟩, -⟩
    refine ⟨hle, fun other hother hlt hother_le => ?_⟩
    apply hended other _ hlt hother_le
    simp [hother, hother_le]

/-- Lower headings end no higher one. -/
theorem filter_enclosing (headings : List α) (line depth : ℕ) :
    (enclosing index level headings line).filter (fun heading => level heading < depth) =
      enclosing index level (headings.filter fun heading => level heading < depth) line := by
  unfold enclosing
  rw [List.filter_filter, List.filter_filter]
  refine List.filter_congr fun heading _ => ?_
  rw [← Bool.decide_and, ← Bool.decide_and, decide_eq_decide]
  constructor
  · rintro ⟨hdepth, hle, hended⟩
    exact ⟨⟨hle, fun other hother => hended other (List.mem_filter.mp hother).1⟩, hdepth⟩
  · rintro ⟨⟨hle, hended⟩, hdepth⟩
    refine ⟨hdepth, hle, fun other hother hlt hother_le => ?_⟩
    by_cases hother_depth : level other < depth
    · exact hended other (by simp [hother, hother_depth]) hlt hother_le
    · omega

theorem enclosing_concat {headings : List α} {heading : α} {line : ℕ}
    (h : Ordered index (headings ++ [heading])) (hline : index heading ≤ line) :
    enclosing index level (headings ++ [heading]) line =
      push level (enclosing index level headings line) heading := by
  have hbefore : ∀ other ∈ headings, index other < index heading := by
    intro other hother
    exact (List.pairwise_append.mp h).2.2 other hother heading (by simp)
  unfold enclosing push
  rw [List.filter_append, List.filter_filter]
  congr 1
  · refine List.filter_congr fun other hother => ?_
    rw [← Bool.decide_and, decide_eq_decide]
    constructor
    · rintro ⟨hle, hended⟩
      refine ⟨hended heading (by simp) (hbefore other hother) hline, hle, ?_⟩
      exact fun next hnext => hended next (List.mem_append_left _ hnext)
    · rintro ⟨hlevel, hle, hended⟩
      refine ⟨hle, fun next hnext hlt hnext_le => ?_⟩
      rcases List.mem_append.mp hnext with hold | hnew
      · exact hended next hold hlt hnext_le
      · rw [List.mem_singleton.mp hnew]
        exact hlevel
  · apply List.filter_eq_self.mpr
    simp only [List.mem_singleton, forall_eq, decide_eq_true_eq]
    refine ⟨hline, fun next hnext hlt _ => ?_⟩
    rcases List.mem_append.mp hnext with hold | hnew
    · have := hbefore next hold
      omega
    · rw [List.mem_singleton.mp hnew] at hlt
      omega

/-- The headings up to a line, when a given one is the last of them. -/
theorem filter_eq_concat {headings : List α} {heading : α} {line : ℕ}
    (h : Ordered index headings) (hmem : heading ∈ headings) (hline : index heading ≤ line)
    (hlast : ∀ other ∈ headings, index heading < index other → line < index other) :
    headings.filter (fun other => index other ≤ line) =
      headings.filter (fun other => index other < index heading) ++ [heading] := by
  obtain ⟨front, back, rfl⟩ := List.append_of_mem hmem
  obtain ⟨-, hback, hfront⟩ := List.pairwise_append.mp h
  have hbefore : ∀ other ∈ front, index other < index heading := fun other hother =>
    hfront other hother heading List.mem_cons_self
  have hafter : ∀ other ∈ back, index heading < index other := (List.pairwise_cons.mp hback).1
  rw [List.filter_append, List.filter_append, List.filter_cons_of_pos (by simpa using hline),
    List.filter_cons_of_neg (by simp)]
  have hfrontLe : front.filter (fun other => index other ≤ line) = front := by
    apply List.filter_eq_self.mpr
    intro other hother
    have := hbefore other hother
    simp only [decide_eq_true_eq]
    omega
  have hfrontLt : front.filter (fun other => index other < index heading) = front := by
    apply List.filter_eq_self.mpr
    intro other hother
    simpa using hbefore other hother
  have hbackLe : back.filter (fun other => index other ≤ line) = [] := by
    apply List.filter_eq_nil_iff.mpr
    intro other hother
    have := hlast other (by simp [hother]) (hafter other hother)
    simp only [decide_eq_true_eq]
    omega
  have hbackLt : back.filter (fun other => index other < index heading) = [] := by
    apply List.filter_eq_nil_iff.mpr
    intro other hother
    have := hafter other hother
    simp only [decide_eq_true_eq]
    omega
  rw [hfrontLe, hfrontLt, hbackLe, hbackLt, List.append_nil]

/-- The headings before an index are at the front. -/
theorem takeWhile_eq_filter {headings : List α} (h : Ordered index headings) (stop : ℕ) :
    headings.takeWhile (fun heading => index heading < stop) =
      headings.filter fun heading => index heading < stop := by
  induction headings with
  | nil => rfl
  | cons heading rest ih =>
    have hrest := List.pairwise_cons.mp h
    by_cases hstop : index heading < stop
    · rw [List.takeWhile_cons_of_pos (by simpa using hstop),
        List.filter_cons_of_pos (by simpa using hstop), ih hrest.2]
    · have hnone : ∀ other ∈ rest, ¬ index other < stop := by
        intro other hother
        have := hrest.1 other hother
        omega
      rw [List.takeWhile_cons_of_neg (by simpa using hstop),
        List.filter_cons_of_neg (by simpa using hstop)]
      symm
      simpa [List.filter_eq_nil_iff] using hnone

end Outline
