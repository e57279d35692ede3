import Mathlib.Data.List.Chain
import Mathlib.Tactic.Common

/-! Streaks: how many of the latest items are linked, each to the one before.

Items are listed with the latest first. A counter that is raised by a linked item and set
back to one by any other item counts the streak. -/

namespace Streaks

variable {α : Type*} {linked : α → α → Prop} {x y : α} {items : List α} {count : ℕ}

/-- The count is the length of the longest front of the items in which each is linked to the
next. -/
structure IsStreak (linked : α → α → Prop) (items : List α) (count : ℕ) : Prop where
  le_length : count ≤ items.length
  chain : (items.take count).IsChain linked
  maximal : ∀ longer, count < longer → longer ≤ items.length →
    ¬ (items.take longer).IsChain linked

theorem isStreak_nil : IsStreak linked [] 0 where
  le_length := Nat.le_refl 0
  chain := List.IsChain.nil
  maximal longer hlonger hle := absurd hle (by simpa using Nat.not_le.mpr hlonger)

theorem isStreak_singleton : IsStreak linked [x] 1 where
  le_length := Nat.le_refl 1
  chain := List.IsChain.singleton x
  maximal longer hlonger hle := absurd hle (by simpa using Nat.not_le.mpr hlonger)

theorem IsStreak.pos (h : IsStreak linked (y :: items) count) : 0 < count := by
  refine Nat.pos_of_ne_zero fun hzero => ?_
  refine h.maximal 1 (by omega) (by simp) ?_
  rw [List.take_one, List.head?_cons]
  exact List.IsChain.singleton y

/-- A linked item makes the streak longer. -/
theorem IsStreak.cons_linked (h : IsStreak linked (y :: items) count) (hlinked : linked x y) :
    IsStreak linked (x :: y :: items) (count + 1) := by
  obtain ⟨rest, rfl⟩ := Nat.exists_eq_add_of_lt h.pos
  refine ⟨by simpa using h.le_length, ?_, ?_⟩
  · have hchain := h.chain
    simp only [Nat.zero_add, List.take_succ_cons] at hchain ⊢
    exact List.isChain_cons_cons.mpr ⟨hlinked, hchain⟩
  · intro longer hlonger hle hchain
    obtain ⟨less, rfl⟩ : ∃ less, longer = less + 1 := ⟨longer - 1, by omega⟩
    rw [List.take_succ_cons] at hchain
    exact h.maximal less (by omega) (by simpa using hle) hchain.tail

/-- An item that is not linked starts a new streak. -/
theorem isStreak_cons_of_not_linked (hlinked : ¬ linked x y) :
    IsStreak linked (x :: y :: items) 1 := by
  refine ⟨by simp, List.IsChain.singleton x, ?_⟩
  intro longer hlonger hle hchain
  obtain ⟨less, rfl⟩ : ∃ less, longer = less + 1 + 1 := ⟨longer - 2, by omega⟩
  rw [List.take_succ_cons, List.take_succ_cons, List.isChain_cons_cons] at hchain
  exact hlinked hchain.1

/-- There is one count. -/
theorem IsStreak.unique {other : ℕ} (h : IsStreak linked items count)
    (hother : IsStreak linked items other) : count = other := by
  rcases Nat.lt_trichotomy count other with hlt | heq | hlt
  · exact absurd hother.chain (h.maximal other hlt hother.le_length)
  · exact heq
  · exact absurd h.chain (hother.maximal count hlt h.le_length)

end Streaks
