import Mathlib.Data.Setoid.Basic

/-! Classes that are named by representatives.

A map to representatives puts two points in one class when it sends them to the
same point. Joining classes makes the smallest equivalence that relates what is
joined, whatever the order in which it is done. -/

namespace Representatives

variable {α : Type*} {find middle after : α → α} {first second related : α → α → Prop}

/-- The classes of `after` are those of `find`, joined where points are related. -/
structure Joins (find after : α → α) (related : α → α → Prop) : Prop where
  kept : ∀ x y, find x = find y → after x = after y
  joined : ∀ x y, related x y → after x = after y
  least : ∀ classes : Setoid α, (∀ x y, find x = find y → classes x y) →
    (∀ x y, related x y → classes x y) → ∀ x y, after x = after y → classes x y

namespace Joins

theorem refl (find : α → α) : Joins find find fun _ _ => False :=
  ⟨fun _ _ h => h, nofun, fun _ h _ => h⟩

theorem trans (hfirst : Joins find middle first) (hsecond : Joins middle after second) :
    Joins find after fun x y => first x y ∨ second x y where
  kept x y h := hsecond.kept x y (hfirst.kept x y h)
  joined x y h := h.elim (fun h => hsecond.kept x y (hfirst.joined x y h)) (hsecond.joined x y)
  least classes hfind hrelated :=
    hsecond.least classes
      (hfirst.least classes hfind fun x y h => hrelated x y (.inl h))
      fun x y h => hrelated x y (.inr h)

/-- Relations that the joined classes contain, and that relate enough, may stand for the
ones that were joined. -/
theorem replace (h : Joins find after first) (hjoined : ∀ x y, second x y → after x = after y)
    (hleast : ∀ classes : Setoid α, (∀ x y, find x = find y → classes x y) →
      (∀ x y, second x y → classes x y) → ∀ x y, first x y → classes x y) :
    Joins find after second where
  kept := h.kept
  joined := hjoined
  least classes hfind hrelated :=
    h.least classes hfind (hleast classes hfind hrelated)

/-- The same classes are joined by relations that relate the same points. -/
theorem congr (h : Joins find after first) (hsame : ∀ x y, first x y ↔ second x y) :
    Joins find after second where
  kept := h.kept
  joined x y hxy := h.joined x y ((hsame x y).mpr hxy)
  least classes hfind hrelated := h.least classes hfind fun x y hxy =>
    hrelated x y ((hsame x y).mp hxy)

/-- One representative is hung under another one. -/
theorem hang [DecidableEq α] (find : α → α) (oldRoot newRoot : α) :
    Joins find (fun x => if find x = oldRoot then newRoot else find x)
      fun x y => find x = oldRoot ∧ find y = newRoot where
  kept x y h := by simp only [h]
  joined x y h := by simp [h.1, h.2]
  least classes hfind hrelated x y h := by
    by_cases hx : find x = oldRoot
    · by_cases hy : find y = oldRoot
      · exact hfind x y (hx.trans hy.symm)
      · rw [if_pos hx, if_neg hy] at h
        exact hrelated x y ⟨hx, h.symm⟩
    · by_cases hy : find y = oldRoot
      · rw [if_neg hx, if_pos hy] at h
        exact classes.symm (hrelated y x ⟨hy, h⟩)
      · rw [if_neg hx, if_neg hy] at h
        exact hfind x y h

/-- More relations join more. -/
theorem mono {other : α → α} (h : Joins find after first) (hother : Joins find other second)
    (hle : ∀ x y, first x y → second x y) : ∀ x y, after x = after y → other x = other y :=
  h.least (Setoid.ker other) hother.kept fun x y hxy => hother.joined x y (hle x y hxy)

end Joins

end Representatives
