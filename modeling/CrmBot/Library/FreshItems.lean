import Mathlib.Data.List.Nodup
import Mathlib.Data.Set.Card

/-! Runs whose steps never take an item twice.

Every step takes an item. When what a step takes has not retired before, retires
with the step and never comes back, a run takes no more items than there are. -/

namespace FreshItems

variable {State Item : Type*}

/-- A run, with the items that its steps took. -/
inductive Run (step : State → Item → State → Prop) (first : State) : List Item → State → Prop
  | start : Run step first [] first
  | next {items : List Item} {before after : State} {item : Item}
    (hrun : Run step first items before) (hstep : step before item after) :
    Run step first (items ++ [item]) after

/-- The items of the steps retire: in states that satisfy an invariant, a step
takes a member of a set that has not retired, and this member retires. -/
structure Retires (step : State → Item → State → Prop) (holds : State → Prop)
    (retired : State → Item → Prop) (members : Set Item) : Prop where
  keeps : ∀ before item after, holds before → step before item after → holds after
  mem : ∀ before item after, holds before → step before item after → item ∈ members
  fresh : ∀ before item after, holds before → step before item after → ¬ retired before item
  retires : ∀ before item after, holds before → step before item after → retired after item
  stays : ∀ before item after, holds before → step before item after →
    ∀ other, retired before other → retired after other

namespace Retires

variable {step : State → Item → State → Prop} {holds : State → Prop}
  {retired : State → Item → Prop} {members : Set Item} {first last : State} {items : List Item}

/-- The items of a run are different, and have all retired at its end. -/
theorem of_run (h : Retires step holds retired members) (hrun : Run step first items last)
    (hfirst : holds first) :
    holds last ∧ items.Nodup ∧ ∀ item ∈ items, item ∈ members ∧ retired last item := by
  induction hrun with
  | start => exact ⟨hfirst, List.nodup_nil, nofun⟩
  | @next items before after item _ hstep ih =>
    obtain ⟨hbefore, hnodup, hitems⟩ := ih
    refine ⟨h.keeps _ _ _ hbefore hstep, ?_, ?_⟩
    · refine hnodup.append (List.nodup_singleton item) fun other hother hnew => ?_
      obtain rfl := List.mem_singleton.mp hnew
      exact h.fresh _ _ _ hbefore hstep (hitems other hother).2
    · intro other hother
      rcases List.mem_append.mp hother with hold | hnew
      · exact ⟨(hitems other hold).1, h.stays _ _ _ hbefore hstep other (hitems other hold).2⟩
      · obtain rfl := List.mem_singleton.mp hnew
        exact ⟨h.mem _ _ _ hbefore hstep, h.retires _ _ _ hbefore hstep⟩

/-- A run has at most as many steps as there are members. -/
theorem length_le (h : Retires step holds retired members) (hfinite : members.Finite)
    (hrun : Run step first items last) (hfirst : holds first) : items.length ≤ members.ncard := by
  classical
  obtain ⟨-, hnodup, hitems⟩ := h.of_run hrun hfirst
  rw [← List.toFinset_card_of_nodup hnodup, ← Set.ncard_coe_finset]
  refine Set.ncard_le_ncard (fun item hitem => ?_) hfinite
  rw [Finset.mem_coe, List.mem_toFinset] at hitem
  exact (hitems item hitem).1

end Retires

end FreshItems
