import Mathlib.Data.List.Lattice
import Mathlib.Data.List.Pairwise
import Mathlib.Data.List.Perm.Basic
import Mathlib.Logic.Relation

/-! Searches of a graph and sweeps over its components.

A search keeps the nodes found and the nodes pending; a sweep keeps the classes
collected so far. Each has rules for what its loop may do. -/

namespace Components

variable {Node : Type*}

section Search

variable (adjacent : Node → Node → Prop)

/-- What a search from `start` knows: it found only what is reachable, and what is
next to a found node is found or pending. -/
structure Search (start : Node) (found pending : List Node) : Prop where
  start_mem : start ∈ found ∨ start ∈ pending
  reachable : ∀ node, node ∈ found ∨ node ∈ pending → Relation.ReflTransGen adjacent start node
  closed : ∀ node ∈ found, ∀ next, adjacent node next → next ∈ found ∨ next ∈ pending

namespace Search

variable {adjacent} {start current : Node} {found pending next : List Node}

theorem init (start : Node) : Search adjacent start [] [start] where
  start_mem := .inr List.mem_cons_self
  reachable := by
    rintro node (hfound | hpending)
    · cases hfound
    · rw [List.mem_singleton.mp hpending]
  closed := by simp

/-- A node found before is dropped. -/
theorem skip (h : Search adjacent start found (current :: pending)) (hfound : current ∈ found) :
    Search adjacent start found pending where
  start_mem := by
    rcases h.start_mem with hstart | hstart
    · exact .inl hstart
    · rcases List.mem_cons.mp hstart with rfl | hrest
      · exact .inl hfound
      · exact .inr hrest
  reachable := fun node hnode => h.reachable node (hnode.imp_right (List.mem_cons_of_mem _))
  closed := by
    intro node hnode other hadjacent
    rcases h.closed node hnode other hadjacent with hother | hother
    · exact .inl hother
    · rcases List.mem_cons.mp hother with rfl | hrest
      · exact .inl hfound
      · exact .inr hrest

/-- A new node is found, and what is next to it and not found is pending. -/
theorem visit (h : Search adjacent start found (current :: pending))
    (hnext : ∀ node, node ∈ next ↔ adjacent current node ∧ node ∉ found ++ [current]) :
    Search adjacent start (found ++ [current]) (next ++ pending) where
  start_mem := by
    rcases h.start_mem with hstart | hstart
    · exact .inl (List.mem_append_left _ hstart)
    · rcases List.mem_cons.mp hstart with rfl | hrest
      · exact .inl (by simp)
      · exact .inr (List.mem_append_right _ hrest)
  reachable := by
    intro node hnode
    simp only [List.mem_append, List.mem_singleton] at hnode
    rcases hnode with (hfound | rfl) | hnew | hrest
    · exact h.reachable node (.inl hfound)
    · exact h.reachable node (.inr List.mem_cons_self)
    · have hcurrent := h.reachable current (.inr List.mem_cons_self)
      exact hcurrent.tail ((hnext node).mp hnew).1
    · exact h.reachable node (.inr (List.mem_cons_of_mem _ hrest))
  closed := by
    intro node hnode other hadjacent
    by_cases hother : other ∈ found ++ [current]
    · exact .inl hother
    right
    rcases List.mem_append.mp hnode with hold | hnew
    · rcases h.closed node hold other hadjacent with hfound | hpending
      · exact absurd (List.mem_append_left _ hfound) hother
      · rcases List.mem_cons.mp hpending with rfl | hrest
        · exact absurd (by simp) hother
        · exact List.mem_append_right _ hrest
    · rw [List.mem_singleton.mp hnew] at hadjacent
      exact List.mem_append_left _ ((hnext other).mpr ⟨hadjacent, hother⟩)

/-- When nothing is pending, exactly the reachable nodes are found. -/
theorem mem_found_iff (h : Search adjacent start found []) {node : Node} :
    node ∈ found ↔ Relation.ReflTransGen adjacent start node := by
  refine ⟨fun hfound => h.reachable node (.inl hfound), fun hreach => ?_⟩
  induction hreach with
  | refl => exact h.start_mem.resolve_right List.not_mem_nil
  | tail _ hstep ih => exact (h.closed _ ih _ hstep).resolve_right List.not_mem_nil

end Search

end Search

section Sweep

variable (related : Node → Node → Prop)

/-- What a sweep has after the nodes `done`: disjoint classes that cover them. -/
structure Sweep (done : List Node) (classes : List (List Node)) : Prop where
  isClass : ∀ members ∈ classes, ∃ node, ∀ other, other ∈ members ↔ related node other
  covered : ∀ node ∈ done, ∃ members ∈ classes, node ∈ members
  disjoint : classes.Pairwise List.Disjoint

namespace Sweep

variable {related} {done : List Node} {classes others : List (List Node)} {node : Node}
  {members : List Node}

theorem nil : Sweep related [] [] where
  isClass := by simp
  covered := by simp
  disjoint := .nil

/-- A node that a class has adds nothing. -/
theorem skip (h : Sweep related done classes) (hnode : ∃ members ∈ classes, node ∈ members) :
    Sweep related (done ++ [node]) classes where
  isClass := h.isClass
  covered := by
    intro other hother
    rcases List.mem_append.mp hother with hdone | hlast
    · exact h.covered other hdone
    · rw [List.mem_singleton.mp hlast]
      exact hnode
  disjoint := h.disjoint

/-- The class of a node that no class has is added. -/
theorem add (h : Sweep related done classes) (hequiv : Equivalence related)
    (hfresh : ∀ members ∈ classes, node ∉ members)
    (hmembers : ∀ other, other ∈ members ↔ related node other) :
    Sweep related (done ++ [node]) (classes ++ [members]) where
  isClass := by
    intro found hfound
    rcases List.mem_append.mp hfound with hold | hlast
    · exact h.isClass found hold
    · rw [List.mem_singleton.mp hlast]
      exact ⟨node, hmembers⟩
  covered := by
    intro other hother
    rcases List.mem_append.mp hother with hdone | hlast
    · obtain ⟨found, hfound, hmem⟩ := h.covered other hdone
      exact ⟨found, List.mem_append_left _ hfound, hmem⟩
    · rw [List.mem_singleton.mp hlast]
      exact ⟨members, by simp, (hmembers node).mpr (hequiv.refl node)⟩
  disjoint := by
    rw [List.pairwise_append]
    refine ⟨h.disjoint, List.pairwise_singleton _ _, fun found hfound last hlast => ?_⟩
    rw [List.mem_singleton.mp hlast]
    intro other hother hmember
    obtain ⟨first, hclass⟩ := h.isClass found hfound
    have hfirst := (hclass other).mp hother
    have hnode := hequiv.symm ((hmembers other).mp hmember)
    exact hfresh found hfound ((hclass node).mpr (hequiv.trans hfirst hnode))

theorem of_perm (h : Sweep related done classes) (hperm : classes.Perm others) :
    Sweep related done others where
  isClass := fun found hfound => h.isClass found (hperm.mem_iff.mpr hfound)
  covered := by
    intro other hother
    obtain ⟨found, hfound, hmem⟩ := h.covered other hother
    exact ⟨found, hperm.mem_iff.mp hfound, hmem⟩
  disjoint := (hperm.pairwise_iff fun hdisjoint => List.Disjoint.symm hdisjoint).mp h.disjoint

/-- Two nodes share a class when they are related. -/
theorem shared_iff (h : Sweep related done classes) (hequiv : Equivalence related)
    (hnode : node ∈ done) {other : Node} :
    (∃ members ∈ classes, node ∈ members ∧ other ∈ members) ↔ related node other := by
  constructor
  · rintro ⟨found, hfound, hmem, hother⟩
    obtain ⟨first, hclass⟩ := h.isClass found hfound
    exact hequiv.trans (hequiv.symm ((hclass node).mp hmem)) ((hclass other).mp hother)
  · intro hrelated
    obtain ⟨found, hfound, hmem⟩ := h.covered node hnode
    obtain ⟨first, hclass⟩ := h.isClass found hfound
    have hfirst := (hclass node).mp hmem
    exact ⟨found, hfound, hmem, (hclass other).mpr (hequiv.trans hfirst hrelated)⟩

end Sweep

/-- Being joined by a path in a symmetric graph is an equivalence. -/
theorem equivalence_reflTransGen {adjacent : Node → Node → Prop}
    (hsymm : ∀ {left right}, adjacent left right → adjacent right left) :
    Equivalence (Relation.ReflTransGen adjacent) where
  refl := fun _ => .refl
  symm := by
    have hadjacent : Std.Symm adjacent := ⟨fun _ _ => hsymm⟩
    intro left right hpath
    exact Std.Symm.symm left right hpath
  trans := .trans

end Sweep

end Components
