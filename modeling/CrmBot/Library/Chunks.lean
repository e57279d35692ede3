import Mathlib.Algebra.BigOperators.Group.List.Basic
import Mathlib.Algebra.GroupWithZero.Nat
import Mathlib.Data.List.Chain

/-! Lists cut into chunks of bounded cost.

The cut is greedy: a chunk takes items while the limit allows it, and takes its
first item whatever it costs. -/

namespace Chunks

variable {Item : Type*}

/-- A list that has an item. -/
abbrev Chunk (Item : Type*) := {items : List Item // items ≠ []}

def Chunk.IsSingle (chunk : Chunk Item) : Prop := chunk.val.length = 1

variable (cost : Item → ℕ) (limit : ℕ)

/-- The chunks of the remaining items, after the items and the cost of the
chunk that is open. -/
def chunksFrom (current : List Item) (currentCost : ℕ) : List Item → List (Chunk Item)
  | [] => if h : current ≠ [] then [⟨current, h⟩] else []
  | item :: rest =>
    if h : current ≠ [] ∧ limit < currentCost + cost item then
      ⟨current, h.1⟩ :: chunksFrom [item] (cost item) rest
    else chunksFrom (current ++ [item]) (currentCost + cost item) rest

def chunks (items : List Item) : List (Chunk Item) := chunksFrom cost limit [] 0 items

def total (items : List Item) : ℕ := (items.map cost).sum

variable {current items : List Item} {chunk : Chunk Item}

section Cost

variable {cost}

@[simp] theorem total_nil : total cost [] = 0 := rfl

@[simp] theorem total_append (front rest : List Item) :
    total cost (front ++ rest) = total cost front + total cost rest := by
  simp [total]

@[simp] theorem total_singleton (item : Item) : total cost [item] = cost item := by
  simp [total]

end Cost

/-! Chunks of changed items. -/

section Map

variable {Other : Type*}

def Chunk.map (change : Item → Other) (chunk : Chunk Item) : Chunk Other :=
  ⟨chunk.val.map change, fun h => chunk.property (List.map_eq_nil_iff.mp h)⟩

theorem chunksFrom_map (change : Item → Other) {cost : Item → ℕ} {otherCost : Other → ℕ}
    (limit currentCost : ℕ) (current items : List Item)
    (hcost : ∀ item ∈ items, otherCost (change item) = cost item) :
    chunksFrom otherCost limit (current.map change) currentCost (items.map change) =
      (chunksFrom cost limit current currentCost items).map (Chunk.map change) := by
  induction items generalizing current currentCost with
  | nil =>
    by_cases hcurrent : current = []
    · simp [chunksFrom, hcurrent]
    · simp [chunksFrom, hcurrent, Chunk.map]
  | cons item rest ih =>
    rw [List.forall_mem_cons] at hcost
    have hclose := ih (cost item) [item] hcost.2
    have hstay := ih (currentCost + cost item) (current ++ [item]) hcost.2
    rw [List.map_singleton] at hclose
    rw [List.map_append, List.map_singleton] at hstay
    by_cases hfull : current ≠ [] ∧ limit < currentCost + cost item
    · have hother : current.map change ≠ [] ∧ limit < currentCost + otherCost (change item) := by
        rw [hcost.1]
        exact ⟨fun h => hfull.1 (List.map_eq_nil_iff.mp h), hfull.2⟩
      rw [List.map_cons, chunksFrom, chunksFrom, dif_pos hfull, dif_pos hother, hcost.1, hclose]
      rfl
    · have hother : ¬(current.map change ≠ [] ∧ limit < currentCost + otherCost (change item)) := by
        rw [hcost.1]
        exact fun h => hfull ⟨fun hnil => h.1 (List.map_eq_nil_iff.mpr hnil), h.2⟩
      rw [List.map_cons, chunksFrom, chunksFrom, dif_neg hfull, dif_neg hother, hcost.1, hstay]

/-- Items that cost what they stand for are cut as these are. -/
theorem chunks_map (change : Item → Other) {cost : Item → ℕ} {otherCost : Other → ℕ} (limit : ℕ)
    (items : List Item) (hcost : ∀ item ∈ items, otherCost (change item) = cost item) :
    chunks otherCost limit (items.map change) =
      (chunks cost limit items).map (Chunk.map change) :=
  chunksFrom_map change limit 0 [] items hcost

end Map

/-! What is in the chunks. -/

theorem flatten_chunksFrom (currentCost : ℕ) (current items : List Item) :
    (chunksFrom cost limit current currentCost items).flatMap Subtype.val = current ++ items := by
  induction items generalizing current currentCost with
  | nil =>
    unfold chunksFrom
    split
    · simp
    · next h =>
      rw [not_not] at h
      simp [h]
  | cons item rest ih =>
    unfold chunksFrom
    split
    · rw [List.flatMap_cons, ih]
      rfl
    · rw [ih, List.append_assoc]
      rfl

/-- The chunks joined are the items. -/
theorem flatten_chunks (items : List Item) :
    (chunks cost limit items).flatMap Subtype.val = items :=
  flatten_chunksFrom cost limit 0 [] items

theorem exists_chunk_of_mem {item : Item} (h : item ∈ items) :
    ∃ chunk ∈ chunks cost limit items, item ∈ chunk.val := by
  rw [← flatten_chunks cost limit items] at h
  exact List.mem_flatMap.mp h

variable {cost limit}

theorem mem_of_mem_chunk {item : Item} (hchunk : chunk ∈ chunks cost limit items)
    (hitem : item ∈ chunk.val) : item ∈ items := by
  rw [← flatten_chunks cost limit items]
  exact List.mem_flatMap.mpr ⟨chunk, hchunk, hitem⟩

/-! What a chunk costs. -/

theorem total_le_of_mem_chunksFrom {currentCost : ℕ} (hcost : currentCost = total cost current)
    (hcurrent : 1 < current.length → currentCost ≤ limit)
    (hchunk : chunk ∈ chunksFrom cost limit current currentCost items)
    (hlong : 1 < chunk.val.length) : total cost chunk.val ≤ limit := by
  induction items generalizing current currentCost with
  | nil =>
    unfold chunksFrom at hchunk
    split at hchunk
    · rw [List.mem_singleton] at hchunk
      rw [hchunk] at hlong ⊢
      rw [← hcost]
      exact hcurrent hlong
    · cases hchunk
  | cons item rest ih =>
    unfold chunksFrom at hchunk
    split at hchunk
    · rcases List.mem_cons.mp hchunk with rfl | hrest
      · rw [← hcost]
        exact hcurrent hlong
      · apply ih (total_singleton item).symm _ hrest
        intro hsingle
        simp at hsingle
    · next hfits =>
      apply ih _ _ hchunk
      · rw [total_append, total_singleton, hcost]
      · intro hopen
        have hne : current ≠ [] := by
          rintro rfl
          simp at hopen
        have hroom : ¬ limit < currentCost + cost item := fun hover => hfits ⟨hne, hover⟩
        omega

/-- A chunk with more than one item is within the limit. -/
theorem total_le_of_mem_chunks (hchunk : chunk ∈ chunks cost limit items)
    (hlong : 1 < chunk.val.length) : total cost chunk.val ≤ limit := by
  refine total_le_of_mem_chunksFrom total_nil.symm ?_ hchunk hlong
  intro hopen
  simp at hopen

/-! When every item is alone. -/

/-- Two neighbours are too costly for one chunk. -/
def Apart (cost : Item → ℕ) (limit : ℕ) (first second : Item) : Prop :=
  limit < cost first + cost second

/-- The open chunk stays together. -/
theorem exists_prefix_chunk (currentCost : ℕ) (current items : List Item)
    (hcurrent : current ≠ []) :
    ∃ chunk ∈ chunksFrom cost limit current currentCost items, current <+: chunk.val := by
  induction items generalizing current currentCost with
  | nil =>
    rw [chunksFrom, dif_pos hcurrent]
    exact ⟨_, List.mem_singleton_self _, List.prefix_refl current⟩
  | cons item rest ih =>
    unfold chunksFrom
    split
    · exact ⟨_, List.mem_cons_self, List.prefix_refl current⟩
    · obtain ⟨chunk, hchunk, hprefix⟩ := ih (currentCost + cost item) (current ++ [item]) (by simp)
      exact ⟨chunk, hchunk, (List.prefix_append current [item]).trans hprefix⟩

theorem allSingle_chunksFrom_iff (item : Item) (items : List Item) :
    (∀ chunk ∈ chunksFrom cost limit [item] (cost item) items, chunk.IsSingle) ↔
      (item :: items).IsChain (Apart cost limit) := by
  induction items generalizing item with
  | nil => simp [chunksFrom, Chunk.IsSingle]
  | cons next rest ih =>
    rw [List.isChain_cons_cons, chunksFrom]
    by_cases hapart : limit < cost item + cost next
    · rw [dif_pos ⟨List.cons_ne_nil item [], hapart⟩, List.forall_mem_cons, ih]
      simp [Chunk.IsSingle, Apart, hapart]
    · rw [dif_neg (fun h => hapart h.2)]
      apply iff_of_false
      · intro hsingle
        obtain ⟨chunk, hchunk, hprefix⟩ :=
          exists_prefix_chunk (cost item + cost next) ([item] ++ [next]) rest (by simp)
        have hlength := hprefix.length_le
        rw [hsingle chunk hchunk] at hlength
        simp at hlength
      · exact fun h => hapart h.1

/-- Every item is alone exactly when no two neighbours fit together. -/
theorem allSingle_chunks_iff (items : List Item) :
    (∀ chunk ∈ chunks cost limit items, chunk.IsSingle) ↔ items.IsChain (Apart cost limit) := by
  cases items with
  | nil => simp [chunks, chunksFrom]
  | cons item rest =>
    have hopen : chunks cost limit (item :: rest) =
        chunksFrom cost limit [item] (cost item) rest := by
      rw [chunks, chunksFrom, dif_neg (fun h => h.1 rfl), List.nil_append, Nat.zero_add]
    rw [hopen]
    exact allSingle_chunksFrom_iff item rest

/-- Some chunk has more than one item exactly when two neighbours fit together. -/
theorem exists_long_chunk_iff (items : List Item) :
    (∃ chunk ∈ chunks cost limit items, 1 < chunk.val.length) ↔
      ∃ front first second back, items = front ++ first :: second :: back ∧
        cost first + cost second ≤ limit := by
  have hlong : ∀ chunk : Chunk Item, 1 < chunk.val.length ↔ ¬ chunk.IsSingle := by
    intro chunk
    have hpos := List.length_pos_iff.mpr chunk.property
    unfold Chunk.IsSingle
    omega
  have hsingle := @allSingle_chunks_iff _ cost limit items
  rw [List.isChain_iff_forall_rel_of_append_cons_cons] at hsingle
  constructor
  · rintro ⟨chunk, hchunk, hlength⟩
    by_contra hnone
    refine (hlong chunk).mp hlength (hsingle.mpr ?_ chunk hchunk)
    intro first second front back hsplit
    by_contra hfits
    exact hnone ⟨front, first, second, back, hsplit, not_lt.mp hfits⟩
  · rintro ⟨front, first, second, back, hsplit, hfits⟩
    by_contra hnone
    have hapart := hsingle.mp fun chunk hchunk => by
      by_contra hnotSingle
      exact hnone ⟨chunk, hchunk, (hlong chunk).mpr hnotSingle⟩
    exact absurd hfits (not_le.mpr (hapart hsplit))

end Chunks
