import CrmBot.Library.Chunks

/-! Lists cut into a wanted number of consecutive chunks.

A chunk is closed when the cost up to its last item reaches the mark of the
chunk, if the items after it are enough for the chunks still to come. The last
chunk takes what is left. -/

namespace Balanced

open Chunks

variable {Item : Type*} (cost : Item → ℕ) (reached : ℕ → ℕ → Bool) (wanted : ℕ)

/-- The chunks of the remaining items, after the number of closed chunks, the items
of the open one and the cost of all items so far. -/
def chunksFrom : (closed : ℕ) → (current : List Item) → (costSoFar : ℕ) → List Item →
    List (Chunk Item)
  | _, current, _, [] => if h : current ≠ [] then [⟨current, h⟩] else []
  | closed, current, costSoFar, item :: rest =>
    if wanted - 1 ≤ closed then
      chunksFrom closed (current ++ [item]) (costSoFar + cost item) rest
    else if reached closed (costSoFar + cost item) = true ∧ wanted - closed - 1 ≤ rest.length then
      ⟨current ++ [item], List.append_ne_nil_of_right_ne_nil _ (List.cons_ne_nil item [])⟩ ::
        chunksFrom (closed + 1) [] (costSoFar + cost item) rest
    else chunksFrom closed (current ++ [item]) (costSoFar + cost item) rest

/-- The chunks are the items in their order. -/
theorem flatten_chunksFrom (closed costSoFar : ℕ) (current items : List Item) :
    ((chunksFrom cost reached wanted closed current costSoFar items).map Subtype.val).flatten =
      current ++ items := by
  induction items generalizing closed current costSoFar with
  | nil =>
    rw [chunksFrom, List.append_nil]
    split
    · simp
    · next h => simpa [eq_comm] using h
  | cons item rest ih =>
    rw [chunksFrom]
    split
    · rw [ih, List.append_assoc]
      rfl
    split
    · rw [List.map_cons, List.flatten_cons, ih, List.append_assoc]
      rfl
    · rw [ih, List.append_assoc]
      rfl

theorem chunksFrom_ne_nil (closed costSoFar : ℕ) {current items : List Item}
    (h : current ≠ [] ∨ items ≠ []) :
    chunksFrom cost reached wanted closed current costSoFar items ≠ [] := by
  intro hnil
  have hflat := flatten_chunksFrom cost reached wanted closed costSoFar current items
  rw [hnil] at hflat
  obtain ⟨hcurrent, hitems⟩ := List.append_eq_nil_iff.mp hflat.symm
  rcases h with h | h
  · exact h hcurrent
  · exact h hitems

variable {cost reached wanted} {closed costSoFar : ℕ} {current items : List Item}

/-- No more chunks than are wanted. -/
theorem length_chunksFrom_le (h : closed < wanted) :
    closed + (chunksFrom cost reached wanted closed current costSoFar items).length ≤ wanted := by
  induction items generalizing closed current costSoFar with
  | nil =>
    rw [chunksFrom]
    split
    · exact h
    · exact h.le
  | cons item rest ih =>
    rw [chunksFrom]
    split
    · exact ih h
    split
    · have hrest : closed + 1 + (chunksFrom cost reached wanted (closed + 1) []
          (costSoFar + cost item) rest).length ≤ wanted := ih (by omega)
      rw [List.length_cons]
      omega
    · exact ih h

/-- Where too few items are left, the open chunk takes them all. -/
theorem length_chunksFrom_of_short (h : closed + items.length < wanted) :
    (chunksFrom cost reached wanted closed current costSoFar items).length ≤ 1 := by
  induction items generalizing current costSoFar with
  | nil =>
    rw [chunksFrom]
    split <;> simp
  | cons item rest ih =>
    rw [List.length_cons] at h
    rw [chunksFrom, if_neg (by omega), if_neg (by omega)]
    exact ih (by omega)

/-- The cost of the items but the last `kept`. -/
def costBefore (cost : Item → ℕ) (items : List Item) (kept : ℕ) : ℕ :=
  total cost (items.take (items.length - kept))

theorem costBefore_cons (item : Item) {rest : List Item} {kept : ℕ} (h : kept ≤ rest.length) :
    costBefore cost (item :: rest) kept = cost item + costBefore cost rest kept := by
  unfold costBefore total
  rw [List.length_cons, show rest.length + 1 - kept = rest.length - kept + 1 by omega,
    List.take_succ_cons, List.map_cons, List.sum_cons]

theorem costBefore_eq_zero {kept : ℕ} (h : items.length ≤ kept) :
    costBefore cost items kept = 0 := by
  unfold costBefore
  rw [Nat.sub_eq_zero_of_le h]
  rfl

/-- The marks of the chunks that are still to be closed, each with the cost of the items
that it may take. -/
def MarksReached (cost : Item → ℕ) (reached : ℕ → ℕ → Bool) (wanted closed costSoFar : ℕ)
    (items : List Item) : Prop :=
  ∀ number, closed ≤ number → number + 1 < wanted →
    reached number (costSoFar + costBefore cost items (wanted - number - 1)) = true

theorem marksReached_cons {item : Item} {rest : List Item}
    (h : wanted - closed - 1 ≤ rest.length) :
    MarksReached cost reached wanted closed costSoFar (item :: rest) ↔
      MarksReached cost reached wanted closed (costSoFar + cost item) rest := by
  unfold MarksReached
  refine forall₃_congr fun number hnumber _ => ?_
  rw [costBefore_cons item (by omega), Nat.add_assoc]

/-- The open chunk takes all the items: as the last one, or because too few are left. -/
theorem length_chunksFrom_eq_iff_of_near (hclosed : closed < wanted)
    (hsome : current ≠ [] ∨ items ≠ [])
    (hopen : closed + items.length < wanted → reached closed costSoFar = false)
    (hnear : closed + 1 = wanted ∨ closed + items.length < wanted) :
    closed + (chunksFrom cost reached wanted closed current costSoFar items).length = wanted ↔
      MarksReached cost reached wanted closed costSoFar items := by
  have hle : closed + (chunksFrom cost reached wanted closed current costSoFar items).length ≤
    wanted := length_chunksFrom_le hclosed
  have hpos := List.length_pos_of_ne_nil
    (chunksFrom_ne_nil cost reached wanted closed costSoFar hsome)
  by_cases hlast : closed + 1 = wanted
  · -- the last chunk has no mark
    refine iff_of_true (by omega) fun number hnumber hmark => ?_
    omega
  · have hshort : closed + items.length < wanted := hnear.resolve_left hlast
    have hone : (chunksFrom cost reached wanted closed current costSoFar items).length ≤ 1 :=
      length_chunksFrom_of_short hshort
    refine iff_of_false (by omega) fun hmarks => ?_
    have hmark := hmarks closed le_rfl (by omega)
    rw [costBefore_eq_zero (by omega), Nat.add_zero, hopen hshort] at hmark
    cases hmark

/-- There are as many chunks as wanted exactly when every mark is reached while the items
after it are enough for the chunks still to come. -/
theorem length_chunksFrom_eq_iff
    (hmono : ∀ number low high, low ≤ high → reached number low = true →
      reached number high = true)
    (hclosed : closed < wanted) (hsome : current ≠ [] ∨ items ≠ [])
    (hopen : closed + items.length < wanted → reached closed costSoFar = false) :
    closed + (chunksFrom cost reached wanted closed current costSoFar items).length = wanted ↔
      MarksReached cost reached wanted closed costSoFar items := by
  induction items generalizing closed current costSoFar with
  | nil =>
    apply length_chunksFrom_eq_iff_of_near hclosed hsome hopen
    rw [List.length_nil]
    omega
  | cons item rest ih =>
    by_cases hnear : closed + 1 = wanted ∨ closed + (item :: rest).length < wanted
    · exact length_chunksFrom_eq_iff_of_near hclosed hsome hopen hnear
    rw [List.length_cons, not_or, not_lt] at hnear
    have henough : wanted - closed - 1 ≤ rest.length := by omega
    rw [marksReached_cons henough, chunksFrom, if_neg (by omega)]
    by_cases hreached : reached closed (costSoFar + cost item) = true
    · -- the chunk is closed, and its mark stays reached
      rw [if_pos ⟨hreached, henough⟩, List.length_cons]
      have hrest : rest ≠ [] := by
        rintro rfl
        simp only [List.length_nil] at henough
        omega
      have hstep : closed + 1 + (chunksFrom cost reached wanted (closed + 1) []
          (costSoFar + cost item) rest).length = wanted ↔
            MarksReached cost reached wanted (closed + 1) (costSoFar + cost item) rest :=
        ih (by omega) (.inr hrest) (by omega)
      rw [show ∀ count, closed + (count + 1) = closed + 1 + count by omega, hstep]
      constructor
      · intro hmarks number hnumber hmark
        rcases Nat.eq_or_lt_of_le hnumber with rfl | hlater
        · exact hmono _ _ _ (Nat.le_add_right _ _) hreached
        · exact hmarks number hlater hmark
      · exact fun hmarks number hnumber => hmarks number (by omega)
    · rw [if_neg fun hboth => hreached hboth.1]
      exact ih hclosed (.inl (by simp)) fun _ => by simpa using hreached

end Balanced
