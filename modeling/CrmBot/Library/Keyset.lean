import Mathlib.Data.List.Sort

/-! Rows read page by page in the order of a key, each page after the key of the last row
of the page before. -/

namespace Keyset

variable {Row Key : Type*} [LinearOrder Key] (key : Row → Key)

/-- The rows after a key, in order. -/
def after (rows : List Row) (start : Key) : List Row :=
  (rows.filter fun row => start < key row).insertionSort fun first second => key first ≤ key second

/-- The first of them. -/
def page (rows : List Row) (limit : ℕ) (start : Key) : List Row := (after key rows start).take limit

/-- The pages of a number of reads, which end with an empty one. -/
def pages (rows : List Row) (limit : ℕ) : ℕ → Key → List (List Row)
  | 0, _ => []
  | reads + 1, start =>
    match (page key rows limit start).getLast? with
    | none => [page key rows limit start]
    | some last => page key rows limit start :: pages rows limit reads (key last)

variable {key} {rows : List Row} {start : Key} {limit : ℕ}

theorem mem_after {row : Row} : row ∈ after key rows start ↔ row ∈ rows ∧ start < key row := by
  simp [after]

/-- Rows of distinct keys are strictly in order. -/
theorem pairwise_after (hnodup : (rows.map key).Nodup) (start : Key) :
    (after key rows start).Pairwise fun first second => key first < key second := by
  have : Std.Total fun first second : Row => key first ≤ key second :=
    ⟨fun first second => le_total (key first) (key second)⟩
  have : IsTrans Row fun first second => key first ≤ key second :=
    ⟨fun _ _ _ hfirst hsecond => hfirst.trans hsecond⟩
  have hsorted : (after key rows start).Pairwise fun first second => key first ≤ key second :=
    List.pairwise_insertionSort _ _
  have hperm := List.perm_insertionSort (fun first second : Row => key first ≤ key second)
    (rows.filter fun row => start < key row)
  have hdistinct : ((after key rows start).map key).Nodup :=
    ((hperm.map key).nodup_iff).mpr (hnodup.sublist (List.filter_sublist.map key))
  rw [List.nodup_iff_pairwise_ne, List.pairwise_map] at hdistinct
  exact (hsorted.and hdistinct).imp fun h => lt_of_le_of_ne h.1 h.2

/-- After a row come the rows that follow it. -/
theorem after_key {earlier later : List Row} {last : Row} (hnodup : (rows.map key).Nodup)
    (h : after key rows start = earlier ++ last :: later) : after key rows (key last) = later := by
  have hordered := pairwise_after hnodup start
  rw [h, List.pairwise_append, List.pairwise_cons] at hordered
  obtain ⟨_, ⟨hlater, hordered⟩, hearlier⟩ := hordered
  have hmem : ∀ row, row ∈ after key rows (key last) ↔ row ∈ later := by
    intro row
    rw [mem_after]
    constructor
    · rintro ⟨hrow, hlt⟩
      have hlast : last ∈ after key rows start := by simp [h]
      have hafter : row ∈ after key rows start :=
        mem_after.mpr ⟨hrow, (mem_after.mp hlast).2.trans hlt⟩
      rw [h, List.mem_append, List.mem_cons] at hafter
      rcases hafter with hbefore | rfl | hrow
      · exact absurd (hearlier row hbefore last List.mem_cons_self) hlt.not_gt
      · exact absurd hlt (lt_irrefl _)
      · exact hrow
    · intro hrow
      have hafter : row ∈ after key rows start := by simp [h, hrow]
      exact ⟨(mem_after.mp hafter).1, hlater row hrow⟩
  have hstrict := pairwise_after hnodup (key last)
  have hnodup_of : ∀ {list : List Row},
      list.Pairwise (fun first second => key first < key second) → list.Nodup :=
    fun hpairwise => hpairwise.imp fun hlt heq => (heq ▸ hlt).false
  have hperm : (after key rows (key last)).Perm later :=
    (List.perm_ext_iff_of_nodup (hnodup_of hstrict) (hnodup_of hordered)).mpr hmem
  exact hperm.eq_of_pairwise (fun _ _ _ _ hlt hgt => absurd hlt hgt.not_gt) hstrict hordered

/-- With enough reads the pages are the rows after the start, and the last page is empty. -/
theorem flatten_pages (hnodup : (rows.map key).Nodup) (hlimit : 0 < limit) {reads : ℕ}
    (hreads : (after key rows start).length < reads) :
    (pages key rows limit reads start).flatten = after key rows start ∧
      (pages key rows limit reads start).getLast? = some [] := by
  induction reads generalizing start with
  | zero => exact absurd hreads (Nat.not_lt_zero _)
  | succ reads ih =>
    rw [pages]
    cases hlast : (page key rows limit start).getLast? with
    | none =>
      have hempty : page key rows limit start = [] := List.getLast?_eq_none_iff.mp hlast
      have hafter : after key rows start = [] := by
        rcases List.take_eq_nil_iff.mp hempty with hzero | hnil
        · omega
        · exact hnil
      simp [hempty, hafter]
    | some last =>
      obtain ⟨earlier, hpage⟩ := List.getLast?_eq_some_iff.mp hlast
      have hsplit : after key rows start =
          earlier ++ last :: (after key rows start).drop limit := by
        conv_lhs => rw [← List.take_append_drop limit (after key rows start)]
        change page key rows limit start ++ _ = _
        rw [hpage, List.append_assoc, List.singleton_append]
      have hfollowing := after_key hnodup hsplit
      have hshorter : (after key rows (key last)).length < reads := by
        have hlength := congrArg List.length hsplit
        rw [List.length_append, List.length_cons, ← hfollowing] at hlength
        omega
      obtain ⟨hflatten, hend⟩ := ih hshorter
      have hpages : pages key rows limit reads (key last) ≠ [] := by
        intro hnil
        rw [hnil] at hend
        cases hend
      constructor
      · rw [List.flatten_cons, hflatten, hfollowing]
        exact List.take_append_drop limit _
      · rw [List.getLast?_cons, hend]
        rfl

end Keyset
