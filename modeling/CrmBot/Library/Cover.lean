import Mathlib.Data.List.Flatten
import Mathlib.Data.List.Lattice
import Mathlib.Data.List.Nodup
import Mathlib.Data.List.Pairwise
import Mathlib.Data.List.Perm.Basic
import Mathlib.Data.List.Perm.Subperm

/-! Blocks that cover a list of points.

A family of blocks covers points exactly when the points listed by all blocks
together are the given points, each once. The lemmas say what becomes of a
cover when some blocks leave the family and blocks of another family join it. -/

namespace BlockCover

variable {Point Block Other : Type*} {points : Block → List Point}
  {otherPoints : Other → List Point}

/-- The blocks together list exactly the given points, each as often as given. -/
def Covers (points : Block → List Point) (blocks : List Block) (ground : List Point) : Prop :=
  (blocks.flatMap points).Perm ground

namespace Covers

variable {blocks : List Block} {ground : List Point}

theorem nodup_flatMap (h : Covers points blocks ground) (hground : ground.Nodup) :
    (blocks.flatMap points).Nodup :=
  h.nodup_iff.mpr hground

theorem mem_ground_iff (h : Covers points blocks ground) {point : Point} :
    point ∈ ground ↔ ∃ block ∈ blocks, point ∈ points block := by
  rw [← h.mem_iff, List.mem_flatMap]

/-- In a cover without repetition two blocks that share a point are one block. -/
theorem eq_of_shared (h : Covers points blocks ground) (hground : ground.Nodup)
    {first second : Block} (hfirst : first ∈ blocks) (hsecond : second ∈ blocks)
    {point : Point} (hp : point ∈ points first) (hq : point ∈ points second) :
    first = second := by
  have hdisjoint := (List.nodup_flatMap.mp (h.nodup_flatMap hground)).2
  have hsymm : Std.Symm (Function.onFun List.Disjoint points) :=
    ⟨fun _ _ hd => List.Disjoint.symm hd⟩
  by_contra hne
  exact hdisjoint.forall hfirst hsecond hne hp hq

/-- After some blocks leave a cover without repetition, a point is listed once
or not at all, according to whether its block stays. -/
theorem count_filter [DecidableEq Point] (h : Covers points blocks ground)
    (hground : ground.Nodup) (keep : Block → Bool) {block : Block} (hblock : block ∈ blocks)
    {point : Point} (hpoint : point ∈ points block) :
    ((blocks.filter keep).flatMap points).count point = if keep block then 1 else 0 := by
  have hsub : ((blocks.filter keep).flatMap points).Nodup :=
    (h.nodup_flatMap hground).sublist (List.filter_sublist.flatMap points)
  split
  · next hkeep =>
    apply List.count_eq_one_of_mem hsub
    rw [List.mem_flatMap]
    exact ⟨block, List.mem_filter.mpr ⟨hblock, hkeep⟩, hpoint⟩
  · next hkeep =>
    apply List.count_eq_zero_of_not_mem
    rw [List.mem_flatMap]
    rintro ⟨other, hother, hshared⟩
    have hmem := List.mem_filter.mp hother
    have heq := h.eq_of_shared hground hmem.1 hblock hshared hpoint
    exact hkeep (heq ▸ hmem.2)

end Covers

/-- Exchanging blocks between two covers of the same points. The blocks that
stay of the first family and the blocks that join of the second again cover
these points exactly when, of two blocks that share a point, one stays or the
other joins, never both. -/
theorem exchange_iff [DecidableEq Point] {blocks : List Block} {others : List Other}
    {ground : List Point} (hground : ground.Nodup)
    (hblocks : Covers points blocks ground) (hothers : Covers otherPoints others ground)
    (stays : Block → Bool) (joins : Other → Bool) :
    ((blocks.filter stays).flatMap points ++ (others.filter joins).flatMap otherPoints).Perm
        ground ↔
      ∀ block ∈ blocks, ∀ other ∈ others, ∀ point ∈ points block, point ∈ otherPoints other →
        (stays block = true ↔ joins other = false) := by
  rw [List.perm_iff_count]
  constructor
  · intro hcount block hblock other hother point hpoint hshared
    have hmem : point ∈ ground := hblocks.mem_ground_iff.mpr ⟨block, hblock, hpoint⟩
    have hone := hcount point
    rw [List.count_append, hblocks.count_filter hground stays hblock hpoint,
      hothers.count_filter hground joins hother hshared,
      List.count_eq_one_of_mem hground hmem] at hone
    cases hstays : stays block <;> cases hjoins : joins other <;> simp_all
  · intro hexchange point
    rw [List.count_append]
    by_cases hmem : point ∈ ground
    · obtain ⟨block, hblock, hpoint⟩ := hblocks.mem_ground_iff.mp hmem
      obtain ⟨other, hother, hshared⟩ := hothers.mem_ground_iff.mp hmem
      have hone := hexchange block hblock other hother point hpoint hshared
      rw [hblocks.count_filter hground stays hblock hpoint,
        hothers.count_filter hground joins hother hshared,
        List.count_eq_one_of_mem hground hmem]
      cases hstays : stays block <;> cases hjoins : joins other <;> simp_all
    · have hleft : point ∉ (blocks.filter stays).flatMap points := by
        intro h
        obtain ⟨block, hblock, hpoint⟩ := List.mem_flatMap.mp h
        exact hmem (hblocks.mem_ground_iff.mpr ⟨block, (List.mem_filter.mp hblock).1, hpoint⟩)
      have hright : point ∉ (others.filter joins).flatMap otherPoints := by
        intro h
        obtain ⟨other, hother, hpoint⟩ := List.mem_flatMap.mp h
        exact hmem (hothers.mem_ground_iff.mpr ⟨other, (List.mem_filter.mp hother).1, hpoint⟩)
      rw [List.count_eq_zero_of_not_mem hleft, List.count_eq_zero_of_not_mem hright,
        List.count_eq_zero_of_not_mem hmem]

end BlockCover
