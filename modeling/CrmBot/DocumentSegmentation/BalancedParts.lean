import CrmBot.DocumentSegmentation.UnitParts
import CrmBot.Library.Balanced

/-! `split_marker_blocks_balanced` as a partition of its blocks.

The token estimator and the quotient of two integers, which the source rounds to
a float, are parameters. -/

namespace CrmBot.DocumentSegmentation

open CrmBot.Python Ink Text Balanced
open Chunks (Chunk)

/-- `clean_blocks`. -/
def cleanBlocks (blocks : List Text) : List Text :=
  (blocks.filter (! ·.blank)).map Text.strip

section Estimator

variable (tokenEstimator : Text → ℕ) (quotient : ℕ → ℕ → ℚ)

/-- `block_tokens`. -/
def markerTokens (block : Text) : ℕ := max 1 (tokenEstimator block)

/-- `accumulated_tokens >= next_boundary`, for the boundary after `done` parts. -/
def boundaryReached (totalTokens targetPartCount done accumulatedTokens : ℕ) : Bool :=
  quotient (totalTokens * (done + 1)) targetPartCount ≤ accumulatedTokens

/-- The loop of `split_marker_blocks_balanced`. -/
def markerPartsFrom (totalTokens targetPartCount : ℕ) :
    (done : ℕ) → (currentBlocks : List Text) → (accumulatedTokens : ℕ) → List Text → List Text
  | _, currentBlocks, _, [] =>
    if currentBlocks.isEmpty then [] else [(joinBlocks currentBlocks).strip]
  | done, currentBlocks, accumulatedTokens, block :: rest =>
    let blocks := currentBlocks ++ [block]
    let accumulated := accumulatedTokens + markerTokens tokenEstimator block
    if targetPartCount - 1 ≤ done then
      markerPartsFrom totalTokens targetPartCount done blocks accumulated rest
    else if boundaryReached quotient totalTokens targetPartCount done accumulated = true ∧
        targetPartCount - done - 1 ≤ rest.length then
      (joinBlocks blocks).strip ::
        markerPartsFrom totalTokens targetPartCount (done + 1) [] accumulated rest
    else markerPartsFrom totalTokens targetPartCount done blocks accumulated rest

/-- `split_marker_blocks_balanced`, for any token estimator. -/
def splitMarkerBlocksBalancedBy (blocks : List Text) (targetPartCount : ℕ) :
    Except Fault (List Text) :=
  if targetPartCount < 2 then .error (.valueError "target_part_count must be >= 2")
  else
    let blocks := cleanBlocks blocks
    if blocks.isEmpty then .ok []
    else if blocks.length ≤ targetPartCount then .ok blocks
    else
      let totalTokens := (blocks.map (markerTokens tokenEstimator)).sum
      .ok ((markerPartsFrom tokenEstimator quotient totalTokens targetPartCount 0 []
        0 blocks).filter (! ·.blank))

end Estimator

/-! The splitter of the policy. -/

theorem balancedFrom_eq (budget : DocumentSegmentationBudget) {totalTokens targetPartCount : ℕ}
    (htarget : 0 < targetPartCount) (done : ℕ) (currentBlocks : List Text)
    (accumulatedTokens : ℕ) (blocks : List Text) :
    balancedFrom budget totalTokens targetPartCount done currentBlocks accumulatedTokens blocks =
      markerPartsFrom budget.estimateTokens (fun first second => first / second) totalTokens
        targetPartCount done currentBlocks accumulatedTokens blocks := by
  induction blocks generalizing done currentBlocks accumulatedTokens with
  | nil => rfl
  | cons block rest ih =>
    have hboundary : ∀ accumulated : ℕ,
        boundaryReached (fun first second => first / second) totalTokens targetPartCount done
          accumulated = true ↔ totalTokens * (done + 1) ≤ accumulated * targetPartCount := by
      intro accumulated
      have hpos : (0 : ℚ) < targetPartCount := by exact_mod_cast htarget
      rw [boundaryReached, decide_eq_true_eq, div_le_iff₀ hpos]
      exact_mod_cast Iff.rfl
    unfold balancedFrom markerPartsFrom
    dsimp only
    simp only [ih, hboundary]
    rfl

/-- The policy splits with the estimator of its budget. -/
theorem splitMarkerBlocksBalanced_eq (budget : DocumentSegmentationBudget) (blocks : List Text)
    (targetPartCount : ℕ) :
    splitMarkerBlocksBalanced budget blocks targetPartCount =
      splitMarkerBlocksBalancedBy budget.estimateTokens (fun first second => first / second) blocks
        targetPartCount := by
  unfold splitMarkerBlocksBalanced splitMarkerBlocksBalancedBy balancedParts
  split
  · rfl
  · next htarget =>
    dsimp only
    rw [← cleanBlocks, balancedFrom_eq budget (by omega)]
    split_ifs with hshort hempty hempty
    · rw [List.isEmpty_iff.mp hempty]
    · rfl
    · rw [List.isEmpty_iff.mp hempty] at hshort
      exact absurd (Nat.zero_le _) hshort
    · rfl

/-! Parts and chunks of blocks. -/

section Chunks

variable (tokenEstimator : Text → ℕ) (quotient : ℕ → ℕ → ℚ)

theorem markerPartsFrom_eq_map (totalTokens targetPartCount done : ℕ) (currentBlocks : List Text)
    (accumulatedTokens : ℕ) (blocks : List Text) :
    markerPartsFrom tokenEstimator quotient totalTokens targetPartCount done currentBlocks
        accumulatedTokens blocks =
      (chunksFrom (markerTokens tokenEstimator)
        (boundaryReached quotient totalTokens targetPartCount) targetPartCount done currentBlocks
          accumulatedTokens blocks).map fun chunk => (joinBlocks chunk.val).strip := by
  induction blocks generalizing done currentBlocks accumulatedTokens with
  | nil =>
    unfold markerPartsFrom chunksFrom
    cases currentBlocks <;> rfl
  | cons block rest ih =>
    unfold markerPartsFrom chunksFrom
    dsimp only
    simp only [ih]
    split_ifs <;> rfl

/-- What is left of the blocks has content, and no blanks at its ends. -/
theorem cleanBlocks_clean (blocks : List Text) :
    ∀ block ∈ cleanBlocks blocks, block ≠ [] ∧ strip block = block ∧ blank block = false := by
  intro block hblock
  obtain ⟨own, hown, rfl⟩ := List.mem_map.mp hblock
  have hblank : blank own = false := by simpa using (List.mem_filter.mp hown).2
  rw [← blank_strip] at hblank
  refine ⟨?_, trim_trim own, hblank⟩
  rintro hnil
  rw [hnil] at hblank
  cases hblank

theorem joinBlocks_clean {blocks : List Text}
    (h : ∀ block ∈ blocks, block ≠ [] ∧ strip block = block ∧ blank block = false) :
    strip (joinBlocks blocks) = joinBlocks blocks :=
  trim_intercalate ['\n', '\n'] fun block hblock => ⟨(h block hblock).1, (h block hblock).2.1⟩

theorem blank_joinBlocks {blocks : List Text} (hne : blocks ≠ [])
    (h : ∀ block ∈ blocks, blank block = false) : blank (joinBlocks blocks) = false := by
  obtain ⟨first, rest, rfl⟩ := List.exists_cons_of_ne_nil hne
  have hfirst := blank_eq_false_iff.mp (h first List.mem_cons_self)
  rw [blank_eq_false_iff, content_joinBlocks, List.flatMap_cons]
  simp [hfirst]

/-- The blocks but the last ones hold their share of the tokens, for every number of parts
that may still be to come. -/
def SharesReached (blocks : List Text) (targetPartCount : ℕ) : Prop :=
  ∀ done, done + 1 < targetPartCount →
    quotient ((blocks.map (markerTokens tokenEstimator)).sum * (done + 1)) targetPartCount ≤
      costBefore (markerTokens tokenEstimator) blocks (targetPartCount - done - 1)

theorem boundaryReached_mono (totalTokens targetPartCount : ℕ) :
    ∀ done low high, low ≤ high →
      boundaryReached quotient totalTokens targetPartCount done low = true →
        boundaryReached quotient totalTokens targetPartCount done high = true := by
  intro done low high hle hlow
  rw [boundaryReached, decide_eq_true_eq] at hlow ⊢
  exact hlow.trans (by exact_mod_cast hle)

/-- The loop closes every part exactly when the shares are reached. -/
theorem length_chunksFrom_eq_target_iff {blocks : List Text} {targetPartCount : ℕ}
    (htarget : 0 < targetPartCount) (hmany : targetPartCount < blocks.length) :
    (chunksFrom (markerTokens tokenEstimator) (boundaryReached quotient
        ((blocks.map (markerTokens tokenEstimator)).sum) targetPartCount)
          targetPartCount 0 [] 0 blocks).length = targetPartCount ↔
      SharesReached tokenEstimator quotient blocks targetPartCount := by
  have hsome : blocks ≠ [] := List.ne_nil_of_length_pos (by omega)
  rw [← Nat.zero_add (chunksFrom _ _ _ _ _ _ _).length, length_chunksFrom_eq_iff
    (boundaryReached_mono quotient _ targetPartCount) htarget (.inr hsome) (by omega)]
  unfold MarksReached SharesReached
  refine forall_congr' fun done => ?_
  simp [boundaryReached]

/-- Parts that are groups of blocks in their order, none of them empty. There are no more
than asked for, and as many while the shares are reached. -/
structure PartsOf (blocks : List Text) (targetPartCount : ℕ) (groups : List (Chunk Text))
    (parts : List Text) : Prop where
  joined : parts = groups.map fun group => joinBlocks group.val
  flatten : (groups.map Subtype.val).flatten = blocks
  nonblank : ∀ part ∈ parts, blank part = false
  length_le : parts.length ≤ min targetPartCount blocks.length
  length_eq : (targetPartCount < blocks.length →
      SharesReached tokenEstimator quotient blocks targetPartCount) →
    parts.length = min targetPartCount blocks.length

variable {blocks : List Text} {targetPartCount : ℕ}

/-- Few blocks are a part each. -/
theorem PartsOf.of_few (h : ∀ block ∈ blocks, blank block = false)
    (hfew : blocks.length ≤ targetPartCount) :
    PartsOf tokenEstimator quotient blocks targetPartCount
      (blocks.map fun block => ⟨[block], List.cons_ne_nil block []⟩) blocks where
  joined := by
    rw [List.map_map]
    symm
    apply List.map_id''
    intro block
    exact List.append_nil block
  flatten := by
    rw [List.map_map, ← List.flatMap_def]
    exact List.flatMap_singleton' blocks
  nonblank := h
  length_le := le_min hfew le_rfl
  length_eq _ := (min_eq_right hfew).symm

theorem partsOf_markerPartsFrom
    (h : ∀ block ∈ blocks, block ≠ [] ∧ strip block = block ∧ blank block = false)
    (htarget : 0 < targetPartCount) (hmany : targetPartCount < blocks.length) :
    ∃ groups, PartsOf tokenEstimator quotient blocks targetPartCount groups
      ((markerPartsFrom tokenEstimator quotient ((blocks.map (markerTokens tokenEstimator)).sum)
        targetPartCount 0 [] 0 blocks).filter (! blank ·)) := by
  obtain ⟨groups, hgroups⟩ : ∃ groups, groups = chunksFrom (markerTokens tokenEstimator)
    (boundaryReached quotient ((blocks.map (markerTokens tokenEstimator)).sum) targetPartCount)
      targetPartCount 0 [] 0 blocks := ⟨_, rfl⟩
  have hflatten : (groups.map Subtype.val).flatten = blocks := by
    rw [hgroups]
    exact flatten_chunksFrom _ _ _ _ _ _ _
  have hmem : ∀ group ∈ groups, ∀ block ∈ group.val,
      block ≠ [] ∧ strip block = block ∧ blank block = false := by
    intro group hgroup block hblock
    apply h
    rw [← hflatten]
    exact List.mem_flatten.mpr ⟨group.val, List.mem_map_of_mem hgroup, hblock⟩
  have hnonblank : ∀ group ∈ groups, blank (joinBlocks group.val) = false := fun group hgroup =>
    blank_joinBlocks group.property fun block hblock => (hmem group hgroup block hblock).2.2
  have hparts : (markerPartsFrom tokenEstimator quotient
      ((blocks.map (markerTokens tokenEstimator)).sum) targetPartCount 0 [] 0 blocks).filter
        (! blank ·) = groups.map fun group => joinBlocks group.val := by
    rw [markerPartsFrom_eq_map, ← hgroups,
      List.map_congr_left fun group hgroup => joinBlocks_clean (hmem group hgroup)]
    apply List.filter_eq_self.mpr
    intro part hpart
    obtain ⟨group, hgroup, rfl⟩ := List.mem_map.mp hpart
    simpa using hnonblank group hgroup
  have hmin : min targetPartCount blocks.length = targetPartCount := min_eq_left hmany.le
  refine ⟨groups, hparts, hflatten, ?_, ?_, ?_⟩
  · rw [hparts]
    intro part hpart
    obtain ⟨group, hgroup, rfl⟩ := List.mem_map.mp hpart
    exact hnonblank group hgroup
  · rw [hparts, List.length_map, hmin, hgroups, ← Nat.zero_add (chunksFrom _ _ _ _ _ _ _).length]
    exact length_chunksFrom_le htarget
  · intro hshares
    rw [hparts, List.length_map, hmin, hgroups]
    exact (length_chunksFrom_eq_target_iff tokenEstimator quotient htarget hmany).mpr
      (hshares hmany)

/-- For two parts or more, the blocks with content are cut into parts in their order. -/
theorem balanced_partition (blocks : List Text) (targetPartCount : ℕ)
    (htarget : 2 ≤ targetPartCount) :
    ∃ groups parts, splitMarkerBlocksBalancedBy tokenEstimator quotient blocks targetPartCount =
        .ok parts ∧
      PartsOf tokenEstimator quotient (cleanBlocks blocks) targetPartCount groups parts := by
  have hclean := cleanBlocks_clean blocks
  unfold splitMarkerBlocksBalancedBy
  rw [if_neg (by omega)]
  generalize cleanBlocks blocks = clean at hclean ⊢
  dsimp only
  by_cases hfew : clean.length ≤ targetPartCount
  · refine ⟨_, clean, ?_, .of_few tokenEstimator quotient
      (fun block hblock => (hclean block hblock).2.2) hfew⟩
    split
    · next hempty => rw [List.isEmpty_iff.mp hempty]
    · rfl
  · obtain ⟨groups, hgroups⟩ :=
      partsOf_markerPartsFrom tokenEstimator quotient hclean (by omega) (not_le.mp hfew)
    refine ⟨groups, _, ?_, hgroups⟩
    rw [if_neg, if_neg hfew]
    intro hempty
    rw [List.isEmpty_iff.mp hempty] at hfew
    exact hfew (Nat.zero_le _)

end Chunks

/-! Even blocks, and a list with a heavy end. -/

def exactQuotient (first second : ℕ) : ℚ := first / second

theorem three_blocks_in_two :
    ∃ groups parts, splitMarkerBlocksBalancedBy List.length exactQuotient
        [['a'], ['b'], ['c']] 2 = .ok parts ∧
      PartsOf List.length exactQuotient (cleanBlocks [['a'], ['b'], ['c']]) 2 groups parts :=
  balanced_partition List.length exactQuotient [['a'], ['b'], ['c']] 2 (by decide)

/-- One part is refused, and a block at the end that is heavier than all before it leaves
the two parts in one. -/
theorem parts_not_as_many :
    splitMarkerBlocksBalancedBy List.length exactQuotient [['a']] 1 =
      .error (.valueError "target_part_count must be >= 2") ∧
    splitMarkerBlocksBalancedBy List.length exactQuotient [['a'], ['b'], ['c', 'c', 'c', 'c']] 2 =
      .ok ["a\n\nb\n\ncccc".toList] := by
  decide +kernel

end CrmBot.DocumentSegmentation
