import CrmBot.Compaction.ClaimClasses
import CrmBot.Compaction.GroupSteps

/-! Pairs of nodes that are never proposed again.

A pair retires when one of its nodes is superseded, when the classes of the claims
of its nodes meet, or when a comparison that did not merge keeps them apart. An
applied result retires the pair it was asked about. -/

namespace CrmBot.Compaction

open Relational CrmBot.Python Representatives

variable {env : CompactionEnv} {group : GroupKey} {claims : List String}

/-! The planner's state of a group. -/

theorem mem_loadedComparisons {state : ReductionState} {planner : PlannerState}
    (h : loadPlannerState state group = some planner) {row : ComparisonRow} :
    row ∈ planner.comparisons ↔ row ∈ state.comparisons.rows ∧ row.group = group := by
  simp only [loadPlannerState] at h
  split at h
  · cases h
  · simp only [Option.some.injEq] at h
    rw [← h]
    simp

theorem mem_loadedEdges {state : ReductionState} {planner : PlannerState}
    (h : loadPlannerState state group = some planner) {row : SeparationEdgeRow} :
    row ∈ planner.originSeparationEdges ↔
      row ∈ state.separationEdges.rows ∧ row.group = group := by
  simp only [loadPlannerState] at h
  split at h
  · cases h
  · simp only [Option.some.injEq] at h
    rw [← h]
    simp

theorem nodup_loadedRefs {state : ReductionState} {planner : PlannerState}
    (h : loadPlannerState state group = some planner) :
    (planner.nodes.map NodeRow.nodeRef).Nodup := by
  simp only [loadPlannerState] at h
  split at h
  · cases h
  · simp only [Option.some.injEq] at h
    rw [← h, ((List.perm_insertionSort _ _).map NodeRow.nodeRef).nodup_iff]
    exact state.nodes.key_nodup.sublist (List.filter_sublist.map _)

namespace GroupState

variable {state : ReductionState} {planner : PlannerState}

/-- A group with claims can be planned. -/
theorem exists_planner (hstate : GroupState env group claims state)
    (hnamed : NamedByDigests env group claims) :
    ∃ planner, loadPlannerState state group = some planner := by
  obtain ⟨ref, href⟩ := List.exists_mem_of_ne_nil claims hnamed.claims_ne_nil
  obtain ⟨row, hrow, -, rfl⟩ := hstate.exists_row (hstate.isNodeIn_raw href)
  exact exists_loadPlannerState hrow

variable (hstate : GroupState env group claims state)
  (hload : loadPlannerState state group = some planner)

include hstate hload

theorem wellFormed : planner.WellFormed where
  nodeRefs_nodup := nodup_loadedRefs hload
  sourceClaimRefs_ne_nil node hnode := by
    obtain ⟨hrow, hgroup⟩ := (mem_loadedNodes hload).mp hnode
    exact (hstate.names hrow hgroup).ne_nil
  comparison_ne comparison hcomparison := by
    obtain ⟨hrow, hgroup⟩ := (mem_loadedComparisons hload).mp hcomparison
    exact (hstate.comparisons comparison hrow (.inl hgroup)).ne
  edge_lt edge hedge := by
    obtain ⟨hrow, hgroup⟩ := (mem_loadedEdges hload).mp hedge
    exact (hstate.separationEdges edge hrow (.inl hgroup)).lt

/-- A node of the group that is there is loaded. -/
theorem exists_loaded {nodeRef : String} (hnode : IsNodeIn env group claims state.nodes nodeRef) :
    ∃ node ∈ planner.nodes, node.nodeRef = nodeRef := by
  obtain ⟨row, hrow, href, hgroup⟩ := hstate.exists_row hnode
  exact ⟨row, (mem_loadedNodes hload).mpr ⟨hrow, hgroup⟩, href⟩

theorem resultsKnown : ResultsKnown planner := by
  intro comparison hcomparison result hresult
  obtain ⟨hrow, hgroup⟩ := (mem_loadedComparisons hload).mp hcomparison
  obtain ⟨node, hnode, rfl⟩ := hstate.exists_loaded hload
    ((hstate.comparisons comparison hrow (.inl hgroup)).result result hresult)
  unfold sourcesByNode
  rw [sourcesOf?_nodes (nodup_loadedRefs hload) hnode]
  simp

end GroupState

/-- A superseded node is not active. -/
theorem inactive_of_superseded {state : ReductionState} {planner : PlannerState}
    (hload : loadPlannerState state group = some planner) {node : NodeRow}
    (hnode : node ∈ planner.nodes) (hsuperseded : Superseded state.nodes node.nodeRef) :
    node.active = false := by
  obtain ⟨row, hrow, href, hactive⟩ := hsuperseded
  rw [← state.nodes.eq_of_key_eq hrow ((mem_loadedNodes hload).mp hnode).1 href]
  exact hactive

/-! Claims of nodes. -/

theorem GroupState.claims_of_raw {state : ReductionState}
    (hstate : GroupState env group claims state) {row : NodeRow} (hrow : row ∈ state.nodes.rows)
    (hgroup : row.group = group) {ref : String} (href : row.nodeRef = rawClaimNodeRef group ref) :
    row.sourceClaimRefs = [ref] := by
  rcases hstate.names hrow hgroup with ⟨other, -, hname, hrefs⟩ | ⟨-, -, -, hname⟩
  · rw [hrefs, rawClaimNodeRef_injective group (hname.symm.trans href)]
  · exact absurd (hname.symm.trans href) (compactedClaimNodeRef_ne_raw env group group _ ref)

theorem GroupState.claims_of_compacted {state : ReductionState}
    (hstate : GroupState env group claims state) (hnamed : NamedByDigests env group claims)
    {row : NodeRow} (hrow : row ∈ state.nodes.rows) (hgroup : row.group = group)
    {refs : List String} (hrefs : refs ⊆ claims)
    (href : row.nodeRef = compactedClaimNodeRef env group refs) (ref : String) :
    ref ∈ row.sourceClaimRefs ↔ ref ∈ refs := by
  rcases hstate.names hrow hgroup with ⟨other, -, hname, -⟩ | ⟨-, -, hsubset, hname⟩
  · exact absurd (href.symm.trans hname) (compactedClaimNodeRef_ne_raw env group group _ other)
  · exact hnamed.claims_eq_of_compacted_eq hsubset hrefs (hname.symm.trans href) ref

theorem not_isCompactedName_raw (ref : String) :
    ¬ IsCompactedName env group claims (rawClaimNodeRef group ref) := by
  rintro ⟨refs, -, hname⟩
  exact compactedClaimNodeRef_ne_raw env group group refs ref hname.symm

/-- The claims of a pair are those of its two nodes. -/
theorem mem_claimsOfPair {planner : PlannerState}
    (hrefs : (planner.nodes.map NodeRow.nodeRef).Nodup) {comparison : ComparisonRow}
    {ref : String} :
    ref ∈ claimsOfPair (sourcesByNode planner.nodes) comparison ↔
      ∃ node ∈ planner.nodes, (node.nodeRef = comparison.leftNodeRef ∨
        node.nodeRef = comparison.rightNodeRef) ∧ ref ∈ node.sourceClaimRefs := by
  have hside (nodeRef : String) :
      ref ∈ (sourcesOf? (sourcesByNode planner.nodes) nodeRef).getD [] ↔
        ∃ node ∈ planner.nodes, node.nodeRef = nodeRef ∧ ref ∈ node.sourceClaimRefs := by
    constructor
    · intro hmem
      cases hsources : sourcesOf? (sourcesByNode planner.nodes) nodeRef with
      | none => simp [hsources] at hmem
      | some sources =>
        rw [hsources, Option.getD_some] at hmem
        simp only [sourcesOf?, Option.map_eq_some_iff] at hsources
        obtain ⟨entry, hfind, rfl⟩ := hsources
        obtain ⟨node, hnode, rfl⟩ := List.mem_map.mp (List.mem_of_find?_eq_some hfind)
        exact ⟨node, hnode, by simpa using List.find?_some hfind, hmem⟩
    · rintro ⟨node, hnode, rfl, hmem⟩
      unfold sourcesByNode
      rw [sourcesOf?_nodes hrefs hnode]
      exact hmem
  unfold claimsOfPair
  rw [List.mem_append, hside, hside]
  constructor
  · rintro (⟨node, hnode, href, hmem⟩ | ⟨node, hnode, href, hmem⟩)
    · exact ⟨node, hnode, .inl href, hmem⟩
    · exact ⟨node, hnode, .inr href, hmem⟩
  · rintro ⟨node, hnode, href | href, hmem⟩
    · exact .inl ⟨node, hnode, href, hmem⟩
    · exact .inr ⟨node, hnode, href, hmem⟩

/-! Retired pairs. -/

/-- The lineage of a planner's state does not let two nodes be compared. -/
def KeptApart (planner : PlannerState) (left right : NodeRow) : Prop :=
  OverlapInLineage planner left right ∨ SeparatedByNotMerged planner left right

theorem KeptApart.symm {planner : PlannerState} {left right : NodeRow}
    (h : KeptApart planner left right) : KeptApart planner right left :=
  h.imp OverlapInLineage.symm SeparatedByNotMerged.symm

/-- The pair is not proposed any more. -/
def RetiredPair (group : GroupKey) (state : ReductionState) (pair : String × String) : Prop :=
  Superseded state.nodes pair.1 ∨ Superseded state.nodes pair.2 ∨
    ∃ planner, loadPlannerState state group = some planner ∧
      ∃ left ∈ planner.nodes, ∃ right ∈ planner.nodes,
        left.nodeRef = pair.1 ∧ right.nodeRef = pair.2 ∧ KeptApart planner left right

theorem RetiredPair.swap {state : ReductionState} {left right : String}
    (h : RetiredPair group state (left, right)) : RetiredPair group state (right, left) := by
  rcases h with hleft | hright | ⟨planner, hload, first, hfirst, second, hsecond, hrefs, hrefs',
    happart⟩
  · exact .inr (.inl hleft)
  · exact .inl hright
  · exact .inr (.inr ⟨planner, hload, second, hsecond, first, hfirst, hrefs', hrefs, happart.symm⟩)

/-- Retiring does not depend on the order of the two nodes. -/
theorem retiredPair_pairKey {state : ReductionState} {left right : String} :
    RetiredPair group state (pairKey left right) ↔ RetiredPair group state (left, right) := by
  unfold pairKey
  split
  · exact Iff.rfl
  · exact ⟨RetiredPair.swap, RetiredPair.swap⟩

section Growth

variable {before after : ReductionState} {planner later : PlannerState}
  (hbefore : GroupState env group claims before) (hafter : GroupState env group claims after)
  (hgrows : Grows before after) (hload : loadPlannerState before group = some planner)
  (hloadLater : loadPlannerState after group = some later)

include hgrows hload hloadLater in
theorem exists_laterNode {node : NodeRow} (hnode : node ∈ planner.nodes) :
    ∃ next ∈ later.nodes, next.nodeRef = node.nodeRef ∧
      next.sourceClaimRefs = node.sourceClaimRefs := by
  obtain ⟨hrow, hgroup⟩ := (mem_loadedNodes hload).mp hnode
  obtain ⟨next, hnext, href, hgroup', hclaims, -⟩ := hgrows.nodes node hrow
  exact ⟨next, (mem_loadedNodes hloadLater).mpr ⟨hnext, hgroup'.trans hgroup⟩, href, hclaims⟩

include hgrows hload hloadLater in
theorem laterComparison {comparison : ComparisonRow} (h : comparison ∈ planner.comparisons) :
    comparison ∈ later.comparisons := by
  obtain ⟨hrow, hgroup⟩ := (mem_loadedComparisons hload).mp h
  exact (mem_loadedComparisons hloadLater).mpr ⟨hgrows.comparisons hrow, hgroup⟩

include hbefore hafter hgrows hload hloadLater

/-- Claims of one class stay in one class. -/
theorem class_mono (first second : String)
    (h : (lineageOf planner).find first = (lineageOf planner).find second) :
    (lineageOf later).find first = (lineageOf later).find second := by
  refine (lineageOf_joins (hbefore.resultsKnown hload)).mono
    (lineageOf_joins (hafter.resultsKnown hloadLater)) ?_ first second h
  rintro x y ⟨comparison, hcomparison, hstatus, hx, hy⟩
  have hmem (ref : String) (href : ref ∈ claimsOfPair (sourcesByNode planner.nodes) comparison) :
      ref ∈ claimsOfPair (sourcesByNode later.nodes) comparison := by
    obtain ⟨node, hnode, hsides, hclaim⟩ :=
      (mem_claimsOfPair (nodup_loadedRefs hload)).mp href
    obtain ⟨next, hnext, hnextRef, hclaims⟩ := exists_laterNode hgrows hload hloadLater hnode
    refine (mem_claimsOfPair (nodup_loadedRefs hloadLater)).mpr ⟨next, hnext, ?_, ?_⟩
    · rw [hnextRef]
      exact hsides
    · rw [hclaims]
      exact hclaim
  exact ⟨comparison, laterComparison hgrows hload hloadLater hcomparison, hstatus, hmem x hx,
    hmem y hy⟩

theorem rootsOf_subset_mono {inner outer next nextOuter : NodeRow}
    (hinner : next.sourceClaimRefs = inner.sourceClaimRefs)
    (houter : nextOuter.sourceClaimRefs = outer.sourceClaimRefs)
    (h : rootsOf planner inner ⊆ rootsOf planner outer) :
    rootsOf later next ⊆ rootsOf later nextOuter := by
  intro root hroot
  obtain ⟨ref, href, rfl⟩ := List.mem_map.mp hroot
  rw [hinner] at href
  obtain ⟨other, hother, hsame⟩ := List.mem_map.mp (h (List.mem_map_of_mem href))
  refine List.mem_map.mpr ⟨other, houter ▸ hother, ?_⟩
  exact class_mono hbefore hafter hgrows hload hloadLater other ref hsame

theorem KeptApart.mono {left right nextLeft nextRight : NodeRow}
    (hleft : nextLeft.sourceClaimRefs = left.sourceClaimRefs)
    (hright : nextRight.sourceClaimRefs = right.sourceClaimRefs)
    (h : KeptApart planner left right) : KeptApart later nextLeft nextRight := by
  rcases h with ⟨root, hrootLeft, hrootRight⟩ | ⟨comparison, hcomparison, hstatus, leftRoots,
    rightRoots, hleftRoots, hrightRoots, hsides⟩
  · obtain ⟨first, hfirst, rfl⟩ := List.mem_map.mp hrootLeft
    obtain ⟨second, hsecond, hsame⟩ := List.mem_map.mp hrootRight
    refine .inl ⟨_, List.mem_map_of_mem (hleft ▸ hfirst), List.mem_map.mpr
      ⟨second, hright ▸ hsecond, ?_⟩⟩
    exact class_mono hbefore hafter hgrows hload hloadLater second first hsame
  · obtain ⟨hrow, hgroup⟩ := (mem_loadedComparisons hload).mp hcomparison
    have hours := hbefore.comparisons comparison hrow (.inl hgroup)
    obtain ⟨first, hfirst, hfirstRef⟩ := hbefore.exists_loaded hload hours.left
    obtain ⟨second, hsecond, hsecondRef⟩ := hbefore.exists_loaded hload hours.right
    obtain ⟨nextFirst, hnextFirst, hnextFirstRef, hfirstClaims⟩ :=
      exists_laterNode hgrows hload hloadLater hfirst
    obtain ⟨nextSecond, hnextSecond, hnextSecondRef, hsecondClaims⟩ :=
      exists_laterNode hgrows hload hloadLater hsecond
    have hplanner := hbefore.wellFormed hload
    have hlater := hafter.wellFormed hloadLater
    rw [← hfirstRef, lineageRoots_eq hplanner hfirst, Option.some.injEq] at hleftRoots
    rw [← hsecondRef, lineageRoots_eq hplanner hsecond, Option.some.injEq] at hrightRoots
    subst hleftRoots hrightRoots
    refine .inr ⟨comparison, laterComparison hgrows hload hloadLater hcomparison, hstatus,
      rootsOf later nextFirst, rootsOf later nextSecond, ?_, ?_, ?_⟩
    · rw [← hfirstRef, ← hnextFirstRef, lineageRoots_eq hlater hnextFirst]
    · rw [← hsecondRef, ← hnextSecondRef, lineageRoots_eq hlater hnextSecond]
    have hmono {inner outer next nextOuter : NodeRow}
        (hinner : next.sourceClaimRefs = inner.sourceClaimRefs)
        (houter : nextOuter.sourceClaimRefs = outer.sourceClaimRefs) :=
      rootsOf_subset_mono hbefore hafter hgrows hload hloadLater hinner houter
    rcases hsides with ⟨hin, hin'⟩ | ⟨hin, hin'⟩
    · exact .inl ⟨hmono hfirstClaims hleft hin, hmono hsecondClaims hright hin'⟩
    · exact .inr ⟨hmono hfirstClaims hright hin, hmono hsecondClaims hleft hin'⟩

end Growth

/-- A retired pair stays retired. -/
theorem RetiredPair.mono {before after : ReductionState} (hnamed : NamedByDigests env group claims)
    (hbefore : GroupState env group claims before) (hafter : GroupState env group claims after)
    (hgrows : Grows before after) {pair : String × String} (h : RetiredPair group before pair) :
    RetiredPair group after pair := by
  rcases h with hleft | hright | ⟨planner, hload, left, hleft, right, hright, hleftRef, hrightRef,
    happart⟩
  · exact .inl (hgrows.nodes.superseded hleft)
  · exact .inr (.inl (hgrows.nodes.superseded hright))
  · obtain ⟨later, hlater⟩ := hafter.exists_planner hnamed
    obtain ⟨nextLeft, hnextLeft, href, hclaims⟩ := exists_laterNode hgrows hload hlater hleft
    obtain ⟨nextRight, hnextRight, href', hclaims'⟩ := exists_laterNode hgrows hload hlater hright
    exact .inr (.inr ⟨later, hlater, nextLeft, hnextLeft, nextRight, hnextRight,
      href.trans hleftRef, href'.trans hrightRef,
      happart.mono hbefore hafter hgrows hload hlater hclaims hclaims'⟩)

end CrmBot.Compaction
