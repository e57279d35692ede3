import CrmBot.Compaction.PlanningOrder

/-! The lineage of claims.

Merged comparisons put claims under one root. A claim that is not its own root
occurs nowhere in the sets the planner compares, which hold roots only. -/

namespace CrmBot.Compaction

open Relational CrmBot.Python

/-- What the constructors of the planner's state check. -/
structure PlannerState.WellFormed (state : PlannerState) : Prop where
  nodeRefs_nodup : (state.nodes.map NodeRow.nodeRef).Nodup
  sourceClaimRefs_ne_nil : ∀ node ∈ state.nodes, node.sourceClaimRefs ≠ []
  comparison_ne : ∀ comparison ∈ state.comparisons,
    comparison.leftNodeRef ≠ comparison.rightNodeRef
  edge_lt : ∀ edge ∈ state.originSeparationEdges, edge.originRefA < edge.originRefB

/-! Roots. -/

/-- A map to roots sends every root to itself. -/
def IsRootMap (find : String → String) : Prop := ∀ ref, find (find ref) = find ref

theorem unionStep_isRootMap {progress : (String → String) × String} (sourceRef : String)
    (hfind : IsRootMap progress.1) (hroot : progress.1 progress.2 = progress.2) :
    IsRootMap (unionStep progress sourceRef).1 ∧
      (unionStep progress sourceRef).1 (unionStep progress sourceRef).2 =
        (unionStep progress sourceRef).2 := by
  obtain ⟨find, root⟩ := progress
  simp only at hfind hroot
  have hother : find (find sourceRef) = find sourceRef := hfind sourceRef
  simp only [unionStep]
  by_cases hsame : root = find sourceRef
  · rw [if_pos hsame]
    exact ⟨hfind, hroot⟩
  rw [if_neg hsame]
  -- the new root and the old one are two different roots of `find`
  generalize hnew : (if root ≤ find sourceRef then root else find sourceRef) = newRoot
  generalize hold : (if root ≤ find sourceRef then find sourceRef else root) = oldRoot
  have hne : newRoot ≠ oldRoot := by
    rw [← hnew, ← hold]
    split
    · exact hsame
    · exact Ne.symm hsame
  have hnewRoot : find newRoot = newRoot := by
    rw [← hnew]
    split
    · exact hroot
    · exact hother
  have hself : (if find newRoot = oldRoot then newRoot else find newRoot) = newRoot := by
    rw [hnewRoot, if_neg hne]
  refine ⟨fun ref => ?_, hself⟩
  simp only
  by_cases hhung : find ref = oldRoot
  · rw [if_pos hhung]
    exact hself
  · rw [if_neg hhung, hfind ref, if_neg hhung]

theorem unionSourceRefs_isRootMap {find : String → String} (hfind : IsRootMap find)
    (sourceRefs : List String) : IsRootMap (unionSourceRefs find sourceRefs) := by
  unfold unionSourceRefs
  split
  · exact hfind
  · next first rest _ =>
    have hrun : ∀ (refs : List String) (progress : (String → String) × String),
        IsRootMap progress.1 → progress.1 progress.2 = progress.2 →
        IsRootMap (refs.foldl unionStep progress).1 := by
      intro refs
      induction refs with
      | nil => intro progress hmap _; exact hmap
      | cons ref refs ih =>
        intro progress hmap hroot
        have hstep := unionStep_isRootMap ref hmap hroot
        exact ih _ hstep.1 hstep.2
    exact hrun rest _ hfind (hfind first)

theorem merge_isRootMap {lineage : Lineage} (hfind : IsRootMap lineage.find)
    (comparison : ComparisonRow) : IsRootMap (lineage.merge comparison).find := by
  unfold Lineage.merge
  split
  · exact hfind
  · exact unionSourceRefs_isRootMap hfind _

theorem lineageOf_isRootMap (state : PlannerState) : IsRootMap (lineageOf state).find := by
  have hrun : ∀ (comparisons : List ComparisonRow) (lineage : Lineage),
      IsRootMap lineage.find → IsRootMap (comparisons.foldl Lineage.merge lineage).find := by
    intro comparisons
    induction comparisons with
    | nil => intro lineage hfind; exact hfind
    | cons comparison rest ih =>
      intro lineage hfind
      exact ih _ (merge_isRootMap hfind comparison)
  exact hrun state.comparisons _ fun _ => rfl

/-! The claims of a node. -/

theorem sourcesOf?_append {entries more : List (String × List String)} {nodeRef : String}
    {sources : List String} (h : sourcesOf? entries nodeRef = some sources) :
    sourcesOf? (entries ++ more) nodeRef = some sources := by
  unfold sourcesOf? at h ⊢
  rw [List.find?_append]
  cases hfind : entries.find? fun entry => entry.1 = nodeRef with
  | none => simp [hfind] at h
  | some entry => simpa [hfind] using h

/-- What is known of a node stays as it is. -/
theorem sourcesOf?_merge {lineage : Lineage} {nodeRef : String} {sources : List String}
    (h : sourcesOf? lineage.rawSourcesByNode nodeRef = some sources) (comparison : ComparisonRow) :
    sourcesOf? (lineage.merge comparison).rawSourcesByNode nodeRef = some sources := by
  unfold Lineage.merge
  split
  · exact h
  · simp only
    split
    · split
      · exact sourcesOf?_append h
      · exact h
    · exact h

theorem sourcesOf?_nodes {nodes : List NodeRow} (hrefs : (nodes.map NodeRow.nodeRef).Nodup)
    {node : NodeRow} (hnode : node ∈ nodes) :
    sourcesOf? (nodes.map fun node => (node.nodeRef, node.sourceClaimRefs)) node.nodeRef =
      some node.sourceClaimRefs := by
  induction nodes with
  | nil => cases hnode
  | cons first rest ih =>
    rw [List.map_cons, List.nodup_cons] at hrefs
    unfold sourcesOf? at ih ⊢
    rw [List.map_cons, List.find?_cons]
    rcases List.mem_cons.mp hnode with rfl | hmem
    · simp
    · have hne : first.nodeRef ≠ node.nodeRef := by
        intro heq
        apply hrefs.1
        rw [heq]
        exact List.mem_map_of_mem hmem
      simpa [hne] using ih hrefs.2 hmem

theorem sourcesOf?_lineageOf {state : PlannerState} (hstate : state.WellFormed) {node : NodeRow}
    (hnode : node ∈ state.nodes) :
    sourcesOf? (lineageOf state).rawSourcesByNode node.nodeRef = some node.sourceClaimRefs := by
  have hrun : ∀ (comparisons : List ComparisonRow) (lineage : Lineage),
      sourcesOf? lineage.rawSourcesByNode node.nodeRef = some node.sourceClaimRefs →
      sourcesOf? (comparisons.foldl Lineage.merge lineage).rawSourcesByNode node.nodeRef =
        some node.sourceClaimRefs := by
    intro comparisons
    induction comparisons with
    | nil => intro lineage h; exact h
    | cons comparison rest ih => intro lineage h; exact ih _ (sourcesOf?_merge h comparison)
  exact hrun state.comparisons _ (sourcesOf?_nodes hstate.nodeRefs_nodup hnode)

/-- The roots of the claims a node reference is known to stand for. -/
def lineageRoots (state : PlannerState) (nodeRef : String) : Option (List String) :=
  sourcesOf? (LineageComparisonIndex.fromState state).sourceClaimRefsByNodeRef nodeRef

/-- The roots of the claims of a node. -/
def rootsOf (state : PlannerState) (node : NodeRow) : List String :=
  node.sourceClaimRefs.map (lineageOf state).find

theorem lineageRoots_eq {state : PlannerState} (hstate : state.WellFormed) {node : NodeRow}
    (hnode : node ∈ state.nodes) : lineageRoots state node.nodeRef = some (rootsOf state node) := by
  have hraw := sourcesOf?_lineageOf hstate hnode
  unfold sourcesOf? at hraw
  unfold lineageRoots LineageComparisonIndex.fromState sourcesOf?
  rw [List.find?_map]
  cases hfind : (lineageOf state).rawSourcesByNode.find? fun entry => entry.1 = node.nodeRef with
  | none => simp [hfind] at hraw
  | some entry =>
    simp only [hfind, Option.map_some, Option.some.injEq] at hraw
    simp only [Function.comp_def, hfind, Option.map_some, hraw, rootsOf]

/-! What keeps two nodes from being compared. -/

/-- The lineages of two nodes meet. -/
def OverlapInLineage (state : PlannerState) (left right : NodeRow) : Prop :=
  ∃ root ∈ rootsOf state left, root ∈ rootsOf state right

/-- The two sides of some comparison that did not merge are contained one in
each of the two nodes. -/
def SeparatedByNotMerged (state : PlannerState) (left right : NodeRow) : Prop :=
  ∃ comparison ∈ state.comparisons, comparison.status = .notMerged ∧
    ∃ leftRoots rightRoots, lineageRoots state comparison.leftNodeRef = some leftRoots ∧
      lineageRoots state comparison.rightNodeRef = some rightRoots ∧
      (leftRoots ⊆ rootsOf state left ∧ rightRoots ⊆ rootsOf state right ∨
        leftRoots ⊆ rootsOf state right ∧ rightRoots ⊆ rootsOf state left)

/-- Some separation edge joins a claim among the roots of one node to one among
the roots of the other. -/
def SeparatedByRootEdge (state : PlannerState) (left right : NodeRow) : Prop :=
  ∃ edge ∈ state.originSeparationEdges,
    edge.originRefA ∈ rootsOf state left ∧ edge.originRefB ∈ rootsOf state right ∨
      edge.originRefA ∈ rootsOf state right ∧ edge.originRefB ∈ rootsOf state left

theorem isSubset_iff {first second : List String} :
    isSubset first second = true ↔ first ⊆ second := by
  simp [isSubset, List.subset_def]

/-- The pairs kept apart: the two claims of an edge as they are, the roots of the
two sides of a comparison that did not merge. -/
theorem mem_incompatibleSourcePairs {state : PlannerState} {known : List String × List String} :
    known ∈ (LineageComparisonIndex.fromState state).incompatibleSourcePairs ↔
      (∃ edge ∈ state.originSeparationEdges, ([edge.originRefA], [edge.originRefB]) = known) ∨
        ∃ comparison ∈ state.comparisons, comparison.status = .notMerged ∧
          lineageRoots state comparison.leftNodeRef = some known.1 ∧
          lineageRoots state comparison.rightNodeRef = some known.2 := by
  simp only [LineageComparisonIndex.fromState, List.mem_append, List.mem_map, List.mem_filterMap,
    List.mem_filter, decide_eq_true_eq]
  refine or_congr Iff.rfl ?_
  constructor
  · rintro ⟨comparison, ⟨hmem, hstatus⟩, hknown⟩
    split at hknown
    · next leftRoots rightRoots hleft hright =>
      cases hknown
      exact ⟨comparison, hmem, hstatus, hleft, hright⟩
    · cases hknown
  · rintro ⟨comparison, hmem, hstatus, hleft, hright⟩
    refine ⟨comparison, ⟨hmem, hstatus⟩, ?_⟩
    simp only [lineageRoots, LineageComparisonIndex.fromState] at hleft hright
    simp only [hleft, hright]

theorem incompatible_any_iff {state : PlannerState} {left right : NodeRow} :
    ((LineageComparisonIndex.fromState state).incompatibleSourcePairs.any fun known =>
        (isSubset known.1 (rootsOf state left) && isSubset known.2 (rootsOf state right)) ||
          (isSubset known.1 (rootsOf state right) && isSubset known.2 (rootsOf state left))) =
            true ↔
      SeparatedByRootEdge state left right ∨ SeparatedByNotMerged state left right := by
  simp only [List.any_eq_true, Bool.or_eq_true, Bool.and_eq_true, isSubset_iff,
    mem_incompatibleSourcePairs]
  constructor
  · rintro ⟨known, ⟨edge, hedge, rfl⟩ | ⟨comparison, hmem, hstatus, hleft, hright⟩, hknown⟩
    · exact .inl ⟨edge, hedge, by simpa using hknown⟩
    · exact .inr ⟨comparison, hmem, hstatus, known.1, known.2, hleft, hright, hknown⟩
  · rintro (⟨edge, hedge, hknown⟩ | ⟨comparison, hmem, hstatus, leftRoots, rightRoots, hleft,
      hright, hknown⟩)
    · exact ⟨_, .inl ⟨edge, hedge, rfl⟩, by simpa using hknown⟩
    · exact ⟨(leftRoots, rightRoots), .inr ⟨comparison, hmem, hstatus, hleft, hright⟩, hknown⟩

/-- `can_compare` of two nodes of the state. -/
theorem canCompare_iff {state : PlannerState} (hstate : state.WellFormed) {left right : NodeRow}
    (hleft : left ∈ state.nodes) (hright : right ∈ state.nodes) :
    (LineageComparisonIndex.fromState state).canCompare state.comparisons left.nodeRef
        right.nodeRef = true ↔
      ¬ OverlapInLineage state left right ∧
        comparisonStatus state.comparisons left.nodeRef right.nodeRef = none ∧
        ¬ SeparatedByRootEdge state left right ∧ ¬ SeparatedByNotMerged state left right := by
  have hleftRoots := lineageRoots_eq hstate hleft
  have hrightRoots := lineageRoots_eq hstate hright
  have hoverlap : ((rootsOf state left).any fun root => (rootsOf state right).contains root) =
      true ↔ OverlapInLineage state left right := by
    simp [OverlapInLineage]
  unfold lineageRoots at hleftRoots hrightRoots
  simp only [LineageComparisonIndex.canCompare, hleftRoots, hrightRoots, Bool.and_eq_true,
    Bool.not_eq_true', ← Bool.not_eq_true, hoverlap, incompatible_any_iff,
      Option.isNone_iff_eq_none,
    not_or, and_assoc]

/-! The same for the pair turned round. -/

theorem OverlapInLineage.symm {state : PlannerState} {left right : NodeRow}
    (h : OverlapInLineage state left right) : OverlapInLineage state right left := by
  obtain ⟨root, hleft, hright⟩ := h
  exact ⟨root, hright, hleft⟩

theorem SeparatedByNotMerged.symm {state : PlannerState} {left right : NodeRow}
    (h : SeparatedByNotMerged state left right) : SeparatedByNotMerged state right left := by
  obtain ⟨comparison, hmem, hstatus, leftRoots, rightRoots, hleft, hright, hsides⟩ := h
  exact ⟨comparison, hmem, hstatus, leftRoots, rightRoots, hleft, hright, hsides.symm⟩

theorem SeparatedByRootEdge.symm {state : PlannerState} {left right : NodeRow}
    (h : SeparatedByRootEdge state left right) : SeparatedByRootEdge state right left := by
  obtain ⟨edge, hedge, hsides⟩ := h
  exact ⟨edge, hedge, hsides.symm⟩

theorem comparisonStatus_comm (comparisons : List ComparisonRow) (left right : String) :
    comparisonStatus comparisons left right = comparisonStatus comparisons right left := by
  simp only [comparisonStatus, latestComparison, pairKey_comm left right]

/-- No status means that the pair is in no comparison, in either order. -/
theorem comparisonStatus_eq_none {comparisons : List ComparisonRow} {left right : String} :
    comparisonStatus comparisons left right = none ↔ ∀ comparison ∈ comparisons,
      pairKey comparison.leftNodeRef comparison.rightNodeRef ≠ pairKey left right := by
  simp [comparisonStatus, latestComparison]

/-- The status is that of a recorded comparison of the pair. -/
theorem exists_of_comparisonStatus {comparisons : List ComparisonRow} {left right : String}
    {status : ComparisonStatus} (h : comparisonStatus comparisons left right = some status) :
    ∃ comparison ∈ comparisons, comparison.status = status ∧
      pairKey comparison.leftNodeRef comparison.rightNodeRef = pairKey left right := by
  simp only [comparisonStatus, Option.map_eq_some_iff] at h
  obtain ⟨comparison, hfind, hstatus⟩ := h
  refine ⟨comparison, ?_, hstatus, by simpa using List.find?_some hfind⟩
  exact List.mem_reverse.mp (List.mem_of_find?_eq_some hfind)

theorem estimatedTaskTokens_comm (state : PlannerState) (left right : String) :
    estimatedTaskTokens state [left, right] = estimatedTaskTokens state [right, left] := by
  have hsum : (([left, right].filterMap (nodeByRef state.nodes)).foldl
      (fun sum node => sum + node.artifactTokens) 0) =
      ([right, left].filterMap (nodeByRef state.nodes)).foldl
        (fun sum node => sum + node.artifactTokens) 0 := by
    cases hleft : nodeByRef state.nodes left <;> cases hright : nodeByRef state.nodes right <;>
      simp [hleft, hright, Nat.add_comm]
  simp [estimatedTaskTokens, hsum]

theorem workItemFitsPrimaryTpm_comm (state : PlannerState) (workType : NextWorkItemType)
    (left right : String) :
    workItemFitsPrimaryTpm state workType [left, right] =
      workItemFitsPrimaryTpm state workType [right, left] := by
  simp only [workItemFitsPrimaryTpm, estimatedTaskTokens_comm state left right]

/-! Claims and roots. -/

theorem mem_rootsOf {state : PlannerState} {node : NodeRow} {ref : String}
    (h : ref ∈ node.sourceClaimRefs) : (lineageOf state).find ref ∈ rootsOf state node :=
  List.mem_map_of_mem h

/-- Every member of the roots of a node is its own root. -/
theorem find_eq_self_of_mem_rootsOf {state : PlannerState} {node : NodeRow} {root : String}
    (h : root ∈ rootsOf state node) : (lineageOf state).find root = root := by
  obtain ⟨ref, _, rfl⟩ := List.mem_map.mp h
  exact lineageOf_isRootMap state ref

/-- Nodes whose lineages do not meet share no claim. -/
theorem disjoint_of_not_overlap {state : PlannerState} {left right : NodeRow}
    (h : ¬ OverlapInLineage state left right) :
    ∀ ref ∈ left.sourceClaimRefs, ref ∉ right.sourceClaimRefs := by
  intro ref hleft hright
  exact h ⟨_, mem_rootsOf hleft, mem_rootsOf hright⟩

end CrmBot.Compaction
