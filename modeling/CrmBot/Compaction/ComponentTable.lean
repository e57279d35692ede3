import CrmBot.Compaction.ReductionRuns

/-! What one result does to the nodes, the components and the comparisons.

Both kinds of result absorb nodes: a row is written, the rows it supersedes are
deactivated, their components are closed and the component of the row is opened.
The written row carries all arguments of these statements. -/

namespace CrmBot.Compaction

open Relational CrmBot.Python FailingFold

/-! Components. -/

/-- A component is called after the node that represents it. -/
def ComponentsNamed (components : Table ComponentRow.componentRef) : Prop :=
  ∀ row ∈ components.rows, row.componentRef = componentRefForNode row.representativeNodeRef

theorem componentRefForNode_injective : Function.Injective componentRefForNode := by
  intro first second h
  have hchars := congrArg String.toList h
  simp only [componentRefForNode, String.toList_append, List.append_cancel_left_eq] at hchars
  exact String.toList_inj.mp hchars

def componentRefs (nodeRefs : List String) : List String :=
  sorted (nodeRefs.map componentRefForNode).eraseDups

theorem mem_componentRefs {nodeRefs : List String} {nodeRef : String} :
    componentRefForNode nodeRef ∈ componentRefs nodeRefs ↔ nodeRef ∈ nodeRefs := by
  simp only [componentRefs, mem_sorted, List.mem_eraseDups, List.mem_map]
  constructor
  · rintro ⟨other, hother, heq⟩
    exact componentRefForNode_injective heq ▸ hother
  · exact fun h => ⟨nodeRef, h, rfl⟩

/-- With names of this form the search for an active component finds what the
fallback says. -/
theorem activeComponentRefForNode_eq {state : ReductionState}
    (hnamed : ComponentsNamed state.components) (group : GroupKey) (nodeRef : String) :
    activeComponentRefForNode state group nodeRef = componentRefForNode nodeRef := by
  simp only [activeComponentRefForNode]
  split
  · rfl
  · next row hrow =>
    have hmem := List.mem_of_mem_head? hrow
    rw [List.mem_insertionSort, List.mem_filter] at hmem
    have hnode : row.representativeNodeRef = nodeRef := by
      simp only [Bool.and_eq_true, decide_eq_true_eq] at hmem
      exact hmem.2.1.2
    rw [hnamed row hmem.1, hnode]

theorem activeComponentRefsForNodes_eq {state : ReductionState}
    (hnamed : ComponentsNamed state.components) (group : GroupKey) (nodeRefs : List String) :
    activeComponentRefsForNodes state group nodeRefs = componentRefs nodeRefs := by
  unfold activeComponentRefsForNodes componentRefs
  rw [List.map_congr_left fun nodeRef _ => activeComponentRefForNode_eq hnamed group nodeRef]

/-- The update that closes the components of the superseded nodes. -/
def closeComponents (components : Table ComponentRow.componentRef) (row : NodeRow) :
    Table ComponentRow.componentRef :=
  components.updateWhere
    (fun old => old.group = row.group &&
      (componentRefs row.supersedesNodeRefs).contains old.componentRef && old.active)
    (fun old => { old with active := false, updatedAt := row.createdAt }) fun _ => rfl

/-- The component of a written node. -/
def openComponent (row : NodeRow) : ComponentRow :=
  { componentRef := componentRefForNode row.nodeRef
    group := row.group
    representativeNodeRef := row.nodeRef
    active := true
    sourceClaimRefs := row.sourceClaimRefs
    supersedesComponentRefs := componentRefs row.supersedesNodeRefs
    createdAt := row.createdAt
    updatedAt := row.createdAt }

/-! Absorbing. -/

def absorbNode (nodes : Table NodeRow.nodeRef) (row : NodeRow) : Table NodeRow.nodeRef :=
  deactivateNodes (nodes.insertOrIgnore row) row.supersedesNodeRefs row.createdAt

def absorbComponent (components : Table ComponentRow.componentRef) (row : NodeRow) :
    Table ComponentRow.componentRef :=
  upsertComponent (closeComponents components row) (openComponent row)

theorem insertComponentIncompatibility_keeps {state next : ReductionState} {group : GroupKey}
    {left right : String} {source : Option String} {createdAt : Int}
    (h : insertComponentIncompatibility state group left right source createdAt = .ok next) :
    next.components = state.components ∧ next.comparisons = state.comparisons := by
  obtain ⟨incompatibilities, rfl⟩ := insertComponentIncompatibility_frame h
  exact ⟨rfl, rfl⟩

/-- Merging the components of the nodes that a row supersedes. -/
theorem upsertMergedComponent_spec (row : NodeRow) {state next : ReductionState}
    (h : upsertMergedComponent state row.group row.nodeRef row.supersedesNodeRefs
      row.sourceClaimRefs row.createdAt = .ok next) (hnamed : ComponentsNamed state.components) :
    next.components = absorbComponent state.components row ∧
      next.comparisons = state.comparisons := by
  unfold upsertMergedComponent at h
  simp only [activeComponentRefsForNodes_eq hnamed] at h
  split at h
  · cases h
  · constructor
    · refine (view_foldlM_eq ReductionState.components ?_ h).trans rfl
      intro inheritedRef _ current following hstep
      exact (insertComponentIncompatibility_keeps hstep).1
    · refine (view_foldlM_eq ReductionState.comparisons ?_ h).trans rfl
      intro inheritedRef _ current following hstep
      exact (insertComponentIncompatibility_keeps hstep).2

/-! Comparisons. -/

/-- A pair of nodes was compared in a round. -/
def Compared (comparisons : Table ComparisonRow.comparisonRef) (group : GroupKey)
    (roundIndex : Nat) (pair : String × String) : Prop :=
  ∃ ordered, orderedPair pair.1 pair.2 = .ok ordered ∧ ∃ row ∈ comparisons.rows,
    row.group = group ∧ row.leftNodeRef = ordered.1 ∧ row.rightNodeRef = ordered.2 ∧
      row.roundIndex = roundIndex

/-- A step over pairs records them all, keeps what is recorded, and changes
nothing when all of them are recorded. -/
structure Records (before after : Table ComparisonRow.comparisonRef) (group : GroupKey)
    (roundIndex : Nat) (pairs : List (String × String)) : Prop where
  kept : before.rows ⊆ after.rows
  recorded : ∀ pair ∈ pairs, Compared after group roundIndex pair
  unchanged : (∀ pair ∈ pairs, Compared before group roundIndex pair) → after = before

namespace Records

variable {first second third : Table ComparisonRow.comparisonRef} {group : GroupKey}
  {roundIndex : Nat} {pairs others : List (String × String)}

theorem compared_mono (hkept : first.rows ⊆ second.rows) {pair : String × String}
    (h : Compared first group roundIndex pair) : Compared second group roundIndex pair := by
  obtain ⟨ordered, hordered, row, hrow, hfields⟩ := h
  exact ⟨ordered, hordered, row, hkept hrow, hfields⟩

theorem nil : Records first first group roundIndex [] where
  kept := List.Subset.refl _
  recorded := by simp
  unchanged := fun _ => rfl

theorem append (hfirst : Records first second group roundIndex pairs)
    (hsecond : Records second third group roundIndex others) :
    Records first third group roundIndex (pairs ++ others) where
  kept := fun _ hrow => hsecond.kept (hfirst.kept hrow)
  recorded := by
    intro pair hpair
    rcases List.mem_append.mp hpair with h | h
    · exact compared_mono hsecond.kept (hfirst.recorded pair h)
    · exact hsecond.recorded pair h
  unchanged := by
    intro hall
    have hsame := hfirst.unchanged fun pair h => hall pair (List.mem_append_left _ h)
    rw [hsecond.unchanged, hsame]
    intro pair h
    rw [hsame]
    exact hall pair (List.mem_append_right _ h)

end Records

/-- A comparison of a pair, by its conflict target. -/
theorem insertComparison_spec {state next : ReductionState} {row : ComparisonRow} {flag : Bool}
    (h : insertComparison state row = .ok (flag, next)) {pair : String × String}
    (hpair : orderedPair pair.1 pair.2 = .ok (row.leftNodeRef, row.rightNodeRef)) :
    next.components = state.components ∧
      Records state.comparisons next.comparisons row.group row.roundIndex [pair] := by
  unfold insertComparison at h
  split at h
  · next hexists =>
    simp only [Except.ok.injEq, Prod.mk.injEq] at h
    rw [← h.2]
    refine ⟨rfl, List.Subset.refl _, ?_, fun _ => rfl⟩
    intro other hother
    rw [List.mem_singleton] at hother
    obtain ⟨old, hold, hfields⟩ := List.any_eq_true.mp hexists
    simp only [Bool.and_eq_true, decide_eq_true_eq] at hfields
    rw [hother]
    exact ⟨_, hpair, old, hold, hfields.1.1.1, hfields.1.1.2, hfields.1.2, hfields.2⟩
  split at h
  · cases h
  split at h
  · cases h
  next hnone hfresh _ =>
  simp only [Except.ok.injEq, Prod.mk.injEq] at h
  rw [← h.2]
  refine ⟨rfl, fun old hold => Table.mem_insertOrIgnore.mpr (.inl hold), ?_, ?_⟩
  · intro other hother
    rw [List.mem_singleton] at hother
    rw [hother]
    exact ⟨_, hpair, row, Table.mem_insertOrIgnore.mpr (.inr ⟨hfresh, rfl⟩), rfl, rfl, rfl, rfl⟩
  · intro hall
    obtain ⟨ordered, hordered, old, hold, hfields⟩ := hall pair (List.mem_singleton_self _)
    rw [hpair, Except.ok.injEq] at hordered
    rw [← hordered] at hfields
    refine absurd (List.any_eq_true.mpr ⟨old, hold, ?_⟩) hnone
    simp only [Bool.and_eq_true, decide_eq_true_eq]
    exact ⟨⟨⟨hfields.1, hfields.2.1⟩, hfields.2.2.1⟩, hfields.2.2.2⟩

theorem insertMergedComparison_spec {state next : ReductionState} {group : GroupKey}
    {roundIndex : Nat} {pair : String × String} {resultNodeRef : String} {createdAt : Int}
    {flag : Bool}
    (h : insertMergedComparison state group roundIndex pair.1 pair.2 resultNodeRef createdAt =
      .ok (flag, next)) :
    next.components = state.components ∧
      Records state.comparisons next.comparisons group roundIndex [pair] := by
  unfold insertMergedComparison at h
  obtain ⟨ordered, hordered, hinsert⟩ := bind_eq_ok.mp h
  exact insertComparison_spec hinsert hordered

theorem insertNotMergedComparison_spec {state next : ReductionState} {group : GroupKey}
    {roundIndex : Nat} {pair : String × String} {createdAt : Int} {flag : Bool}
    (h : insertNotMergedComparison state group roundIndex pair.1 pair.2 createdAt =
      .ok (flag, next)) :
    next.components = state.components ∧
      Records state.comparisons next.comparisons group roundIndex [pair] := by
  unfold insertNotMergedComparison at h
  obtain ⟨ordered, hordered, hinsert⟩ := bind_eq_ok.mp h
  exact insertComparison_spec hinsert hordered

theorem insertOriginSeparationEdge_keeps {state next : ReductionState} {group : GroupKey}
    {originA originB : String} {batch item attempt source : Option String} {establishedAt : Int}
    {flag : Bool}
    (h : insertOriginSeparationEdge state group originA originB batch item attempt source
      establishedAt = .ok (flag, next)) :
    next.components = state.components ∧ next.comparisons = state.comparisons := by
  obtain ⟨separationEdges, rfl⟩ := insertOriginSeparationEdge_frame h
  exact ⟨rfl, rfl⟩

/-- Recording pair by pair. -/
theorem records_foldlM {Progress : Type} (state : Progress → ReductionState) {group : GroupKey}
    {roundIndex : Nat} {step : Progress → String × String → Except Fault Progress}
    (hstep : ∀ before pair after, step before pair = .ok after →
      (state after).components = (state before).components ∧
        Records (state before).comparisons (state after).comparisons group roundIndex [pair])
    {pairs : List (String × String)} {first last : Progress}
    (h : pairs.foldlM step first = .ok last) :
    (state last).components = (state first).components ∧
      Records (state first).comparisons (state last).comparisons group roundIndex pairs := by
  induction pairs generalizing first with
  | nil =>
    simp only [List.foldlM_nil, pure, Except.pure, Except.ok.injEq] at h
    rw [← h]
    exact ⟨rfl, .nil⟩
  | cons pair rest ih =>
    rw [List.foldlM_cons, bind_eq_ok] at h
    obtain ⟨middle, hfirst, hrest⟩ := h
    obtain ⟨hcomponents, hrecords⟩ := hstep first pair middle hfirst
    obtain ⟨hcomponents', hrecords'⟩ := ih hrest
    exact ⟨hcomponents'.trans hcomponents, hrecords.append hrecords'⟩

/-! A result. -/

/-- The pairs that a result records: those of the superseded nodes of each row,
and those of the rows. -/
def comparedPairs (rows : List NodeRow) : List (String × String) :=
  rows.flatMap (fun row => nodeRefPairs row.supersedesNodeRefs) ++
    nodeRefPairs (rows.map NodeRow.nodeRef)

/-- What a successful result with the given rows does. -/
structure Absorbs (before after : ReductionState) (group : GroupKey) (roundIndex : Nat)
    (rows : List NodeRow) (pairs : List (String × String)) : Prop where
  nodes : after.nodes = rows.foldl absorbNode before.nodes
  components : after.components = rows.foldl absorbComponent before.components
  records : Records before.comparisons after.comparisons group roundIndex pairs

theorem componentsNamed_absorbComponent {components : Table ComponentRow.componentRef}
    (hnamed : ComponentsNamed components) (row : NodeRow) :
    ComponentsNamed (absorbComponent components row) := by
  have hclosed : ComponentsNamed (closeComponents components row) := by
    intro other hother
    obtain ⟨old, hold, rfl⟩ := Table.mem_updateWhere.mp hother
    split
    · exact hnamed old hold
    · exact hnamed old hold
  intro other hother
  unfold absorbComponent upsertComponent at hother
  split at hother
  · obtain ⟨old, hold, rfl⟩ := Table.mem_updateWhere.mp hother
    split
    · next hsame => exact of_decide_eq_true hsame
    · exact hclosed old hold
  · rcases Table.mem_insertOrIgnore.mp hother with hold | ⟨_, rfl⟩
    · exact hclosed other hold
    · rfl

variable {env : CompactionEnv}

/-- The merged comparisons of the nodes that a row supersedes. -/
theorem records_mergedComparisons {state next : ReductionState} {group : GroupKey}
    {roundIndex : Nat} {nodeRef : String} {createdAt : Int} {pairs : List (String × String)}
    {first last : Nat}
    (h : pairs.foldlM (fun (count, current) pair => do
      let (inserted, following) ← insertMergedComparison current group roundIndex pair.1 pair.2
        nodeRef createdAt
      pure (if inserted then count + 1 else count, following)) (first, state) =
        (.ok (last, next) : Except Fault (Nat × ReductionState))) :
    next.components = state.components ∧
      Records state.comparisons next.comparisons group roundIndex pairs := by
  refine records_foldlM Prod.snd ?_ h
  intro before pair after hstep
  obtain ⟨inserted, hinserted, hpure⟩ := bind_eq_ok.mp hstep
  simp only [pure, Except.pure, Except.ok.injEq] at hpure
  rw [← hpure]
  exact insertMergedComparison_spec hinserted

theorem applyCompactedClaim_absorbs {command : ApplyCompactedClaims}
    {sets : List (String × List String)} {claim : OutputClaim}
    {before after : ApplyCounts × ReductionState} (hnamed : ComponentsNamed before.2.components)
    (h : applyCompactedClaim env command sets before claim = .ok after) :
    Absorbs before.2 after.2 command.group command.roundIndex
      [compactedNodeRow env command claim (claimSourceNodeRefs command sets claim)]
      (nodeRefPairs (claimSourceNodeRefs command sets claim)) := by
  have hnodes := applyCompactedClaim_nodes h
  unfold applyCompactedClaim at h
  obtain ⟨merged, hmerged, hrest⟩ := bind_eq_ok.mp h
  obtain ⟨⟨count, compared⟩, hcompared, hpure⟩ := bind_eq_ok.mp hrest
  simp only [pure, Except.pure, Except.ok.injEq] at hpure
  obtain ⟨hcomponents, hrecords⟩ := records_mergedComparisons hcompared
  have hupsert := upsertMergedComponent_spec
    (compactedNodeRow env command claim (claimSourceNodeRefs command sets claim)) hmerged hnamed
  rw [← hpure] at hnodes ⊢
  refine ⟨hnodes, hcomponents.trans hupsert.1, ?_⟩
  rw [hupsert.2] at hrecords
  exact hrecords

theorem separateOutputPair_records {command : ApplyCompactedClaims} {outputNodeRefs : List String}
    {pair : String × String} {before after : ApplyCounts × ReductionState}
    (h : separateOutputPair command outputNodeRefs before pair = .ok after) :
    after.2.components = before.2.components ∧
      Records before.2.comparisons after.2.comparisons command.group command.roundIndex [pair] := by
  unfold separateOutputPair at h
  obtain ⟨ordered, _, hinsert⟩ := bind_eq_ok.mp h
  obtain ⟨⟨inserted, compared⟩, hinserted, hrest⟩ := bind_eq_ok.mp hinsert
  obtain ⟨separated, hseparated, hpure⟩ := bind_eq_ok.mp hrest
  simp only [pure, Except.pure, Except.ok.injEq] at hpure
  obtain ⟨hcomponents, hrecords⟩ := insertNotMergedComparison_spec hinserted
  have hedges : ∀ origins ∈ crossOriginPairsForOutputPartitions
      (command.compactedClaims.map OutputClaim.sourceClaimRefs) pair.1 pair.2 outputNodeRefs,
      ∀ current next, (do
        let (_, following) ← insertOriginSeparationEdge current command.group origins.1 origins.2
          (some command.batchRef) (some command.workItemId) none
          (some (comparisonRef command.group command.roundIndex ordered.1 ordered.2))
          command.createdAt
        pure following) = .ok next →
      next.components = current.components ∧ next.comparisons = current.comparisons := by
    intro origins _ current next hstep
    obtain ⟨edge, hedge, hnext⟩ := bind_eq_ok.mp hstep
    simp only [pure, Except.pure, Except.ok.injEq] at hnext
    rw [← hnext]
    exact insertOriginSeparationEdge_keeps hedge
  have hkeptComponents : separated.components = compared.components :=
    view_foldlM_eq ReductionState.components
      (fun origins horigins current next hstep => (hedges origins horigins current next hstep).1)
      hseparated
  have hkeptComparisons : separated.comparisons = compared.comparisons :=
    view_foldlM_eq ReductionState.comparisons
      (fun origins horigins current next hstep => (hedges origins horigins current next hstep).2)
      hseparated
  rw [← hpure]
  refine ⟨hkeptComponents.trans hcomponents, ?_⟩
  rw [hkeptComparisons]
  exact hrecords

/-- The rows that a result of compacted claims writes. -/
def compactedRows (env : CompactionEnv) (nodes : Table NodeRow.nodeRef)
    (command : ApplyCompactedClaims) : List NodeRow :=
  command.compactedClaims.map fun claim => compactedNodeRow env command claim
    (claimSourceNodeRefs command (sourceClaimRefsByNodeRef (comparedNodes nodes command)) claim)

/-- The claims one after the other. -/
theorem applyCompactedClaims_absorb {command : ApplyCompactedClaims}
    {sets : List (String × List String)} {claims : List OutputClaim}
    {first last : ApplyCounts × ReductionState} (hnamed : ComponentsNamed first.2.components)
    (h : claims.foldlM (applyCompactedClaim env command sets) first = .ok last) :
    Absorbs first.2 last.2 command.group command.roundIndex
      (claims.map fun claim =>
        compactedNodeRow env command claim (claimSourceNodeRefs command sets claim))
      (claims.flatMap fun claim => nodeRefPairs (claimSourceNodeRefs command sets claim)) := by
  induction claims generalizing first with
  | nil =>
    simp only [List.foldlM_nil, pure, Except.pure, Except.ok.injEq] at h
    rw [← h]
    exact ⟨rfl, rfl, .nil⟩
  | cons claim rest ih =>
    rw [List.foldlM_cons, bind_eq_ok] at h
    obtain ⟨middle, hfirst, hrest⟩ := h
    have hclaim := applyCompactedClaim_absorbs hnamed hfirst
    have hmiddle : ComponentsNamed middle.2.components := by
      rw [hclaim.components]
      exact componentsNamed_absorbComponent hnamed _
    have hothers := ih hmiddle hrest
    refine ⟨?_, ?_, hclaim.records.append hothers.records⟩
    · rw [hothers.nodes, hclaim.nodes]
      rfl
    · rw [hothers.components, hclaim.components]
      rfl

theorem applyCompactedClaimsResult_absorbs {state after : ReductionState}
    {command : ApplyCompactedClaims} {result : ApplyPersistenceResult}
    (hnamed : ComponentsNamed state.components)
    (h : applyCompactedClaimsResult env state command = .ok (result, after)) :
    Absorbs state after command.group command.roundIndex (compactedRows env state.nodes command)
      (comparedPairs (compactedRows env state.nodes command)) := by
  have hkeptNodes := (applyCompactedClaimsResult_nodes h).2
  unfold applyCompactedClaimsResult at h
  obtain ⟨applied, happlied, hrest⟩ := bind_eq_ok.mp h
  obtain ⟨⟨counts, separated⟩, hseparated, hpure⟩ := bind_eq_ok.mp hrest
  simp only [pure, Except.pure, Except.ok.injEq, Prod.mk.injEq] at hpure
  have hclaims := applyCompactedClaims_absorb hnamed happlied
  obtain ⟨hcomponents, hrecords⟩ := records_foldlM Prod.snd
    (fun _ _ _ hstep => separateOutputPair_records hstep) hseparated
  rw [hpure.2] at hcomponents hrecords
  refine ⟨?_, hcomponents.trans hclaims.components, ?_⟩
  · rw [hkeptNodes]
    simp only [compactedRows, List.foldl_map]
    rfl
  · have hpairs := hclaims.records.append hrecords
    simp only [comparedPairs, compactedRows, List.flatMap_map, List.map_map]
    exact hpairs

theorem applyReducedRewriteResult_absorbs {state after : ReductionState}
    {command : ApplyReducedRewrite} {result : ApplyPersistenceResult}
    (hnamed : ComponentsNamed state.components)
    (h : applyReducedRewriteResult env state command = .ok (result, after)) :
    ∃ sourceNodes claim, rewriteSourceNodes state command = .ok sourceNodes ∧
      inheritedReducedClaim sourceNodes
        (sorted (sourceNodes.flatMap NodeRow.sourceClaimRefs).eraseDups) command.rewrite =
        .ok claim ∧
      Absorbs state after command.group command.roundIndex [rewrittenNodeRow env command claim]
        (comparedPairs [rewrittenNodeRow env command claim]) := by
  simp only [applyReducedRewriteResult, bind_eq_ok] at h
  obtain ⟨sourceNodes, hsources, claim, hclaim, merged, hmerged, ⟨count, compared⟩, hcompared,
    hpure⟩ := h
  simp only [pure, Except.pure, Except.ok.injEq, Prod.mk.injEq] at hpure
  obtain ⟨hcomponents, hrecords⟩ := records_mergedComparisons hcompared
  have hnodes : compared.nodes = merged.nodes := by
    refine view_foldlM_eq (fun progress : Nat × ReductionState => progress.2.nodes) ?_ hcompared
    intro pair _ current next hstep
    obtain ⟨inserted, hinserted, hnext⟩ := bind_eq_ok.mp hstep
    simp only [pure, Except.pure, Except.ok.injEq] at hnext
    rw [← hnext]
    exact insertMergedComparison_nodes hinserted
  have hupsert := upsertMergedComponent_spec (rewrittenNodeRow env command claim) hmerged hnamed
  rw [hpure.2] at hcomponents hrecords hnodes
  refine ⟨sourceNodes, claim, hsources, hclaim, ?_, hcomponents.trans hupsert.1, ?_⟩
  · rw [hnodes, upsertMergedComponent_nodes hmerged]
    rfl
  · rw [hupsert.2] at hrecords
    have hpairs : comparedPairs [rewrittenNodeRow env command claim] =
        nodeRefPairs command.sourceNodeRefs := by
      simp [comparedPairs, rewrittenNodeRow, nodeRefPairs, sorted, laterPairs]
    rw [hpairs]
    exact hrecords

end CrmBot.Compaction
