import CrmBot.Compaction.PlannerOutcomes
import CrmBot.Compaction.ReplayAgreement

/-! What the rows of a reduction state say about planning.

The writers record a comparison with its result only, and order what they
record. So planning of a group is done only when every pair of its active nodes
is decided. -/

namespace CrmBot.Compaction

open Relational CrmBot.Python FailingFold

/-- The comparison has a result and compares two different nodes. -/
def ComparisonRow.HasResult (row : ComparisonRow) : Prop :=
  (row.status = .merged ∨ row.status = .notMerged) ∧ row.leftNodeRef ≠ row.rightNodeRef

/-- Every comparison has a result and every separation edge is ordered. -/
structure ResultsStored (state : ReductionState) : Prop where
  comparisons : ∀ row ∈ state.comparisons.rows, row.HasResult
  edges : ∀ row ∈ state.separationEdges.rows, row.originRefA < row.originRefB

/-! The statements. -/

theorem lt_of_orderedPair {left right : String} {pair : String × String}
    (h : orderedPair left right = .ok pair) : pair.1 < pair.2 := by
  unfold orderedPair at h
  split at h
  · cases h
  next hne =>
  split at h
  · next hle =>
    simp only [Except.ok.injEq] at h
    rw [← h]
    exact lt_of_le_of_ne hle hne
  · next hle =>
    simp only [Except.ok.injEq] at h
    rw [← h]
    exact not_le.mp hle

theorem mem_of_insertComparison {state next : ReductionState} {row : ComparisonRow} {flag : Bool}
    (h : insertComparison state row = .ok (flag, next)) {other : ComparisonRow}
    (hother : other ∈ next.comparisons.rows) : other ∈ state.comparisons.rows ∨ other = row := by
  unfold insertComparison at h
  split at h
  · simp only [Except.ok.injEq, Prod.mk.injEq] at h
    rw [← h.2] at hother
    exact .inl hother
  split at h
  · cases h
  split at h
  · cases h
  · simp only [Except.ok.injEq, Prod.mk.injEq] at h
    rw [← h.2] at hother
    rcases Table.mem_insertOrIgnore.mp hother with hold | ⟨_, hnew⟩
    · exact .inl hold
    · exact .inr hnew

theorem resultsStored_insertComparison {state next : ReductionState} {row : ComparisonRow}
    {flag : Bool} (hstored : ResultsStored state) (hrow : row.HasResult)
    (h : insertComparison state row = .ok (flag, next)) : ResultsStored next := by
  constructor
  · intro other hother
    rcases mem_of_insertComparison h hother with hold | rfl
    · exact hstored.comparisons other hold
    · exact hrow
  · obtain ⟨comparisons, rfl⟩ := insertComparison_frame h
    exact hstored.edges

theorem resultsStored_insertMergedComparison {state next : ReductionState} {group : GroupKey}
    {roundIndex : Nat} {left right result : String} {createdAt : Int} {flag : Bool}
    (hstored : ResultsStored state)
    (h : insertMergedComparison state group roundIndex left right result createdAt =
      .ok (flag, next)) : ResultsStored next := by
  unfold insertMergedComparison at h
  obtain ⟨pair, hpair, hinsert⟩ := bind_eq_ok.mp h
  exact resultsStored_insertComparison hstored ⟨.inl rfl,
    ne_of_lt (lt_of_orderedPair hpair)⟩ hinsert

theorem resultsStored_insertNotMergedComparison {state next : ReductionState} {group : GroupKey}
    {roundIndex : Nat} {left right : String} {createdAt : Int} {flag : Bool}
    (hstored : ResultsStored state)
    (h : insertNotMergedComparison state group roundIndex left right createdAt =
      .ok (flag, next)) : ResultsStored next := by
  unfold insertNotMergedComparison at h
  obtain ⟨pair, hpair, hinsert⟩ := bind_eq_ok.mp h
  exact resultsStored_insertComparison hstored ⟨.inr rfl,
    ne_of_lt (lt_of_orderedPair hpair)⟩ hinsert

theorem resultsStored_insertOriginSeparationEdge {state next : ReductionState} {group : GroupKey}
    {originA originB : String} {batch item attempt source : Option String} {establishedAt : Int}
    {flag : Bool} (hstored : ResultsStored state)
    (h : insertOriginSeparationEdge state group originA originB batch item attempt source
      establishedAt = .ok (flag, next)) : ResultsStored next := by
  constructor
  · obtain ⟨separationEdges, rfl⟩ := insertOriginSeparationEdge_frame h
    exact hstored.comparisons
  intro edge hedge
  unfold insertOriginSeparationEdge at h
  obtain ⟨pair, hpair, hinsert⟩ := bind_eq_ok.mp h
  simp only at hinsert
  split at hinsert
  · simp only [Except.ok.injEq, Prod.mk.injEq] at hinsert
    rw [← hinsert.2] at hedge
    exact hstored.edges edge hedge
  split at hinsert
  · cases hinsert
  split at hinsert
  · cases hinsert
  · simp only [Except.ok.injEq, Prod.mk.injEq] at hinsert
    rw [← hinsert.2] at hedge
    rcases Table.mem_insertOrIgnore.mp hedge with hold | ⟨_, rfl⟩
    · exact hstored.edges edge hold
    · exact lt_of_orderedPair hpair

theorem resultsStored_upsertMergedComponent {state next : ReductionState} {group : GroupKey}
    {resultNodeRef : String} {sourceNodeRefs sourceClaimRefs : List String} {createdAt : Int}
    (h : upsertMergedComponent state group resultNodeRef sourceNodeRefs sourceClaimRefs createdAt =
      .ok next) (hstored : ResultsStored state) : ResultsStored next := by
  obtain ⟨components, incompatibilities, rfl⟩ := upsertMergedComponent_frame h
  exact ⟨hstored.comparisons, hstored.edges⟩

/-! The writers. -/

variable {env : CompactionEnv}

/-- The merged comparisons of one output. -/
theorem resultsStored_mergedComparisons {state next : ReductionState} {group : GroupKey}
    {roundIndex : Nat} {nodeRef : String} {createdAt : Int} {pairs : List (String × String)}
    {first last : Nat} (hstored : ResultsStored state)
    (h : pairs.foldlM (fun (count, current) pair => do
      let (inserted, following) ← insertMergedComparison current group roundIndex pair.1 pair.2
        nodeRef createdAt
      pure (if inserted then count + 1 else count, following)) (first, state) =
        (.ok (last, next) : Except Fault (Nat × ReductionState))) : ResultsStored next := by
  refine invariant_foldlM (fun progress : Nat × ReductionState => ResultsStored progress.2) ?_ h
    hstored
  intro pair _ before after hstep hbefore
  obtain ⟨inserted, hinserted, hpure⟩ := bind_eq_ok.mp hstep
  simp only [pure, Except.pure, Except.ok.injEq] at hpure
  rw [← hpure]
  exact resultsStored_insertMergedComparison hbefore hinserted

theorem resultsStored_applyCompactedClaim {command : ApplyCompactedClaims}
    {sets : List (String × List String)} {claim : OutputClaim}
    {before after : ApplyCounts × ReductionState} (hstored : ResultsStored before.2)
    (h : applyCompactedClaim env command sets before claim = .ok after) :
    ResultsStored after.2 := by
  unfold applyCompactedClaim at h
  obtain ⟨merged, hmerged, hrest⟩ := bind_eq_ok.mp h
  obtain ⟨⟨count, compared⟩, hcompared, hpure⟩ := bind_eq_ok.mp hrest
  simp only [pure, Except.pure, Except.ok.injEq] at hpure
  have hopened := resultsStored_upsertMergedComponent hmerged ⟨hstored.comparisons, hstored.edges⟩
  rw [← hpure]
  exact resultsStored_mergedComparisons hopened hcompared

theorem resultsStored_separateOutputPair {command : ApplyCompactedClaims}
    {outputNodeRefs : List String} {pair : String × String}
    {before after : ApplyCounts × ReductionState} (hstored : ResultsStored before.2)
    (h : separateOutputPair command outputNodeRefs before pair = .ok after) :
    ResultsStored after.2 := by
  unfold separateOutputPair at h
  obtain ⟨ordered, _, hinsert⟩ := bind_eq_ok.mp h
  obtain ⟨⟨inserted, compared⟩, hinserted, hrest⟩ := bind_eq_ok.mp hinsert
  obtain ⟨separated, hseparated, hpure⟩ := bind_eq_ok.mp hrest
  simp only [pure, Except.pure, Except.ok.injEq] at hpure
  rw [← hpure]
  refine invariant_foldlM ResultsStored ?_ hseparated
    (resultsStored_insertNotMergedComparison hstored hinserted)
  intro origins _ current next hstep hcurrent
  obtain ⟨edge, hedge, hnext⟩ := bind_eq_ok.mp hstep
  simp only [pure, Except.pure, Except.ok.injEq] at hnext
  rw [← hnext]
  exact resultsStored_insertOriginSeparationEdge hcurrent hedge

theorem resultsStored_apply {state after : ReductionState} {result : CompactionResult}
    {counts : ApplyPersistenceResult} (hstored : ResultsStored state)
    (h : result.apply env state = .ok (counts, after)) : ResultsStored after := by
  cases result with
  | compacted command =>
    change applyCompactedClaimsResult env state command = _ at h
    unfold applyCompactedClaimsResult at h
    obtain ⟨applied, happlied, hrest⟩ := bind_eq_ok.mp h
    obtain ⟨⟨_, separated⟩, hseparated, hpure⟩ := bind_eq_ok.mp hrest
    simp only [pure, Except.pure, Except.ok.injEq, Prod.mk.injEq] at hpure
    have hclaims : ResultsStored applied.2 :=
      invariant_foldlM (fun progress : ApplyCounts × ReductionState => ResultsStored progress.2)
        (fun _ _ _ _ hstep hbefore => resultsStored_applyCompactedClaim hbefore hstep) happlied
        hstored
    rw [← hpure.2]
    exact invariant_foldlM
      (fun progress : ApplyCounts × ReductionState => ResultsStored progress.2)
      (fun _ _ _ _ hstep hbefore => resultsStored_separateOutputPair hbefore hstep) hseparated
      hclaims
  | rewrite command =>
    change applyReducedRewriteResult env state command = _ at h
    simp only [applyReducedRewriteResult, bind_eq_ok] at h
    obtain ⟨sourceNodes, _, claim, _, merged, hmerged, ⟨count, compared⟩, hcompared, hpure⟩ := h
    simp only [pure, Except.pure, Except.ok.injEq, Prod.mk.injEq] at hpure
    have hopened := resultsStored_upsertMergedComponent hmerged
      ⟨hstored.comparisons, hstored.edges⟩
    rw [← hpure.2]
    exact resultsStored_mergedComparisons hopened hcompared

/-- Seeding records neither comparisons nor edges. -/
theorem resultsStored_seedInitialPlannerState {state : ReductionState} (group : GroupKey)
    (seeds : List RawNodeSeed) (createdAt : Int) (hstored : ResultsStored state) :
    ResultsStored (seedInitialPlannerState state group seeds createdAt).2 := by
  have hfold : ∀ progress : (Nat × Nat) × ReductionState, ResultsStored progress.2 →
      ResultsStored (seeds.foldl (seedRawNode group createdAt) progress).2 := by
    induction seeds with
    | nil => exact fun _ h => h
    | cons seed rest ih =>
      intro progress h
      exact ih _ ⟨h.comparisons, h.edges⟩
  exact hfold ((0, 0), state) hstored

/-! Nodes. -/

/-- The rows of a result are compacted nodes, named after their claims. -/
structure IsOutputNode (env : CompactionEnv) (row : NodeRow) : Prop where
  kind : row.nodeKind = .compacted
  named : row.nodeRef = compactedClaimNodeRef env row.group row.sourceClaimRefs
  sources_ne_nil : row.sourceClaimRefs ≠ []

/-- What inserting outputs and deactivating nodes preserves, a result preserves. -/
theorem apply_nodes_induction (holds : Table NodeRow.nodeRef → Prop)
    (hinsert : ∀ nodes row, IsOutputNode env row → holds nodes → holds (nodes.insertOrIgnore row))
    (hdeactivate : ∀ nodes nodeRefs now, holds nodes → holds (deactivateNodes nodes nodeRefs now))
    {state after : ReductionState} {result : CompactionResult} {counts : ApplyPersistenceResult}
    (h : result.apply env state = .ok (counts, after)) (hstart : holds state.nodes) :
    holds after.nodes := by
  cases result with
  | compacted command =>
    rw [(applyCompactedClaimsResult_nodes h).2]
    generalize sourceClaimRefsByNodeRef (comparedNodes state.nodes command) = sets
    generalize command.compactedClaims = claims
    generalize state.nodes = nodes at hstart
    induction claims generalizing nodes with
    | nil => exact hstart
    | cons claim rest ih =>
      apply ih
      apply hdeactivate
      exact hinsert _ _ ⟨rfl, rfl, claim.sourceClaimRefs_ne_nil⟩ hstart
  | rewrite command =>
    obtain ⟨claim, hnodes⟩ := applyReducedRewriteResult_nodes h
    rw [hnodes]
    apply hdeactivate
    exact hinsert _ _ ⟨rfl, rfl, claim.sourceClaimRefs_ne_nil⟩ hstart

/-- Seeding inserts the raw nodes of its seeds. -/
theorem nodes_seedInitialPlannerState (state : ReductionState) (group : GroupKey)
    (seeds : List RawNodeSeed) (createdAt : Int) :
    (seedInitialPlannerState state group seeds createdAt).2.nodes =
      (seeds.map (initialRawNode group createdAt)).foldl Table.insertOrIgnore state.nodes := by
  have hfold : ∀ progress : (Nat × Nat) × ReductionState,
      (seeds.foldl (seedRawNode group createdAt) progress).2.nodes =
        (seeds.map (initialRawNode group createdAt)).foldl Table.insertOrIgnore
          progress.2.nodes := by
    induction seeds with
    | nil => exact fun _ => rfl
    | cons seed rest ih => exact fun progress => ih (seedRawNode group createdAt progress seed)
  exact hfold ((0, 0), state)

theorem deactivated_nodeKind (nodeRefs : List String) (now : Int) (node : NodeRow) :
    (deactivated nodeRefs now node).nodeKind = node.nodeKind := by
  unfold deactivated
  split <;> rfl

theorem IsOutputNode.deactivated {row : NodeRow} (h : IsOutputNode env row)
    (nodeRefs : List String) (now : Int) : IsOutputNode env (deactivated nodeRefs now row) where
  kind := by rw [deactivated_nodeKind, h.kind]
  named := by
    rw [deactivated_nodeRef, deactivated_group, deactivated_sourceClaimRefs]
    exact h.named
  sources_ne_nil := by
    rw [deactivated_sourceClaimRefs]
    exact h.sources_ne_nil

/-! Planning. -/

section Planning

variable {state : ReductionState} {group : GroupKey} {planner : PlannerState}

theorem wellFormed_of_loadPlannerState (hresults : ResultsStored state)
    (hsources : ∀ row ∈ state.nodes.rows, row.sourceClaimRefs ≠ [])
    (h : loadPlannerState state group = some planner) : planner.WellFormed := by
  have hnodes := @mem_loadedNodes _ _ _ h
  simp only [loadPlannerState] at h
  split at h
  · cases h
  simp only [Option.some.injEq] at h
  refine ⟨?_, fun node hnode => hsources node (hnodes.mp hnode).1, ?_, ?_⟩
  · rw [← h, ((List.perm_insertionSort _ _).map NodeRow.nodeRef).nodup_iff]
    exact state.nodes.key_nodup.sublist (List.filter_sublist.map _)
  · intro comparison hcomparison
    rw [← h, List.mem_insertionSort] at hcomparison
    exact (hresults.comparisons comparison (List.mem_of_mem_filter hcomparison)).2
  · intro edge hedge
    rw [← h, List.mem_insertionSort] at hedge
    exact hresults.edges edge (List.mem_of_mem_filter hedge)

/-- No comparison is left without a result. -/
theorem not_unfinishedPair (hresults : ResultsStored state)
    (h : loadPlannerState state group = some planner) (left right : NodeRow) :
    ¬ UnfinishedPair planner left right := by
  have hstatus : ∀ status,
      comparisonStatus planner.comparisons left.nodeRef right.nodeRef = some status →
        status = .merged ∨ status = .notMerged := by
    intro status hfound
    obtain ⟨comparison, hmem, rfl, _⟩ := exists_of_comparisonStatus hfound
    simp only [loadPlannerState] at h
    split at h
    · cases h
    simp only [Option.some.injEq] at h
    rw [← h, List.mem_insertionSort] at hmem
    exact (hresults.comparisons comparison (List.mem_of_mem_filter hmem)).1
  rintro (hpending | hwaiting | hsuperseded)
  · simpa using hstatus _ hpending
  · simpa using hstatus _ hwaiting
  · simpa using hstatus _ hsuperseded

theorem budgetFit_of_loadPlannerState (h : loadPlannerState state group = some planner) :
    planner.budgetFit = .fitsPrimary := by
  simp only [loadPlannerState] at h
  split at h
  · cases h
  · simp only [Option.some.injEq] at h
    rw [← h]

/-- Planning of a group is done only when every pair of its active nodes is
decided. -/
theorem decided_of_done (hresults : ResultsStored state)
    (hsources : ∀ row ∈ state.nodes.rows, row.sourceClaimRefs ≠ [])
    (h : loadPlannerState state group = some planner)
    (hdone : (planNextStep planner).nextWorkItem.workType = .done) {left right : NodeRow}
    (hleft : left ∈ orderedActiveNodes planner) (hright : right ∈ orderedActiveNodes planner)
    (hne : left.nodeRef ≠ right.nodeRef) : Decided planner left right := by
  have hstate := wellFormed_of_loadPlannerState hresults hsources h
  have hbudget : planner.budgetFit ≠ .tooLargeEvenReduced := by
    rw [budgetFit_of_loadPlannerState h]
    decide
  suffices hexact : ExactOutcome planner from hexact.done hdone left hleft right hright hne
  by_cases hwork : WorkRemains planner
  · exact exactOutcome_of_work hbudget hwork
  rw [exactOutcome_iff_leftovers hstate hbudget hwork]
  refine ⟨fun first second hlarge => ?_, .inr fun pair _ hstale => ?_⟩
  · -- the user would be asked about a pair that is too large
    have hfound := find?_tooLarge_eq_some_iff.mpr hlarge
    simp [planNextStep, hbudget, planOrdinaryStep_eq_none_iff_work.mpr hwork,
      firstUnresolvedPrimaryTooLargePair, hfound, waitDecision, budgeted] at hdone
  · exact absurd hstale (not_unfinishedPair hresults h pair.1 pair.2)

end Planning

end CrmBot.Compaction
