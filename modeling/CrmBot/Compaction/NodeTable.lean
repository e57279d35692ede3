import CrmBot.Compaction.ApplyCompactedClaims

/-! What one application does to the node table.

Components, comparisons and separation edges never write to the node table, so
a successful application acts on it as a fold of insertions and deactivations.
With distinct outputs that fold has a closed form. -/

namespace CrmBot.Compaction

open Relational CrmBot.Python FailingFold

/-! The other tables leave the nodes alone -/

theorem insertComparison_frame {state next : ReductionState} {row : ComparisonRow} {flag : Bool}
    (h : insertComparison state row = .ok (flag, next)) :
    ∃ comparisons, next = { state with comparisons := comparisons } := by
  unfold insertComparison at h
  split at h
  · simp only [Except.ok.injEq, Prod.mk.injEq] at h
    exact ⟨state.comparisons, h.2.symm⟩
  split at h
  · cases h
  split at h
  · cases h
  · simp only [Except.ok.injEq, Prod.mk.injEq] at h
    exact ⟨_, h.2.symm⟩

theorem insertMergedComparison_frame {state next : ReductionState} {group : GroupKey}
    {roundIndex : Nat} {left right result : String} {createdAt : Int} {flag : Bool}
    (h : insertMergedComparison state group roundIndex left right result createdAt =
      .ok (flag, next)) : ∃ comparisons, next = { state with comparisons := comparisons } := by
  unfold insertMergedComparison at h
  obtain ⟨pair, _, hinsert⟩ := bind_eq_ok.mp h
  exact insertComparison_frame hinsert

theorem insertMergedComparison_nodes {state next : ReductionState} {group : GroupKey}
    {roundIndex : Nat} {left right result : String} {createdAt : Int} {flag : Bool}
    (h : insertMergedComparison state group roundIndex left right result createdAt =
      .ok (flag, next)) : next.nodes = state.nodes := by
  obtain ⟨comparisons, rfl⟩ := insertMergedComparison_frame h
  rfl

theorem insertNotMergedComparison_frame {state next : ReductionState} {group : GroupKey}
    {roundIndex : Nat} {left right : String} {createdAt : Int} {flag : Bool}
    (h : insertNotMergedComparison state group roundIndex left right createdAt =
      .ok (flag, next)) : ∃ comparisons, next = { state with comparisons := comparisons } := by
  unfold insertNotMergedComparison at h
  obtain ⟨pair, _, hinsert⟩ := bind_eq_ok.mp h
  exact insertComparison_frame hinsert

theorem insertOriginSeparationEdge_frame {state next : ReductionState} {group : GroupKey}
    {originA originB : String} {batch item attempt source : Option String} {at_ : Int}
    {flag : Bool}
    (h : insertOriginSeparationEdge state group originA originB batch item attempt source at_ =
      .ok (flag, next)) :
    ∃ separationEdges, next = { state with separationEdges := separationEdges } := by
  unfold insertOriginSeparationEdge at h
  obtain ⟨pair, _, hinsert⟩ := bind_eq_ok.mp h
  simp only at hinsert
  split at hinsert
  · simp only [Except.ok.injEq, Prod.mk.injEq] at hinsert
    exact ⟨state.separationEdges, hinsert.2.symm⟩
  split at hinsert
  · cases hinsert
  split at hinsert
  · cases hinsert
  · simp only [Except.ok.injEq, Prod.mk.injEq] at hinsert
    exact ⟨_, hinsert.2.symm⟩

theorem insertComponentIncompatibility_frame {state next : ReductionState} {group : GroupKey}
    {left right : String} {source : Option String} {createdAt : Int}
    (h : insertComponentIncompatibility state group left right source createdAt = .ok next) :
    ∃ incompatibilities, next = { state with incompatibilities := incompatibilities } := by
  unfold insertComponentIncompatibility at h
  split at h
  · simp only [Except.ok.injEq] at h
    exact ⟨state.incompatibilities, h.symm⟩
  obtain ⟨pair, _, hinsert⟩ := bind_eq_ok.mp h
  simp only at hinsert
  split at hinsert
  · simp only [Except.ok.injEq] at hinsert
    exact ⟨state.incompatibilities, hinsert.symm⟩
  split at hinsert
  · cases hinsert
  split at hinsert
  · cases hinsert
  · simp only [Except.ok.injEq] at hinsert
    exact ⟨_, hinsert.symm⟩

theorem upsertMergedComponent_frame {state next : ReductionState} {group : GroupKey}
    {resultNodeRef : String} {sourceNodeRefs sourceClaimRefs : List String} {createdAt : Int}
    (h : upsertMergedComponent state group resultNodeRef sourceNodeRefs sourceClaimRefs createdAt =
      .ok next) :
    ∃ components incompatibilities,
      next = { state with components := components, incompatibilities := incompatibilities } := by
  unfold upsertMergedComponent at h
  simp only at h
  split at h
  · cases h
  · refine invariant_foldlM (fun current : ReductionState =>
      ∃ components incompatibilities, current =
        { state with components := components, incompatibilities := incompatibilities }) ?_ h
      ⟨_, state.incompatibilities, rfl⟩
    rintro inheritedRef _ current following hstep ⟨components, incompatibilities, rfl⟩
    obtain ⟨added, rfl⟩ := insertComponentIncompatibility_frame hstep
    exact ⟨components, added, rfl⟩

theorem upsertMergedComponent_nodes {state next : ReductionState} {group : GroupKey}
    {resultNodeRef : String} {sourceNodeRefs sourceClaimRefs : List String} {createdAt : Int}
    (h : upsertMergedComponent state group resultNodeRef sourceNodeRefs sourceClaimRefs createdAt =
      .ok next) : next.nodes = state.nodes := by
  obtain ⟨components, incompatibilities, rfl⟩ := upsertMergedComponent_frame h
  rfl

/-! One output claim -/

/-- The node statements of the loop body for one output claim. -/
def nodesAfterClaim (env : CompactionEnv) (command : ApplyCompactedClaims)
    (comparedSourceSets : List (String × List String)) (nodes : Table NodeRow.nodeRef)
    (claim : OutputClaim) : Table NodeRow.nodeRef :=
  let sourceNodeRefs := claimSourceNodeRefs command comparedSourceSets claim
  deactivateNodes (nodes.insertOrIgnore (compactedNodeRow env command claim sourceNodeRefs))
    sourceNodeRefs command.createdAt

theorem applyCompactedClaim_nodes {env : CompactionEnv} {command : ApplyCompactedClaims}
    {sets : List (String × List String)} {claim : OutputClaim}
    {before after : ApplyCounts × ReductionState}
    (h : applyCompactedClaim env command sets before claim = .ok after) :
    after.2.nodes = nodesAfterClaim env command sets before.2.nodes claim := by
  unfold applyCompactedClaim at h
  obtain ⟨merged, hmerged, hrest⟩ := bind_eq_ok.mp h
  obtain ⟨compared, hcompared, hresult⟩ := bind_eq_ok.mp hrest
  simp only [pure, Except.pure, Except.ok.injEq] at hresult
  have hkeep : compared.2.nodes = merged.nodes := by
    refine view_foldlM_eq (fun progress : Nat × ReductionState => progress.2.nodes)
      ?_ hcompared
    intro pair _ current next hstep
    obtain ⟨inserted, hinserted, hnext⟩ := bind_eq_ok.mp hstep
    simp only [pure, Except.pure, Except.ok.injEq] at hnext
    rw [← hnext]
    exact insertMergedComparison_nodes hinserted
  rw [← hresult, hkeep, upsertMergedComponent_nodes hmerged]
  rfl

theorem separateOutputPair_nodes {command : ApplyCompactedClaims} {outputNodeRefs : List String}
    {pair : String × String} {before after : ApplyCounts × ReductionState}
    (h : separateOutputPair command outputNodeRefs before pair = .ok after) :
    after.2.nodes = before.2.nodes := by
  unfold separateOutputPair at h
  obtain ⟨ordered, _, hinsert⟩ := bind_eq_ok.mp h
  obtain ⟨inserted, hinserted, hrest⟩ := bind_eq_ok.mp hinsert
  obtain ⟨separated, hseparated, hresult⟩ := bind_eq_ok.mp hrest
  simp only [pure, Except.pure, Except.ok.injEq] at hresult
  have hkeep : separated.nodes = inserted.2.nodes := by
    refine view_foldlM_eq ReductionState.nodes ?_ hseparated
    intro origins _ current next hstep
    obtain ⟨edge, hedge, hnext⟩ := bind_eq_ok.mp hstep
    simp only [pure, Except.pure, Except.ok.injEq] at hnext
    rw [← hnext]
    obtain ⟨separationEdges, hframe⟩ := insertOriginSeparationEdge_frame hedge
    rw [hframe]
  obtain ⟨comparisons, hframe⟩ := insertNotMergedComparison_frame hinserted
  rw [← hresult]
  exact hkeep.trans (by rw [hframe])

/-- A pair of outputs with one reference is refused. -/
theorem separateOutputPair_ne {command : ApplyCompactedClaims} {outputNodeRefs : List String}
    {pair : String × String} {before after : ApplyCounts × ReductionState}
    (h : separateOutputPair command outputNodeRefs before pair = .ok after) :
    pair.1 ≠ pair.2 := by
  unfold separateOutputPair at h
  obtain ⟨ordered, hordered, _⟩ := bind_eq_ok.mp h
  intro heq
  simp [orderedPair, heq] at hordered

/-! The whole application -/

def comparedNodes (nodes : Table NodeRow.nodeRef) (command : ApplyCompactedClaims) :
    List NodeRow :=
  loadComparedNodesForApply nodes command.group command.comparedNodeRefs

def outputNodeRef (env : CompactionEnv) (command : ApplyCompactedClaims) (claim : OutputClaim) :
    String :=
  compactedClaimNodeRef env command.group claim.sourceClaimRefs

/-- A successful application has pairwise distinct output references, and its
node table is the fold of the per-claim statements. -/
theorem applyCompactedClaimsResult_nodes {env : CompactionEnv} {state after : ReductionState}
    {command : ApplyCompactedClaims} {result : ApplyPersistenceResult}
    (h : applyCompactedClaimsResult env state command = .ok (result, after)) :
    (command.compactedClaims.map (outputNodeRef env command)).Nodup ∧
      after.nodes = command.compactedClaims.foldl
        (nodesAfterClaim env command (sourceClaimRefsByNodeRef (comparedNodes state.nodes command)))
        state.nodes := by
  unfold applyCompactedClaimsResult at h
  obtain ⟨applied, happlied, hrest⟩ := bind_eq_ok.mp h
  obtain ⟨separated, hseparated, hresult⟩ := bind_eq_ok.mp hrest
  simp only [pure, Except.pure, Except.ok.injEq, Prod.mk.injEq] at hresult
  constructor
  · have hpairs : ∀ pair ∈ nodeRefPairs (command.compactedClaims.map (outputNodeRef env command)),
        pair.1 ≠ pair.2 := by
      intro pair hpair
      obtain ⟨_, _, hstep⟩ := exists_step_of_foldlM hseparated pair hpair
      exact separateOutputPair_ne hstep
    exact (sorted_perm _).nodup_iff.mp ((forall_laterPairs_ne_iff _).mp hpairs)
  · have hkeep : separated.2.nodes = applied.2.nodes :=
      view_foldlM_eq (fun progress : ApplyCounts × ReductionState => progress.2.nodes)
        (fun _ _ _ _ hstep => separateOutputPair_nodes hstep) hseparated
    rw [← hresult.2, hkeep]
    exact view_foldlM (fun progress : ApplyCounts × ReductionState => progress.2.nodes)
      (nodesAfterClaim env command
        (sourceClaimRefsByNodeRef (comparedNodes state.nodes command)))
      (fun _ _ _ _ hstep => applyCompactedClaim_nodes hstep) happlied

/-! The closed form -/

/-- What the deactivating update does to one row. -/
def deactivated (nodeRefs : List String) (now : Int) (row : NodeRow) : NodeRow :=
  if nodeRefs.contains row.nodeRef && row.active then
    { row with active := false, updatedAt := now }
  else row

theorem rows_deactivateNodes (nodes : Table NodeRow.nodeRef) (nodeRefs : List String) (now : Int) :
    (deactivateNodes nodes nodeRefs now).rows = nodes.rows.map (deactivated nodeRefs now) := rfl

@[simp] theorem keys_deactivateNodes (nodes : Table NodeRow.nodeRef) (nodeRefs : List String)
    (now : Int) : (deactivateNodes nodes nodeRefs now).keys = nodes.keys :=
  Table.keys_updateWhere ..

theorem deactivated_of_notMem {nodeRefs : List String} {now : Int} {row : NodeRow}
    (h : row.nodeRef ∉ nodeRefs) : deactivated nodeRefs now row = row := by
  simp [deactivated, h]

theorem deactivated_append (first second : List String) (now : Int) (row : NodeRow) :
    deactivated second now (deactivated first now row) =
      deactivated (first ++ second) now row := by
  by_cases hfirst : row.nodeRef ∈ first <;> by_cases hsecond : row.nodeRef ∈ second <;>
    cases hactive : row.active <;> simp [deactivated, hfirst, hsecond, hactive]

theorem mem_keys_nodesAfterClaim {env : CompactionEnv} {command : ApplyCompactedClaims}
    {sets : List (String × List String)} {nodes : Table NodeRow.nodeRef} {claim : OutputClaim}
    {nodeRef : String} :
    nodeRef ∈ (nodesAfterClaim env command sets nodes claim).keys ↔
      nodeRef ∈ nodes.keys ∨ nodeRef = outputNodeRef env command claim := by
  unfold nodesAfterClaim
  rw [keys_deactivateNodes, Table.keys_insertOrIgnore]
  rfl

/-- With distinct outputs whose new nodes are nobody's source, the old rows are
deactivated by the references of all claims together and the new rows follow. -/
theorem rows_foldl_nodesAfterClaim (env : CompactionEnv) (command : ApplyCompactedClaims)
    (sets : List (String × List String)) (claims : List OutputClaim)
    (nodes : Table NodeRow.nodeRef)
    (hnodup : (claims.map (outputNodeRef env command)).Nodup)
    (hnew : ∀ claim ∈ claims, outputNodeRef env command claim ∉ nodes.keys →
      ∀ other ∈ claims, outputNodeRef env command claim ∉ claimSourceNodeRefs command sets other) :
    (claims.foldl (nodesAfterClaim env command sets) nodes).rows =
      nodes.rows.map (deactivated (claims.flatMap (claimSourceNodeRefs command sets))
        command.createdAt) ++
      (claims.filter fun claim => outputNodeRef env command claim ∉ nodes.keys).map fun claim =>
        compactedNodeRow env command claim (claimSourceNodeRefs command sets claim) := by
  induction claims generalizing nodes with
  | nil =>
    have hid : ∀ row, deactivated [] command.createdAt row = row := fun row =>
      deactivated_of_notMem List.not_mem_nil
    simp [funext hid]
  | cons claim rest ih =>
    rw [List.map_cons, List.nodup_cons] at hnodup
    have hother : ∀ other ∈ rest,
        outputNodeRef env command other ≠ outputNodeRef env command claim := by
      intro other hmem heq
      exact hnodup.1 (heq ▸ List.mem_map_of_mem hmem)
    have hkeys : ∀ other ∈ rest,
        (outputNodeRef env command other ∉ (nodesAfterClaim env command sets nodes claim).keys ↔
          outputNodeRef env command other ∉ nodes.keys) := by
      intro other hmem
      rw [mem_keys_nodesAfterClaim]
      simp [hother other hmem]
    have hrest := ih (nodesAfterClaim env command sets nodes claim) hnodup.2 (by
      intro other hmem hfresh third hthird
      exact hnew other (List.mem_cons_of_mem _ hmem) ((hkeys other hmem).mp hfresh) third
        (List.mem_cons_of_mem _ hthird))
    rw [List.foldl_cons, hrest, List.filter_congr fun other hmem => decide_eq_decide.mpr
      (hkeys other hmem)]
    unfold nodesAfterClaim
    rw [rows_deactivateNodes, Table.rows_insertOrIgnore, List.map_append, List.map_append,
      List.map_map, List.flatMap_cons]
    have hold : (deactivated (rest.flatMap (claimSourceNodeRefs command sets)) command.createdAt ∘
        deactivated (claimSourceNodeRefs command sets claim) command.createdAt) =
        deactivated (claimSourceNodeRefs command sets claim ++
          rest.flatMap (claimSourceNodeRefs command sets)) command.createdAt :=
      funext fun row => deactivated_append _ _ _ row
    rw [hold, List.append_assoc]
    congr 1
    by_cases hmem : outputNodeRef env command claim ∈ nodes.keys
    · have hkey : (compactedNodeRow env command claim
          (claimSourceNodeRefs command sets claim)).nodeRef ∈ nodes.keys := hmem
      rw [if_pos hkey, List.filter_cons_of_neg (by simpa using hmem)]
      rfl
    · have hkey : (compactedNodeRow env command claim
          (claimSourceNodeRefs command sets claim)).nodeRef ∉ nodes.keys := hmem
      have hsource := hnew claim List.mem_cons_self hmem
      rw [if_neg hkey, List.filter_cons_of_pos (by simpa using hmem), List.map_singleton,
        List.map_singleton, deactivated_append, deactivated_of_notMem, List.map_cons]
      · rfl
      · rw [List.mem_append, List.mem_flatMap]
        rintro (hown | ⟨other, hmemOther, hshared⟩)
        · exact hsource claim List.mem_cons_self hown
        · exact hsource other (List.mem_cons_of_mem _ hmemOther) hshared

end CrmBot.Compaction
