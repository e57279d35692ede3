import CrmBot.Compaction.GroupState

/-! A result that regroups claims of a group is applied, and the group stays as it
writes its rows. -/

namespace CrmBot.Compaction

open Relational CrmBot.Python FailingFold

variable {env : CompactionEnv} {group : GroupKey} {claims : List String}

/-! Comparisons. -/

theorem exists_orderedPair {left right : String} (hne : left ≠ right) :
    ∃ pair, orderedPair left right = .ok pair ∧ (pair = (left, right) ∨ pair = (right, left)) := by
  unfold orderedPair
  rw [if_neg hne]
  split
  · exact ⟨_, rfl, .inl rfl⟩
  · exact ⟨_, rfl, .inr rfl⟩

/-- The state of a group that has grown by other rows than nodes. -/
structure KeepsNodes (env : CompactionEnv) (group : GroupKey) (claims : List String)
    (before after : ReductionState) : Prop where
  state : GroupState env group claims after
  grows : Grows before after
  nodes_eq : after.nodes = before.nodes

theorem KeepsNodes.refl {state : ReductionState} (h : GroupState env group claims state) :
    KeepsNodes env group claims state state :=
  ⟨h, .refl state, rfl⟩

theorem KeepsNodes.trans {before middle after : ReductionState}
    (hfirst : KeepsNodes env group claims before middle)
    (hsecond : KeepsNodes env group claims middle after) :
    KeepsNodes env group claims before after :=
  ⟨hsecond.state, hfirst.grows.trans hsecond.grows, hsecond.nodes_eq.trans hfirst.nodes_eq⟩

section Inserts

variable {state : ReductionState} (hnamed : NamedByDigests env group claims)
  (hstate : GroupState env group claims state)

include hnamed hstate

/-- A comparison is inserted, or there is one of the same nodes and round. -/
theorem insertComparison_ends {row : ComparisonRow}
    (hrow : GroupComparison env group claims state.nodes row) :
    Ends (fun result => KeepsNodes env group claims state result.2 ∧
      ∃ other ∈ result.2.comparisons.rows, other.group = group ∧
        other.leftNodeRef = row.leftNodeRef ∧ other.rightNodeRef = row.rightNodeRef ∧
        other.roundIndex = row.roundIndex)
      (fun _ => False) (insertComparison state row) := by
  unfold insertComparison
  split
  · next hany =>
    obtain ⟨old, hold, hfields⟩ := List.any_eq_true.mp hany
    simp only [Bool.and_eq_true, decide_eq_true_eq] at hfields
    exact ⟨.refl hstate, old, hold, hfields.1.1.1.trans hrow.group_eq, hfields.1.1.2,
      hfields.1.2, hfields.2⟩
  next hnone =>
  split
  · next hkey =>
    -- the reference of a comparison tells its nodes and its round
    obtain ⟨old, hold, hname⟩ := Table.mem_keys.mp hkey
    have hours : IsComparisonName env group claims old.comparisonRef :=
      ⟨row.roundIndex, row.leftNodeRef, row.rightNodeRef, hrow.left.1, hrow.right.1,
        hname.trans hrow.ref_eq⟩
    have hcompares := hstate.comparisons old hold (.inr hours)
    obtain ⟨hround, hleft, hright⟩ := hnamed.comparisonRef_inj hcompares.right.1 hrow.right.1
      (hcompares.ref_eq.symm.trans (hname.trans hrow.ref_eq))
    refine hnone (List.any_eq_true.mpr ⟨old, hold, ?_⟩)
    simp [hcompares.group_eq, hrow.group_eq, hround, hleft, hright]
  next hfresh =>
  split
  · next hforeign =>
    rcases hforeign with hleft | hright | ⟨result, hresult, hmissing⟩
    · exact hleft hrow.left.2
    · exact hright hrow.right.2
    · exact hmissing (hrow.result result hresult).2
  · refine ⟨⟨⟨hstate.nodes, hstate.raw_mem, ?_, hstate.separationEdges, hstate.incompatibilities⟩,
      ⟨.refl _, fun old hold => Table.mem_insertOrIgnore.mpr (.inl hold)⟩, rfl⟩, row,
      Table.mem_insertOrIgnore.mpr (.inr ⟨hfresh, rfl⟩), hrow.group_eq, rfl, rfl, rfl⟩
    intro other hother hours
    rcases Table.mem_insertOrIgnore.mp hother with hold | ⟨-, rfl⟩
    · exact hstate.comparisons other hold hours
    · exact hrow

theorem insertMergedComparison_ends {left right result : String} {round : Nat} {createdAt : Int}
    (hleft : IsNodeIn env group claims state.nodes left)
    (hright : IsNodeIn env group claims state.nodes right) (hne : left ≠ right)
    (hresult : IsNodeIn env group claims state.nodes result)
    (hleftOld : Superseded state.nodes left) (hrightOld : Superseded state.nodes right) :
    Ends (fun inserted => KeepsNodes env group claims state inserted.2 ∧
      Compared inserted.2.comparisons group round (left, right))
      (fun _ => False) (insertMergedComparison state group round left right result createdAt) := by
  obtain ⟨pair, hpair, hsides⟩ := exists_orderedPair hne
  unfold insertMergedComparison
  rw [hpair]
  refine (insertComparison_ends hnamed hstate ?_).mono ?_ fun _ => id
  · rcases hsides with rfl | rfl
    · exact ⟨rfl, rfl, hleft, hright, fun other hother => Option.some.inj hother ▸ hresult, hne,
        .inl ⟨rfl, hleftOld, hrightOld⟩⟩
    · exact ⟨rfl, rfl, hright, hleft, fun other hother => Option.some.inj hother ▸ hresult,
        hne.symm, .inl ⟨rfl, hrightOld, hleftOld⟩⟩
  · rintro inserted ⟨hkeeps, other, hother, hfields⟩
    exact ⟨hkeeps, pair, hpair, other, hother, hfields⟩

theorem insertNotMergedComparison_ends {left right : String} {round : Nat} {createdAt : Int}
    (hleft : IsNodeIn env group claims state.nodes left)
    (hright : IsNodeIn env group claims state.nodes right) (hne : left ≠ right)
    (hleftName : IsCompactedName env group claims left)
    (hrightName : IsCompactedName env group claims right) :
    Ends (fun inserted => KeepsNodes env group claims state inserted.2 ∧
      Compared inserted.2.comparisons group round (left, right))
      (fun _ => False) (insertNotMergedComparison state group round left right createdAt) := by
  obtain ⟨pair, hpair, hsides⟩ := exists_orderedPair hne
  have hnever : ∀ other ∈ (none : Option String), IsNodeIn env group claims state.nodes other := by
    intro other hother
    cases hother
  unfold insertNotMergedComparison
  rw [hpair]
  refine (insertComparison_ends hnamed hstate ?_).mono ?_ fun _ => id
  · rcases hsides with rfl | rfl
    · exact ⟨rfl, rfl, hleft, hright, hnever, hne, .inr ⟨rfl, hleftName, hrightName⟩⟩
    · exact ⟨rfl, rfl, hright, hleft, hnever, hne.symm, .inr ⟨rfl, hrightName, hleftName⟩⟩
  · rintro inserted ⟨hkeeps, other, hother, hfields⟩
    exact ⟨hkeeps, pair, hpair, other, hother, hfields⟩

/-- A separation of two claims is inserted, or there is one of the same claims. -/
theorem insertOriginSeparationEdge_ends {originA originB source : String}
    {batch item attempt : Option String} {establishedAt : Int} (hfirst : originA ∈ claims)
    (hsecond : originB ∈ claims) (hne : originA ≠ originB)
    (hsource : source ∈ state.comparisons.keys) :
    Ends (fun inserted => KeepsNodes env group claims state inserted.2 ∧
      inserted.2.comparisons = state.comparisons)
      (fun _ => False) (insertOriginSeparationEdge state group originA originB batch item attempt
        (some source) establishedAt) := by
  obtain ⟨pair, hpair, hsides⟩ := exists_orderedPair hne
  have hmem : pair.1 ∈ claims ∧ pair.2 ∈ claims := by
    rcases hsides with rfl | rfl
    · exact ⟨hfirst, hsecond⟩
    · exact ⟨hsecond, hfirst⟩
  have hlt := lt_of_orderedPair hpair
  unfold insertOriginSeparationEdge
  rw [hpair]
  simp only [bind, Except.bind]
  split
  · exact ⟨.refl hstate, rfl⟩
  next hnone =>
  split
  · next hkey =>
    obtain ⟨old, hold, hname⟩ := Table.mem_keys.mp hkey
    have hours : IsSeparationName group claims old.separationRef :=
      ⟨pair.1, hmem.1, pair.2, hmem.2, hname⟩
    have hseparates := hstate.separationEdges old hold (.inr hours)
    obtain ⟨hsameA, hsameB⟩ := hnamed.originSeparationRef_inj hseparates.originRefB hmem.2
      (hseparates.ref_eq.symm.trans hname)
    refine hnone (List.any_eq_true.mpr ⟨old, hold, ?_⟩)
    simp [hseparates.group_eq, hsameA, hsameB]
  next hfresh =>
  split
  · next hmissing =>
    obtain ⟨other, hother, hmissing⟩ := hmissing
    exact hmissing (Option.some.inj hother ▸ hsource)
  · refine ⟨⟨⟨hstate.nodes, hstate.raw_mem, hstate.comparisons, ?_, hstate.incompatibilities⟩,
      ⟨.refl _, List.Subset.refl _⟩, rfl⟩, rfl⟩
    intro other hother hours
    rcases Table.mem_insertOrIgnore.mp hother with hold | ⟨-, rfl⟩
    · exact hstate.separationEdges other hold hours
    · exact ⟨rfl, rfl, hmem.1, hmem.2, hlt⟩

end Inserts

/-! Components. -/

/-- Without incompatibilities of the group a component is merged as it is. -/
theorem upsertMergedComponent_ends {state : ReductionState}
    (hstate : GroupState env group claims state) {result : String}
    (hresult : result ∈ state.nodes.keys) (sourceNodeRefs sourceClaimRefs : List String)
    (createdAt : Int) :
    Ends (fun next => ∃ components, next = { state with components := components })
      (fun _ => False)
      (upsertMergedComponent state group result sourceNodeRefs sourceClaimRefs createdAt) := by
  have hinherited (refs : List String) :
      inheritedIncompatibleComponentRefs state group refs = [] := by
    have hrows : (state.incompatibilities.rows.filter fun row => row.group = group) = [] := by
      rw [List.filter_eq_nil_iff]
      intro row hrow
      simpa using hstate.incompatibilities row hrow
    unfold inheritedIncompatibleComponentRefs
    rw [hrows]
    rfl
  unfold upsertMergedComponent
  simp only [hinherited]
  rw [if_neg (not_not.mpr hresult)]
  exact ⟨_, rfl⟩

/-! One output claim. -/

/-- What an output claim leaves behind: its sources are superseded and compared,
and its node is there. -/
structure ClaimApplied (env : CompactionEnv) (command : ApplyCompactedClaims) (claim : OutputClaim)
    (sourceNodeRefs : List String) (state : ReductionState) : Prop where
  superseded : ∀ nodeRef ∈ sourceNodeRefs, Superseded state.nodes nodeRef
  compared : ∀ pair ∈ nodeRefPairs sourceNodeRefs,
    Compared state.comparisons command.group command.roundIndex pair
  output_mem : outputNodeRef env command claim ∈ state.nodes.keys

theorem ClaimApplied.mono {command : ApplyCompactedClaims} {claim : OutputClaim}
    {sourceNodeRefs : List String} {before after : ReductionState} (hgrows : Grows before after)
    (h : ClaimApplied env command claim sourceNodeRefs before) :
    ClaimApplied env command claim sourceNodeRefs after where
  superseded := fun nodeRef hmem => hgrows.nodes.superseded (h.superseded nodeRef hmem)
  compared := fun pair hpair => Records.compared_mono hgrows.comparisons (h.compared pair hpair)
  output_mem := hgrows.nodes.keys_subset h.output_mem

/-- The node statements of one output claim. -/
theorem groupState_absorbClaim {state : ReductionState} (hstate : GroupState env group claims state)
    {row : NodeRow} (hgroup : row.group = group)
    (hnames : NamesClaims env group claims row.nodeRef row.sourceClaimRefs)
    (sourceNodeRefs : List String) (now : Int) (nodeSources : Table NodeSourceRow.key) :
    GroupState env group claims { state with
        nodes := deactivateNodes (state.nodes.insertOrIgnore row) sourceNodeRefs now
        nodeSources := nodeSources } ∧
      Grows state { state with
        nodes := deactivateNodes (state.nodes.insertOrIgnore row) sourceNodeRefs now
        nodeSources := nodeSources } := by
  have hpersist : NodesPersist state.nodes
      (deactivateNodes (state.nodes.insertOrIgnore row) sourceNodeRefs now) :=
    (NodesPersist.insertOrIgnore _ row).trans (.deactivateNodes _ _ _)
  refine ⟨⟨?_, fun ref href => hpersist.keys_subset (hstate.raw_mem ref href),
    fun other hother hours => (hstate.comparisons other hother hours).mono hpersist,
    hstate.separationEdges, hstate.incompatibilities⟩, hpersist, List.Subset.refl _⟩
  intro other hother hours
  rw [rows_deactivateNodes] at hother
  obtain ⟨old, hold, rfl⟩ := List.mem_map.mp hother
  rw [deactivated_nodeRef, deactivated_group] at hours
  rw [deactivated_nodeRef, deactivated_group, deactivated_sourceClaimRefs]
  rcases Table.mem_insertOrIgnore.mp hold with hmem | ⟨-, rfl⟩
  · exact hstate.nodes old hmem hours
  · exact ⟨hgroup, hnames⟩

/-- The merged comparisons of superseded nodes. -/
theorem mergedComparisons_ends (hnamed : NamedByDigests env group claims) {state : ReductionState}
    (hstate : GroupState env group claims state) {round : Nat} {result : String} {createdAt : Int}
    (hresult : IsNodeIn env group claims state.nodes result) {pairs : List (String × String)}
    (hpairs : ∀ pair ∈ pairs, pair.1 ≠ pair.2 ∧ IsNodeIn env group claims state.nodes pair.1 ∧
      IsNodeIn env group claims state.nodes pair.2 ∧ Superseded state.nodes pair.1 ∧
      Superseded state.nodes pair.2) :
    Ends (fun progress => KeepsNodes env group claims state progress.2 ∧
        ∀ pair ∈ pairs, Compared progress.2.comparisons group round pair)
      (fun _ => False) (pairs.foldlM (fun (progress : Nat × ReductionState) pair => do
        let (inserted, next) ← insertMergedComparison progress.2 group round pair.1 pair.2 result
          createdAt
        pure (if inserted then progress.1 + 1 else progress.1, next)) ((0 : Nat), state)) := by
  have hadds : ∀ pair ∈ pairs, ∀ before : Nat × ReductionState,
      KeepsNodes env group claims state before.2 →
      Ends (fun after : Nat × ReductionState => KeepsNodes env group claims state after.2 ∧
          Compared after.2.comparisons group round pair ∧
          ∀ other, Compared before.2.comparisons group round other →
            Compared after.2.comparisons group round other)
        (fun _ => False) (do
          let (inserted, next) ← insertMergedComparison before.2 group round pair.1 pair.2 result
            createdAt
          pure (if inserted then before.1 + 1 else before.1, next)) := by
    intro pair hpair before hbefore
    obtain ⟨hne, hleft, hright, hleftOld, hrightOld⟩ := hpairs pair hpair
    rw [← hbefore.nodes_eq] at hleft hright hresult hleftOld hrightOld
    refine Ends.bind (insertMergedComparison_ends hnamed hbefore.state hleft hright hne hresult
      hleftOld hrightOld) fun inserted _ hinserted => ?_
    obtain ⟨hkeeps, hcompared⟩ := hinserted
    exact ⟨hbefore.trans hkeeps, hcompared,
      fun other hother => Records.compared_mono hkeeps.grows.comparisons hother⟩
  refine (Ends.foldlM_forall hadds (.refl hstate)).mono ?_ fun _ => id
  rintro progress ⟨hkeeps, hcompared, -⟩
  exact ⟨hkeeps, hcompared⟩

/-- One output claim of claims of the group. -/
theorem applyCompactedClaim_ends (hnamed : NamedByDigests env group claims)
    {command : ApplyCompactedClaims} (hgroup : command.group = group)
    {sets : List (String × List String)} {claim : OutputClaim}
    (hclaim : claim.sourceClaimRefs ⊆ claims) {progress : ApplyCounts × ReductionState}
    (hstate : GroupState env group claims progress.2)
    (hnodup : (claimSourceNodeRefs command sets claim).Nodup)
    (hsources : ∀ nodeRef ∈ claimSourceNodeRefs command sets claim,
      IsNodeIn env group claims progress.2.nodes nodeRef) :
    Ends (fun next => GroupState env group claims next.2 ∧ Grows progress.2 next.2 ∧
        ClaimApplied env command claim (claimSourceNodeRefs command sets claim) next.2)
      (fun _ => False) (applyCompactedClaim env command sets progress claim) := by
  obtain ⟨counts, state⟩ := progress
  unfold applyCompactedClaim
  simp only at hstate hsources ⊢
  generalize claimSourceNodeRefs command sets claim = sources at hnodup hsources ⊢
  subst hgroup
  have hnames : NamesClaims env command.group claims
      (compactedNodeRow env command claim sources).nodeRef claim.sourceClaimRefs :=
    .inr ⟨claim.sourceClaimRefs_ne_nil, claim.sourceClaimRefs_nodup, hclaim, rfl⟩
  obtain ⟨habsorbed, hgrows⟩ := groupState_absorbClaim hstate rfl hnames sources command.createdAt
    ((claim.sourceClaimRefs.map fun sourceRef =>
      ({ nodeRef := compactedClaimNodeRef env command.group claim.sourceClaimRefs
         sourceRef := sourceRef, sourceKind := .raw
         createdAt := command.createdAt } : NodeSourceRow)).foldl Table.insertOrIgnore
      state.nodeSources)
  have houtput : compactedClaimNodeRef env command.group claim.sourceClaimRefs ∈
      (deactivateNodes (state.nodes.insertOrIgnore (compactedNodeRow env command claim sources))
        sources command.createdAt).keys := by
    rw [keys_deactivateNodes, Table.keys_insertOrIgnore]
    exact .inr rfl
  have hold : ∀ nodeRef ∈ sources, IsNodeIn env command.group claims
      (deactivateNodes (state.nodes.insertOrIgnore (compactedNodeRow env command claim sources))
        sources command.createdAt) nodeRef :=
    fun nodeRef hmem => (hsources nodeRef hmem).mono hgrows.nodes.keys_subset
  have hsuperseded : ∀ nodeRef ∈ sources, Superseded
      (deactivateNodes (state.nodes.insertOrIgnore (compactedNodeRow env command claim sources))
        sources command.createdAt) nodeRef := by
    intro nodeRef hmem
    have hkey := (hsources nodeRef hmem).2
    exact superseded_deactivateNodes (Table.keys_insertOrIgnore.mpr (.inl hkey)) hmem
  refine Ends.bind (upsertMergedComponent_ends habsorbed houtput sources claim.sourceClaimRefs
    command.createdAt) fun merged _ hmerged => ?_
  obtain ⟨components, rfl⟩ := hmerged
  have hpairs : ∀ pair ∈ nodeRefPairs sources, pair.1 ≠ pair.2 ∧ pair.1 ∈ sources ∧
      pair.2 ∈ sources := by
    intro pair hpair
    have hmem := mem_of_mem_laterPairs hpair
    rw [mem_sorted, mem_sorted] at hmem
    exact ⟨(forall_laterPairs_ne_iff _).mpr ((sorted_perm _).nodup_iff.mpr hnodup) pair hpair, hmem⟩
  refine Ends.bind (mergedComparisons_ends hnamed (habsorbed.withComponents components)
    ⟨hnames.isGroupNode, houtput⟩ fun pair hpair => ?_) fun compared _ hcompared => ?_
  · obtain ⟨hne, hleft, hright⟩ := hpairs pair hpair
    exact ⟨hne, hold _ hleft, hold _ hright, hsuperseded _ hleft, hsuperseded _ hright⟩
  · obtain ⟨hkeeps, hall⟩ := hcompared
    refine ⟨hkeeps.state, hgrows.trans ⟨hkeeps.grows.nodes, hkeeps.grows.comparisons⟩, ?_, hall, ?_⟩
    · rw [hkeeps.nodes_eq]
      exact hsuperseded
    · rw [hkeeps.nodes_eq]
      exact houtput

/-! Two output claims. -/

/-- The origins of two outputs are different claims of the outputs. -/
theorem mem_crossOriginPairs {origins : List (List String)} {left right : String}
    {outputs : List String} {pair : String × String}
    (h : pair ∈ crossOriginPairsForOutputPartitions origins left right outputs) :
    pair.1 ≠ pair.2 ∧ (∃ refs ∈ origins, pair.1 ∈ refs) ∧ ∃ refs ∈ origins, pair.2 ∈ refs := by
  have hgetD : ∀ (index : Nat) (ref : String), ref ∈ origins.getD index [] →
      ∃ refs ∈ origins, ref ∈ refs := by
    intro index ref href
    rw [List.getD_eq_getElem?_getD] at href
    cases hget : origins[index]? with
    | none => simp [hget] at href
    | some refs => exact ⟨refs, List.mem_of_getElem? hget, by simpa [hget] using href⟩
  unfold crossOriginPairsForOutputPartitions at h
  split at h
  · rw [List.mem_eraseDups, List.mem_flatMap] at h
    obtain ⟨leftOrigin, hleft, h⟩ := h
    obtain ⟨rightOrigin, hright, rfl⟩ := List.mem_map.mp h
    obtain ⟨hright, hne⟩ := List.mem_filter.mp hright
    have hdiffer : leftOrigin ≠ rightOrigin := bne_iff_ne.mp hne
    split
    · exact ⟨hdiffer, hgetD _ _ hleft, hgetD _ _ hright⟩
    · exact ⟨hdiffer.symm, hgetD _ _ hright, hgetD _ _ hleft⟩
  · cases h

/-- Two outputs of claims of the group. -/
theorem separateOutputPair_ends (hnamed : NamedByDigests env group claims)
    {command : ApplyCompactedClaims} (hgroup : command.group = group)
    (hclaims : ∀ claim ∈ command.compactedClaims, claim.sourceClaimRefs ⊆ claims)
    (outputNodeRefs : List String) {pair : String × String} (hne : pair.1 ≠ pair.2)
    (hleftName : IsCompactedName env group claims pair.1)
    (hrightName : IsCompactedName env group claims pair.2)
    {progress : ApplyCounts × ReductionState} (hstate : GroupState env group claims progress.2)
    (hleft : pair.1 ∈ progress.2.nodes.keys) (hright : pair.2 ∈ progress.2.nodes.keys) :
    Ends (fun next => KeepsNodes env group claims progress.2 next.2 ∧
        Compared next.2.comparisons group command.roundIndex pair)
      (fun _ => False) (separateOutputPair command outputNodeRefs progress pair) := by
  obtain ⟨counts, state⟩ := progress
  subst hgroup
  obtain ⟨ordered, hordered, -⟩ := exists_orderedPair hne
  unfold separateOutputPair
  rw [hordered]
  refine Ends.bind (show Ends (fun value => value = ordered) _ (.ok ordered) from rfl)
    fun found _ hfound => ?_
  subst hfound
  refine Ends.bind (insertNotMergedComparison_ends hnamed hstate ⟨.inr hleftName, hleft⟩
    ⟨.inr hrightName, hright⟩ hne hleftName hrightName) fun inserted _ hinserted => ?_
  obtain ⟨hkeeps, hcompared⟩ := hinserted
  have hsource : comparisonRef command.group command.roundIndex found.1 found.2 ∈
      inserted.2.comparisons.keys := by
    obtain ⟨other, hother, row, hrow, hrowGroup, hrowLeft, hrowRight, hrowRound⟩ := hcompared
    obtain rfl := Except.ok.inj (hordered.symm.trans hother)
    have hcompares := hkeeps.state.comparisons row hrow (.inl hrowGroup)
    refine Table.mem_keys.mpr ⟨row, hrow, ?_⟩
    rw [hcompares.ref_eq, hrowLeft, hrowRight, hrowRound]
  have hedge : ∀ origins ∈ crossOriginPairsForOutputPartitions
      (command.compactedClaims.map OutputClaim.sourceClaimRefs) pair.1 pair.2 outputNodeRefs,
      ∀ before : ReductionState, (KeepsNodes env command.group claims inserted.2 before ∧
        before.comparisons = inserted.2.comparisons) →
      Ends (fun after : ReductionState => KeepsNodes env command.group claims inserted.2 after ∧
          after.comparisons = inserted.2.comparisons) (fun _ => False) (do
        let (_, next) ← insertOriginSeparationEdge before command.group origins.1 origins.2
          (some command.batchRef) (some command.workItemId) none
          (some (comparisonRef command.group command.roundIndex found.1 found.2))
          command.createdAt
        pure next) := by
    rintro origins horigins before ⟨hbefore, hsame⟩
    obtain ⟨hdiffer, ⟨first, hfirst, hmemFirst⟩, ⟨second, hsecond, hmemSecond⟩⟩ :=
      mem_crossOriginPairs horigins
    obtain ⟨claim, hclaim, rfl⟩ := List.mem_map.mp hfirst
    obtain ⟨other, hother, rfl⟩ := List.mem_map.mp hsecond
    refine Ends.bind (insertOriginSeparationEdge_ends hnamed hbefore.state
      (hclaims claim hclaim hmemFirst) (hclaims other hother hmemSecond) hdiffer
      (hsame ▸ hsource)) fun edge _ hedge => ?_
    exact ⟨hbefore.trans hedge.1, hedge.2.trans hsame⟩
  refine Ends.bind (Ends.foldlM_keeps hedge ⟨.refl hkeeps.state, rfl⟩)
    fun separated _ hseparated => ?_
  exact ⟨hkeeps.trans hseparated.1, hseparated.2 ▸ hcompared⟩

/-! The whole result. -/

section Result

variable {state : ReductionState} {command : ApplyCompactedClaims}

theorem nodup_claimSourceNodeRefs (nodes : Table NodeRow.nodeRef) (command : ApplyCompactedClaims)
    (claim : OutputClaim) :
    (claimSourceNodeRefs command (sourceClaimRefsByNodeRef (comparedNodes nodes command))
      claim).Nodup := by
  have hrefs : ((comparedNodes nodes command).map NodeRow.nodeRef).Nodup := by
    refine (nodup_comparedNodes nodes command).map_on fun row hrow other hother hsame => ?_
    exact nodes.eq_of_key_eq (mem_comparedNodes.mp hrow).1 (mem_comparedNodes.mp hother).1 hsame
  have hsets : ((sourceClaimRefsByNodeRef (comparedNodes nodes command)).map Prod.fst).Nodup := by
    simpa [sourceClaimRefsByNodeRef, Function.comp_def] using hrefs
  unfold claimSourceNodeRefs matchedSourceNodeRefsForClaim
  simp only
  split
  · exact claim.sourceClaimRefs_nodup.map (rawClaimNodeRef_injective command.group)
  · exact (((List.perm_insertionSort _ _).map Prod.fst).nodup_iff.mpr hsets).sublist
      (List.filter_sublist.map Prod.fst)

/-- The sources of an output are nodes of the group. -/
theorem isNodeIn_claimSourceNodeRefs (hstate : GroupState env group claims state)
    (hgroup : command.group = group) {claim : OutputClaim} (hclaim : claim.sourceClaimRefs ⊆ claims)
    {nodeRef : String} (hmem : nodeRef ∈ claimSourceNodeRefs command
      (sourceClaimRefsByNodeRef (comparedNodes state.nodes command)) claim) :
    IsNodeIn env group claims state.nodes nodeRef := by
  rcases mem_claimSourceNodeRefs.mp hmem with ⟨node, hnode, rfl, -⟩ | ⟨-, ref, href, rfl⟩
  · obtain ⟨hrow, hnodeGroup, -⟩ := mem_comparedNodes.mp hnode
    exact hstate.isNodeIn hrow (hnodeGroup.trans hgroup)
  · rw [hgroup]
    exact hstate.isNodeIn_raw (hclaim href)

/-- What a result leaves behind: every output is applied, and the outputs are
compared. -/
structure ResultApplied (env : CompactionEnv) (command : ApplyCompactedClaims)
    (before after : ReductionState) : Prop where
  outputs : ∀ claim ∈ command.compactedClaims, ClaimApplied env command claim
    (claimSourceNodeRefs command (sourceClaimRefsByNodeRef (comparedNodes before.nodes command))
      claim) after
  compared : ∀ pair ∈ nodeRefPairs (command.compactedClaims.map (outputNodeRef env command)),
    Compared after.comparisons command.group command.roundIndex pair

variable (hnamed : NamedByDigests env group claims) (hgroup : command.group = group)
  (hstate : GroupState env group claims state)
  (hregroups : RegroupsComparedNodes state.nodes command)
  (hground : ((comparedNodes state.nodes command).flatMap NodeRow.sourceClaimRefs).Nodup)

include hgroup hstate hregroups in
theorem output_subset_claims {claim : OutputClaim} (hclaim : claim ∈ command.compactedClaims) :
    claim.sourceClaimRefs ⊆ claims := by
  intro ref href
  obtain ⟨node, hnode, hmem⟩ := List.mem_flatMap.mp
    (hregroups.outputs_cover.mem_ground_iff.mpr ⟨claim, hclaim, href⟩)
  obtain ⟨hrow, hnodeGroup, -⟩ := mem_comparedNodes.mp hnode
  exact (hstate.names hrow (hnodeGroup.trans hgroup)).subset hmem

include hnamed hgroup hstate hregroups hground in
/-- The outputs have different nodes. -/
theorem nodup_outputNodeRefs :
    (command.compactedClaims.map (outputNodeRef env command)).Nodup := by
  have hdisjoint := (List.nodup_flatMap.mp (hregroups.outputs_cover.nodup_flatMap hground)).2
  refine List.pairwise_map.mpr (hdisjoint.imp_of_mem fun hfirst hsecond hapart hsame => ?_)
  rename_i first second
  unfold outputNodeRef at hsame
  rw [hgroup] at hsame
  have hclaims := hnamed.claims_eq_of_compacted_eq
    (output_subset_claims hgroup hstate hregroups hfirst)
    (output_subset_claims hgroup hstate hregroups hsecond) hsame
  obtain ⟨ref, href⟩ := List.exists_mem_of_ne_nil _ first.sourceClaimRefs_ne_nil
  exact hapart href ((hclaims ref).mp href)

include hnamed hgroup hstate hregroups hground in
/-- A result that regroups the claims of the compared nodes is applied. -/
theorem applyCompactedClaimsResult_ends :
    Ends (fun done => GroupState env group claims done.2 ∧ Grows state done.2 ∧
        ResultApplied env command state done.2)
      (fun _ => False) (applyCompactedClaimsResult env state command) := by
  have hclaims : ∀ claim ∈ command.compactedClaims, claim.sourceClaimRefs ⊆ claims :=
    fun claim => output_subset_claims hgroup hstate hregroups
  have happlies : ∀ claim ∈ command.compactedClaims, ∀ before : ApplyCounts × ReductionState,
      (GroupState env group claims before.2 ∧ Grows state before.2) →
      Ends (fun after : ApplyCounts × ReductionState =>
          (GroupState env group claims after.2 ∧ Grows state after.2) ∧
          ClaimApplied env command claim (claimSourceNodeRefs command
            (sourceClaimRefsByNodeRef (comparedNodes state.nodes command)) claim) after.2 ∧
          ∀ other, ClaimApplied env command other (claimSourceNodeRefs command
              (sourceClaimRefsByNodeRef (comparedNodes state.nodes command)) other) before.2 →
            ClaimApplied env command other (claimSourceNodeRefs command
              (sourceClaimRefsByNodeRef (comparedNodes state.nodes command)) other) after.2)
        (fun _ => False) (applyCompactedClaim env command
          (sourceClaimRefsByNodeRef (comparedNodes state.nodes command)) before claim) := by
    rintro claim hclaim before ⟨hbefore, hgrows⟩
    refine (applyCompactedClaim_ends hnamed hgroup (hclaims claim hclaim) hbefore
      (nodup_claimSourceNodeRefs state.nodes command claim) fun nodeRef hmem =>
        (isNodeIn_claimSourceNodeRefs hstate hgroup (hclaims claim hclaim) hmem).mono
          hgrows.nodes.keys_subset).mono ?_ fun _ => id
    rintro after ⟨hafter, hmore, happlied⟩
    exact ⟨⟨hafter, hgrows.trans hmore⟩, happlied, fun _ hother => hother.mono hmore⟩
  unfold applyCompactedClaimsResult
  refine Ends.bind (Ends.foldlM_forall happlies ⟨hstate, .refl state⟩) fun applied _ happlied => ?_
  obtain ⟨⟨happliedState, hgrows⟩, houtputs, -⟩ := happlied
  have hends : ∀ pair ∈ nodeRefPairs (command.compactedClaims.map (outputNodeRef env command)),
      pair.1 ≠ pair.2 ∧ ∀ nodeRef, nodeRef = pair.1 ∨ nodeRef = pair.2 →
        IsCompactedName env group claims nodeRef ∧ nodeRef ∈ applied.2.nodes.keys := by
    intro pair hpair
    have hnodup := nodup_outputNodeRefs hnamed hgroup hstate hregroups hground
    have hmem := mem_of_mem_laterPairs hpair
    rw [mem_sorted, mem_sorted] at hmem
    refine ⟨(forall_laterPairs_ne_iff _).mpr ((sorted_perm _).nodup_iff.mpr hnodup) pair hpair, ?_⟩
    intro nodeRef hside
    obtain ⟨claim, hclaim, rfl⟩ : ∃ claim ∈ command.compactedClaims,
        outputNodeRef env command claim = nodeRef := by
      rcases hside with rfl | rfl
      · exact List.mem_map.mp hmem.1
      · exact List.mem_map.mp hmem.2
    exact ⟨⟨claim.sourceClaimRefs, hclaims claim hclaim, by rw [outputNodeRef, hgroup]⟩,
      (houtputs claim hclaim).output_mem⟩
  have hseparates : ∀ pair ∈ nodeRefPairs (command.compactedClaims.map (outputNodeRef env command)),
      ∀ before : ApplyCounts × ReductionState, KeepsNodes env group claims applied.2 before.2 →
      Ends (fun after : ApplyCounts × ReductionState =>
          KeepsNodes env group claims applied.2 after.2 ∧
          Compared after.2.comparisons group command.roundIndex pair ∧
          ∀ other, Compared before.2.comparisons group command.roundIndex other →
            Compared after.2.comparisons group command.roundIndex other)
        (fun _ => False) (separateOutputPair command
          (command.compactedClaims.map (outputNodeRef env command)) before pair) := by
    intro pair hpair before hbefore
    obtain ⟨hne, hsides⟩ := hends pair hpair
    obtain ⟨hleftName, hleft⟩ := hsides pair.1 (.inl rfl)
    obtain ⟨hrightName, hright⟩ := hsides pair.2 (.inr rfl)
    rw [← hbefore.nodes_eq] at hleft hright
    refine (separateOutputPair_ends hnamed hgroup hclaims _ hne hleftName hrightName hbefore.state
      hleft hright).mono ?_ fun _ => id
    rintro after ⟨hkeeps, hcompared⟩
    exact ⟨hbefore.trans hkeeps, hcompared,
      fun _ hother => Records.compared_mono hkeeps.grows.comparisons hother⟩
  refine Ends.bind (Ends.foldlM_forall hseparates (.refl happliedState))
    fun final _ hfinal => ?_
  obtain ⟨hkeeps, hcompared, -⟩ := hfinal
  exact ⟨hkeeps.state, hgrows.trans hkeeps.grows,
    fun claim hclaim => (houtputs claim hclaim).mono hkeeps.grows, hgroup ▸ hcompared⟩

end Result

end CrmBot.Compaction
