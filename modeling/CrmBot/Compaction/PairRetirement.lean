import CrmBot.Compaction.RetiredPairs

/-! A result retires the pair of nodes whose claims it regroups.

An output that takes a whole node supersedes it. Any other output takes its claims
from their raw nodes, so they are one class. The outputs are compared with each
other, so claims of two outputs are one class or kept apart. -/

namespace CrmBot.Compaction

open Relational CrmBot.Python Representatives

variable {env : CompactionEnv} {group : GroupKey} {claims : List String}

/-! What recorded comparisons say. -/

section Recorded

variable {state : ReductionState} {planner : PlannerState}
  (hstate : GroupState env group claims state)
  (hload : loadPlannerState state group = some planner)

theorem exists_comparison_of_compared {round : Nat} {first second : String}
    (h : Compared state.comparisons group round (first, second)) :
    ∃ row ∈ state.comparisons.rows, row.group = group ∧
      (row.leftNodeRef = first ∧ row.rightNodeRef = second ∨
        row.leftNodeRef = second ∧ row.rightNodeRef = first) := by
  obtain ⟨ordered, hordered, row, hrow, hgroup, hleft, hright, -⟩ := h
  refine ⟨row, hrow, hgroup, ?_⟩
  rw [hleft, hright]
  unfold orderedPair at hordered
  split at hordered
  · cases hordered
  split at hordered
  · cases hordered
    exact .inl ⟨rfl, rfl⟩
  · cases hordered
    exact .inr ⟨rfl, rfl⟩

include hstate hload

/-- The claims of two nodes that merged are in one class. -/
theorem sameClass_of_merged {row : ComparisonRow} (hrow : row ∈ state.comparisons.rows)
    (hgroup : row.group = group) (hstatus : row.status = .merged) {first second : NodeRow}
    (hfirst : first ∈ planner.nodes) (hsecond : second ∈ planner.nodes)
    (hends : row.leftNodeRef = first.nodeRef ∧ row.rightNodeRef = second.nodeRef ∨
      row.leftNodeRef = second.nodeRef ∧ row.rightNodeRef = first.nodeRef)
    {ref other : String} (href : ref ∈ first.sourceClaimRefs)
    (hother : other ∈ second.sourceClaimRefs) :
    (lineageOf planner).find ref = (lineageOf planner).find other := by
  have hmem {claim : String} : claim ∈ claimsOfPair (sourcesByNode planner.nodes) row ↔ _ :=
    mem_claimsOfPair (nodup_loadedRefs hload)
  refine (lineageOf_joins (hstate.resultsKnown hload)).joined ref other
    ⟨row, (mem_loadedComparisons hload).mpr ⟨hrow, hgroup⟩, hstatus, hmem.mpr ?_, hmem.mpr ?_⟩
  · refine ⟨first, hfirst, ?_, href⟩
    rcases hends with ⟨hleft, -⟩ | ⟨-, hright⟩
    · exact .inl hleft.symm
    · exact .inr hright.symm
  · refine ⟨second, hsecond, ?_, hother⟩
    rcases hends with ⟨-, hright⟩ | ⟨hleft, -⟩
    · exact .inr hright.symm
    · exact .inl hleft.symm

/-- Compared raw nodes merged, as only compacted nodes are kept apart. -/
theorem sameClass_of_rawCompared {round : Nat} {ref other : String} (href : ref ∈ claims)
    (hother : other ∈ claims) (h : Compared state.comparisons group round
      (rawClaimNodeRef group ref, rawClaimNodeRef group other)) :
    (lineageOf planner).find ref = (lineageOf planner).find other := by
  obtain ⟨row, hrow, hgroup, hends⟩ := exists_comparison_of_compared h
  have hmerged : row.status = .merged := by
    rcases (hstate.comparisons row hrow (.inl hgroup)).status with ⟨hstatus, -⟩ | ⟨-, hname, -⟩
    · exact hstatus
    · rcases hends with ⟨hleft, -⟩ | ⟨hleft, -⟩
      · exact absurd (hleft ▸ hname) (not_isCompactedName_raw ref)
      · exact absurd (hleft ▸ hname) (not_isCompactedName_raw other)
  have hraw {claim : String} (hclaim : claim ∈ claims) :
      ∃ node ∈ planner.nodes, node.nodeRef = rawClaimNodeRef group claim ∧
        claim ∈ node.sourceClaimRefs := by
    obtain ⟨node, hnode, hname⟩ := hstate.exists_loaded hload (hstate.isNodeIn_raw hclaim)
    obtain ⟨hmem, hnodeGroup⟩ := (mem_loadedNodes hload).mp hnode
    refine ⟨node, hnode, hname, ?_⟩
    rw [hstate.claims_of_raw hmem hnodeGroup hname]
    exact List.mem_singleton_self claim
  obtain ⟨first, hfirst, hfirstName, hfirstClaim⟩ := hraw href
  obtain ⟨second, hsecond, hsecondName, hsecondClaim⟩ := hraw hother
  rw [← hfirstName, ← hsecondName] at hends
  exact sameClass_of_merged hstate hload hrow hgroup hmerged hfirst hsecond hends hfirstClaim
    hsecondClaim

end Recorded

/-! An applied result. -/

section Applied

variable {before after : ReductionState} {command : ApplyCompactedClaims} {planner : PlannerState}
  (hnamed : NamedByDigests env group claims) (hbefore : GroupState env group claims before)
  (hafter : GroupState env group claims after) (hgroup : command.group = group)
  (hregroups : RegroupsComparedNodes before.nodes command)
  (happlied : ResultApplied env command before after)
  (hload : loadPlannerState after group = some planner)

include hbefore hafter hgroup hregroups happlied hload in
/-- The claims of an output that takes no compared node whole are in one class. -/
theorem sameClass_of_output {claim : OutputClaim} (hclaim : claim ∈ command.compactedClaims)
    (hparts : ∀ node ∈ comparedNodes before.nodes command,
      ¬ node.sourceClaimRefs ⊆ claim.sourceClaimRefs)
    {ref other : String} (href : ref ∈ claim.sourceClaimRefs)
    (hother : other ∈ claim.sourceClaimRefs) :
    (lineageOf planner).find ref = (lineageOf planner).find other := by
  by_cases hsame : ref = other
  · rw [hsame]
  have hsource {source : String} (hmem : source ∈ claim.sourceClaimRefs) :
      rawClaimNodeRef group source ∈ sorted (claimSourceNodeRefs command
        (sourceClaimRefsByNodeRef (comparedNodes before.nodes command)) claim) := by
    rw [mem_sorted, ← hgroup]
    exact mem_claimSourceNodeRefs.mpr (.inr ⟨hparts, source, hmem, rfl⟩)
  have hsubset := output_subset_claims hgroup hbefore hregroups hclaim
  have hcompared := (happlied.outputs claim hclaim).compared
  rw [hgroup] at hcompared
  rcases mem_laterPairs_of_ne (hsource href) (hsource hother)
    ((rawClaimNodeRef_injective group).ne hsame) with hpair | hpair
  · exact sameClass_of_rawCompared hafter hload (hsubset href) (hsubset hother)
      (hcompared _ hpair)
  · exact (sameClass_of_rawCompared hafter hload (hsubset hother) (hsubset href)
      (hcompared _ hpair)).symm

include hnamed hbefore hafter hgroup hregroups happlied hload in
/-- Two outputs that take claims of one node each keep these nodes apart. -/
theorem keptApart_of_outputs (hground : ((comparedNodes before.nodes command).flatMap
      NodeRow.sourceClaimRefs).Nodup)
    {left right : NodeRow} {first second : OutputClaim} (hfirst : first ∈ command.compactedClaims)
    (hsecond : second ∈ command.compactedClaims) (hne : first ≠ second)
    (hleftClaims : first.sourceClaimRefs ⊆ left.sourceClaimRefs)
    (hrightClaims : second.sourceClaimRefs ⊆ right.sourceClaimRefs) :
    KeptApart planner left right := by
  have hsubset {claim : OutputClaim} (hclaim : claim ∈ command.compactedClaims) :=
    output_subset_claims hgroup hbefore hregroups hclaim
  have hnode {claim : OutputClaim} (hclaim : claim ∈ command.compactedClaims) :
      ∃ node ∈ planner.nodes, node.nodeRef = outputNodeRef env command claim ∧
        ∀ ref, ref ∈ node.sourceClaimRefs ↔ ref ∈ claim.sourceClaimRefs := by
    have hname : outputNodeRef env command claim =
        compactedClaimNodeRef env group claim.sourceClaimRefs := by rw [outputNodeRef, hgroup]
    obtain ⟨node, hmem, href⟩ := hafter.exists_loaded hload
      ⟨.inr ⟨_, hsubset hclaim, hname⟩, (happlied.outputs claim hclaim).output_mem⟩
    obtain ⟨hrow, hnodeGroup⟩ := (mem_loadedNodes hload).mp hmem
    exact ⟨node, hmem, href,
      hafter.claims_of_compacted hnamed hrow hnodeGroup (hsubset hclaim) (href.trans hname)⟩
  obtain ⟨node, hmem, hnodeRef, hnodeClaims⟩ := hnode hfirst
  obtain ⟨other, hotherMem, hotherRef, hotherClaims⟩ := hnode hsecond
  obtain ⟨row, hrow, hrowGroup, hends⟩ : ∃ row ∈ after.comparisons.rows, row.group = group ∧
      (row.leftNodeRef = node.nodeRef ∧ row.rightNodeRef = other.nodeRef ∨
        row.leftNodeRef = other.nodeRef ∧ row.rightNodeRef = node.nodeRef) := by
    have houtput {claim : OutputClaim} (hclaim : claim ∈ command.compactedClaims) :
        outputNodeRef env command claim ∈
          sorted (command.compactedClaims.map (outputNodeRef env command)) := by
      rw [mem_sorted]
      exact List.mem_map_of_mem hclaim
    have hdiffer : outputNodeRef env command first ≠ outputNodeRef env command second := by
      intro hsame
      exact hne (List.inj_on_of_nodup_map
        (nodup_outputNodeRefs hnamed hgroup hbefore hregroups hground) hfirst hsecond hsame)
    have hcompared := happlied.compared
    rw [hgroup] at hcompared
    rw [hnodeRef, hotherRef]
    rcases mem_laterPairs_of_ne (houtput hfirst) (houtput hsecond) hdiffer with hpair | hpair
    · exact exists_comparison_of_compared (hcompared _ hpair)
    · obtain ⟨row, hrow, hrowGroup, hends⟩ :=
        exists_comparison_of_compared (hcompared _ hpair)
      exact ⟨row, hrow, hrowGroup, hends.symm⟩
  rcases (hafter.comparisons row hrow (.inl hrowGroup)).status with ⟨hstatus, -⟩ | ⟨hstatus, -⟩
  · obtain ⟨ref, href⟩ := List.exists_mem_of_ne_nil _ first.sourceClaimRefs_ne_nil
    obtain ⟨source, hsource⟩ := List.exists_mem_of_ne_nil _ second.sourceClaimRefs_ne_nil
    have hsame := sameClass_of_merged hafter hload hrow hrowGroup hstatus hmem hotherMem hends
      ((hnodeClaims ref).mpr href) ((hotherClaims source).mpr hsource)
    exact .inl ⟨_, List.mem_map_of_mem (hleftClaims href),
      List.mem_map.mpr ⟨source, hrightClaims hsource, hsame.symm⟩⟩
  · have hplanner := hafter.wellFormed hload
    have hleftRoots : rootsOf planner node ⊆ rootsOf planner left :=
      List.map_subset _ fun ref href => hleftClaims ((hnodeClaims ref).mp href)
    have hrightRoots : rootsOf planner other ⊆ rootsOf planner right :=
      List.map_subset _ fun ref href => hrightClaims ((hotherClaims ref).mp href)
    refine .inr ⟨row, (mem_loadedComparisons hload).mpr ⟨hrow, hrowGroup⟩, hstatus, ?_⟩
    rcases hends with ⟨hrowLeft, hrowRight⟩ | ⟨hrowLeft, hrowRight⟩
    · rw [hrowLeft, hrowRight, lineageRoots_eq hplanner hmem, lineageRoots_eq hplanner hotherMem]
      exact ⟨_, _, rfl, rfl, .inl ⟨hleftRoots, hrightRoots⟩⟩
    · rw [hrowLeft, hrowRight, lineageRoots_eq hplanner hmem, lineageRoots_eq hplanner hotherMem]
      exact ⟨_, _, rfl, rfl, .inr ⟨hrightRoots, hleftRoots⟩⟩

end Applied

/-- Two nodes of the group whose claims a command regroups. -/
structure RegroupsPair (before : ReductionState) (command : ApplyCompactedClaims)
    (left right : NodeRow) : Prop where
  mem_compared : ∀ node, node ∈ comparedNodes before.nodes command ↔ node = left ∨ node = right
  regroups : RegroupsComparedNodes before.nodes command

section Pair

variable {before after : ReductionState} {command : ApplyCompactedClaims} {left right : NodeRow}
  (hnamed : NamedByDigests env group claims) (hbefore : GroupState env group claims before)
  (hafter : GroupState env group claims after) (hgroup : command.group = group)
  (hpair : RegroupsPair before command left right)
  (hground : ((comparedNodes before.nodes command).flatMap NodeRow.sourceClaimRefs).Nodup)
  (happlied : ResultApplied env command before after)

include hpair in
/-- The claims of the outputs are those of the two nodes. -/
theorem RegroupsPair.mem_output_iff (ref : String) :
    (∃ claim ∈ command.compactedClaims, ref ∈ claim.sourceClaimRefs) ↔
      ref ∈ left.sourceClaimRefs ∨ ref ∈ right.sourceClaimRefs := by
  rw [← hpair.regroups.outputs_cover.mem_ground_iff, List.mem_flatMap]
  constructor
  · rintro ⟨node, hnode, hmem⟩
    rcases (hpair.mem_compared node).mp hnode with rfl | rfl
    · exact .inl hmem
    · exact .inr hmem
  · rintro (hmem | hmem)
    · exact ⟨left, (hpair.mem_compared left).mpr (.inl rfl), hmem⟩
    · exact ⟨right, (hpair.mem_compared right).mpr (.inr rfl), hmem⟩

include hnamed hbefore hafter hgroup hpair hground happlied

/-- Outputs that take neither node whole keep the two nodes apart. -/
theorem keptApart_of_parts {planner : PlannerState}
    (hload : loadPlannerState after group = some planner)
    (hparts : ∀ claim ∈ command.compactedClaims, ∀ node ∈ comparedNodes before.nodes command,
      ¬ node.sourceClaimRefs ⊆ claim.sourceClaimRefs)
    {nextLeft nextRight : NodeRow}
    (hleftClaims : nextLeft.sourceClaimRefs = left.sourceClaimRefs)
    (hrightClaims : nextRight.sourceClaimRefs = right.sourceClaimRefs) :
    KeptApart planner nextLeft nextRight := by
  by_cases hmixes : ∃ claim ∈ command.compactedClaims,
      (∃ ref ∈ left.sourceClaimRefs, ref ∈ claim.sourceClaimRefs) ∧
        ∃ ref ∈ right.sourceClaimRefs, ref ∈ claim.sourceClaimRefs
  · obtain ⟨claim, hclaim, ⟨ref, hrefLeft, href⟩, other, hotherRight, hother⟩ := hmixes
    have hsame := sameClass_of_output hbefore hafter hgroup hpair.regroups happlied hload hclaim
      (hparts claim hclaim) href hother
    exact .inl ⟨_, List.mem_map_of_mem (hleftClaims ▸ hrefLeft),
      List.mem_map.mpr ⟨other, hrightClaims ▸ hotherRight, hsame.symm⟩⟩
  have hnames {node : NodeRow} (hmem : node ∈ comparedNodes before.nodes command) :
      node.sourceClaimRefs ≠ [] := by
    obtain ⟨hrow, hnodeGroup, -⟩ := mem_comparedNodes.mp hmem
    exact (hbefore.names hrow (hnodeGroup.trans hgroup)).ne_nil
  obtain ⟨ref, href⟩ :=
    List.exists_mem_of_ne_nil _ (hnames ((hpair.mem_compared left).mpr (.inl rfl)))
  obtain ⟨other, hother⟩ :=
    List.exists_mem_of_ne_nil _ (hnames ((hpair.mem_compared right).mpr (.inr rfl)))
  obtain ⟨first, hfirst, hrefFirst⟩ := (hpair.mem_output_iff ref).mpr (.inl href)
  obtain ⟨second, hsecond, hotherSecond⟩ := (hpair.mem_output_iff other).mpr (.inr hother)
  refine keptApart_of_outputs hnamed hbefore hafter hgroup hpair.regroups happlied hload hground
    hfirst hsecond ?_ ?_ ?_
  · rintro rfl
    exact hmixes ⟨first, hfirst, ⟨ref, href, hrefFirst⟩, other, hother, hotherSecond⟩
  · intro source hsource
    rw [hleftClaims]
    refine ((hpair.mem_output_iff source).mp ⟨first, hfirst, hsource⟩).resolve_right fun hmem => ?_
    exact hmixes ⟨first, hfirst, ⟨ref, href, hrefFirst⟩, source, hmem, hsource⟩
  · intro source hsource
    rw [hrightClaims]
    refine ((hpair.mem_output_iff source).mp ⟨second, hsecond, hsource⟩).resolve_left fun hmem => ?_
    exact hmixes ⟨second, hsecond, ⟨source, hmem, hsource⟩, other, hother, hotherSecond⟩

/-- A result retires the pair it regroups. -/
theorem retiredPair_of_applied (hgrows : Grows before after) :
    RetiredPair group after (left.nodeRef, right.nodeRef) := by
  by_cases hwhole : ∃ claim ∈ command.compactedClaims, ∃ node,
      (node = left ∨ node = right) ∧ node.sourceClaimRefs ⊆ claim.sourceClaimRefs
  · obtain ⟨claim, hclaim, node, hnode, hsubset⟩ := hwhole
    have hsource : node.nodeRef ∈ claimSourceNodeRefs command
        (sourceClaimRefsByNodeRef (comparedNodes before.nodes command)) claim :=
      mem_claimSourceNodeRefs.mpr (.inl ⟨node, (hpair.mem_compared node).mpr hnode, rfl, hsubset⟩)
    have hsuperseded := (happlied.outputs claim hclaim).superseded node.nodeRef hsource
    rcases hnode with rfl | rfl
    · exact .inl hsuperseded
    · exact .inr (.inl hsuperseded)
  have hparts : ∀ claim ∈ command.compactedClaims, ∀ node ∈ comparedNodes before.nodes command,
      ¬ node.sourceClaimRefs ⊆ claim.sourceClaimRefs := by
    intro claim hclaim node hnode hsubset
    exact hwhole ⟨claim, hclaim, node, (hpair.mem_compared node).mp hnode, hsubset⟩
  obtain ⟨planner, hload⟩ := hafter.exists_planner hnamed
  have hlater {node : NodeRow} (hnode : node = left ∨ node = right) :
      ∃ next ∈ planner.nodes, next.nodeRef = node.nodeRef ∧
        next.sourceClaimRefs = node.sourceClaimRefs := by
    obtain ⟨hrow, hnodeGroup, -⟩ := mem_comparedNodes.mp ((hpair.mem_compared node).mpr hnode)
    obtain ⟨next, hnext, href, hsameGroup, hclaims, -⟩ := hgrows.nodes node hrow
    exact ⟨next, (mem_loadedNodes hload).mpr ⟨hnext, hsameGroup.trans (hnodeGroup.trans hgroup)⟩,
      href, hclaims⟩
  obtain ⟨nextLeft, hnextLeft, hleftRef, hleftClaims⟩ := hlater (.inl rfl)
  obtain ⟨nextRight, hnextRight, hrightRef, hrightClaims⟩ := hlater (.inr rfl)
  exact .inr (.inr ⟨planner, hload, nextLeft, hnextLeft, nextRight, hnextRight, hleftRef, hrightRef,
    keptApart_of_parts hnamed hbefore hafter hgroup hpair hground happlied hload hparts
      hleftClaims hrightClaims⟩)

end Pair

end CrmBot.Compaction
