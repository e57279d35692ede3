import CrmBot.Compaction.NodeTable
import CrmBot.Library.Cover
import CrmBot.Library.Runs

/-! Claims are neither lost nor duplicated by a compaction result.

The active nodes of a group should list every raw claim of the group once. An
application takes compared nodes out and puts output nodes in; this module says
exactly when the exchange keeps that true, for one application and for runs. -/

namespace CrmBot.Compaction

open Relational CrmBot.Python BlockCover

def activeNodes (nodes : Table NodeRow.nodeRef) (group : GroupKey) : List NodeRow :=
  nodes.rows.filter fun row => row.group = group && row.active

/-- The active nodes of the group list every raw claim once and nothing else. -/
def ActiveClaimsPartition (nodes : Table NodeRow.nodeRef) (group : GroupKey)
    (rawClaims : List String) : Prop :=
  Covers NodeRow.sourceClaimRefs (activeNodes nodes group) rawClaims

/-- Inside the group a raw node reference carries exactly the claim it names, as
the seeding of the initial state writes it. -/
def RawNodesSound (nodes : Table NodeRow.nodeRef) (group : GroupKey) : Prop :=
  ∀ row ∈ nodes.rows, row.group = group → ∀ observationRef,
    row.nodeRef = rawClaimNodeRef group observationRef → row.sourceClaimRefs = [observationRef]

/-- The compared references are active nodes of the group, and the output
claims together list exactly the claims of the compared nodes. -/
structure RegroupsComparedNodes (nodes : Table NodeRow.nodeRef) (command : ApplyCompactedClaims) :
    Prop where
  compared_active : ∀ nodeRef ∈ command.comparedNodeRefs,
    ∃ row ∈ activeNodes nodes command.group, row.nodeRef = nodeRef
  outputs_cover : Covers OutputClaim.sourceClaimRefs command.compactedClaims
    ((comparedNodes nodes command).flatMap NodeRow.sourceClaimRefs)

/-- Of an output claim and a compared node that share a claim: the output gets
a new node exactly when it takes the whole compared node. -/
def NewNodesTakeWholeNodes (env : CompactionEnv) (nodes : Table NodeRow.nodeRef)
    (command : ApplyCompactedClaims) : Prop :=
  ∀ node ∈ comparedNodes nodes command, ∀ claim ∈ command.compactedClaims,
    (∃ ref ∈ node.sourceClaimRefs, ref ∈ claim.sourceClaimRefs) →
      (outputNodeRef env command claim ∉ nodes.keys ↔
        node.sourceClaimRefs ⊆ claim.sourceClaimRefs)

theorem mem_activeNodes {nodes : Table NodeRow.nodeRef} {group : GroupKey} {row : NodeRow} :
    row ∈ activeNodes nodes group ↔ row ∈ nodes.rows ∧ row.group = group ∧ row.active = true := by
  simp [activeNodes]

theorem nodup_activeNodes (nodes : Table NodeRow.nodeRef) (group : GroupKey) :
    (activeNodes nodes group).Nodup :=
  nodes.nodup_rows.filter _

theorem mem_comparedNodes {nodes : Table NodeRow.nodeRef} {command : ApplyCompactedClaims}
    {row : NodeRow} :
    row ∈ comparedNodes nodes command ↔
      row ∈ nodes.rows ∧ row.group = command.group ∧ row.nodeRef ∈ command.comparedNodeRefs := by
  unfold comparedNodes loadComparedNodesForApply loadNodesByRef
  split
  · next h => simp [h]
  · rw [List.mem_insertionSort]
    simp

theorem nodup_comparedNodes (nodes : Table NodeRow.nodeRef) (command : ApplyCompactedClaims) :
    (comparedNodes nodes command).Nodup := by
  unfold comparedNodes loadComparedNodesForApply loadNodesByRef
  split
  · exact List.nodup_nil
  · exact (List.perm_insertionSort _ _).nodup_iff.mpr (nodes.nodup_rows.filter _)

/-! Source nodes of an output claim -/

/-- A matched source is a compared node inside the claim. -/
theorem mem_matched_iff {nodes : Table NodeRow.nodeRef} {command : ApplyCompactedClaims}
    {claimRefs : List String} {nodeRef : String} :
    nodeRef ∈ (((sourceClaimRefsByNodeRef (comparedNodes nodes command)).insertionSort
        fun first second => first.1 ≤ second.1).filter
          fun item => item.2.all fun ref => claimRefs.contains ref).map Prod.fst ↔
      ∃ node ∈ comparedNodes nodes command, node.nodeRef = nodeRef ∧
        node.sourceClaimRefs ⊆ claimRefs := by
  simp only [List.mem_map, List.mem_filter, List.mem_insertionSort, sourceClaimRefsByNodeRef,
    List.all_eq_true, List.contains_iff_mem]
  constructor
  · rintro ⟨item, ⟨⟨node, hnode, rfl⟩, hall⟩, rfl⟩
    exact ⟨node, hnode, rfl, fun ref href => hall ref (mem_sorted.mpr href)⟩
  · rintro ⟨node, hnode, rfl, hsub⟩
    exact ⟨_, ⟨⟨node, hnode, rfl⟩, fun ref href => hsub (mem_sorted.mp href)⟩, rfl⟩

/-- The sources of an output claim are the compared nodes inside it, or, when
there is none, the raw nodes of its claims. -/
theorem mem_claimSourceNodeRefs {nodes : Table NodeRow.nodeRef} {command : ApplyCompactedClaims}
    {claim : OutputClaim} {nodeRef : String} :
    nodeRef ∈ claimSourceNodeRefs command (sourceClaimRefsByNodeRef (comparedNodes nodes command))
        claim ↔
      (∃ node ∈ comparedNodes nodes command, node.nodeRef = nodeRef ∧
        node.sourceClaimRefs ⊆ claim.sourceClaimRefs) ∨
      ((∀ node ∈ comparedNodes nodes command, ¬ node.sourceClaimRefs ⊆ claim.sourceClaimRefs) ∧
        ∃ ref ∈ claim.sourceClaimRefs, rawClaimNodeRef command.group ref = nodeRef) := by
  unfold claimSourceNodeRefs matchedSourceNodeRefsForClaim
  simp only
  split
  · next hnone =>
    have hno : ∀ node ∈ comparedNodes nodes command,
        ¬ node.sourceClaimRefs ⊆ claim.sourceClaimRefs := by
      intro node hnode hsub
      have hmem := mem_matched_iff.mpr ⟨node, hnode, rfl, hsub⟩
      rw [hnone] at hmem
      exact List.not_mem_nil hmem
    rw [List.mem_map]
    constructor
    · exact fun h => .inr ⟨hno, h⟩
    · rintro (⟨node, hnode, _, hsub⟩ | ⟨_, h⟩)
      · exact absurd hsub (hno node hnode)
      · exact h
  · next hsome =>
    obtain ⟨matched, hmatched⟩ := List.exists_mem_of_ne_nil _ hsome
    obtain ⟨inside, hinside, _, hinsideSub⟩ := mem_matched_iff.mp hmatched
    rw [mem_matched_iff]
    constructor
    · exact .inl
    · rintro (h | ⟨hno, _⟩)
      · exact h
      · exact absurd hinsideSub (hno inside hinside)

/-- The node of a new output is no source of any output: sources are old nodes
or raw nodes. -/
theorem outputNodeRef_notMem_sources (env : CompactionEnv) {nodes : Table NodeRow.nodeRef}
    {command : ApplyCompactedClaims} {claim other : OutputClaim}
    (hnew : outputNodeRef env command claim ∉ nodes.keys) :
    outputNodeRef env command claim ∉
      claimSourceNodeRefs command
          (sourceClaimRefsByNodeRef (comparedNodes nodes command)) other := by
  rw [mem_claimSourceNodeRefs]
  rintro (⟨node, hnode, hkey, _⟩ | ⟨_, ref, _, hraw⟩)
  · exact hnew (Table.mem_keys.mpr ⟨node, (mem_comparedNodes.mp hnode).1, hkey⟩)
  · exact compactedClaimNodeRef_ne_raw env command.group command.group _ ref hraw.symm

/-! One application -/

/-- The active nodes after an application: the old ones that are no source of
an output, and the nodes of the outputs whose reference was new. -/
theorem activeNodes_after {env : CompactionEnv} {state after : ReductionState}
    {command : ApplyCompactedClaims} {result : ApplyPersistenceResult}
    (h : applyCompactedClaimsResult env state command = .ok (result, after)) :
    activeNodes after.nodes command.group =
      ((activeNodes state.nodes command.group).filter fun row => row.nodeRef ∉
        command.compactedClaims.flatMap (claimSourceNodeRefs command
          (sourceClaimRefsByNodeRef (comparedNodes state.nodes command)))) ++
      (command.compactedClaims.filter fun claim =>
        outputNodeRef env command claim ∉ state.nodes.keys).map fun claim =>
          compactedNodeRow env command claim (claimSourceNodeRefs command
            (sourceClaimRefsByNodeRef (comparedNodes state.nodes command)) claim) := by
  obtain ⟨hnodup, hnodes⟩ := applyCompactedClaimsResult_nodes h
  have hrows := rows_foldl_nodesAfterClaim env command
    (sourceClaimRefsByNodeRef (comparedNodes state.nodes command)) command.compactedClaims
    state.nodes hnodup (fun _ _ hnew _ _ => outputNodeRef_notMem_sources env hnew)
  unfold activeNodes
  rw [hnodes, hrows, List.filter_append, List.filter_map, List.filter_filter]
  congr 1
  · have hactive : ∀ row : NodeRow,
        ((fun row : NodeRow => decide (row.group = command.group) && row.active) ∘
          deactivated (command.compactedClaims.flatMap (claimSourceNodeRefs command
            (sourceClaimRefsByNodeRef
              (comparedNodes state.nodes command)))) command.createdAt) row =
        (decide (row.nodeRef ∉ command.compactedClaims.flatMap (claimSourceNodeRefs command
            (sourceClaimRefsByNodeRef (comparedNodes state.nodes command)))) &&
          (decide (row.group = command.group) && row.active)) := by
      intro row
      simp only [Function.comp_apply, deactivated, List.contains_iff_mem, Bool.and_eq_true]
      split
      · next hboth => simp [hboth.1]
      · next hnot =>
        cases hrow : row.active
        · simp
        · have hnotMem : ¬ row.nodeRef ∈ command.compactedClaims.flatMap _ :=
            fun hmem => hnot ⟨hmem, hrow⟩
          rw [decide_eq_true hnotMem, Bool.true_and]
    rw [List.filter_congr fun row _ => hactive row]
    rw [List.map_congr_left fun row hrow => ?_, List.map_id']
    simp only [List.mem_filter, Bool.and_eq_true, decide_eq_true_eq] at hrow
    exact deactivated_of_notMem hrow.2.1
  · rw [List.filter_eq_self]
    intro row hrow
    obtain ⟨claim, _, rfl⟩ := List.mem_map.mp hrow
    simp [compactedNodeRow]

section Partition

variable {nodes : Table NodeRow.nodeRef} {command : ApplyCompactedClaims} {rawClaims : List String}

theorem comparedNodes_subset_active (hregroups : RegroupsComparedNodes nodes command)
    {node : NodeRow} (hnode : node ∈ comparedNodes nodes command) :
    node ∈ activeNodes nodes command.group := by
  obtain ⟨hrow, _, href⟩ := mem_comparedNodes.mp hnode
  obtain ⟨active, hactive, hkey⟩ := hregroups.compared_active _ href
  have heq : active = node :=
    nodes.eq_of_key_eq (mem_activeNodes.mp hactive).1 hrow hkey
  exact heq ▸ hactive

/-- An active node of the group is a source of some output exactly when it is
a compared node that lies wholly inside an output. -/
theorem active_mem_sources_iff (hraw : RawNodesSound nodes command.group)
    (hnodup : rawClaims.Nodup) (hpartition : ActiveClaimsPartition nodes command.group rawClaims)
    (hregroups : RegroupsComparedNodes nodes command) {row : NodeRow}
    (hrow : row ∈ activeNodes nodes command.group) :
    row.nodeRef ∈ command.compactedClaims.flatMap (claimSourceNodeRefs command
        (sourceClaimRefsByNodeRef (comparedNodes nodes command))) ↔
      row ∈ comparedNodes nodes command ∧
        ∃ claim ∈ command.compactedClaims, row.sourceClaimRefs ⊆ claim.sourceClaimRefs := by
  obtain ⟨hmem, hgroup, _⟩ := mem_activeNodes.mp hrow
  rw [List.mem_flatMap]
  constructor
  · rintro ⟨claim, hclaim, hsource⟩
    rcases mem_claimSourceNodeRefs.mp hsource with ⟨node, hnode, hkey, hsub⟩ | ⟨_, ref, href, hname⟩
    · have heq : node = row := nodes.eq_of_key_eq (mem_comparedNodes.mp hnode).1 hmem hkey
      exact ⟨heq ▸ hnode, claim, hclaim, heq ▸ hsub⟩
    · have hrefs := hraw row hmem hgroup ref hname.symm
      obtain ⟨node, hnode, hshared⟩ := List.mem_flatMap.mp
        (hregroups.outputs_cover.mem_ground_iff.mpr ⟨claim, hclaim, href⟩)
      have heq : node = row := hpartition.eq_of_shared hnodup
        (comparedNodes_subset_active hregroups hnode) hrow hshared (by simp [hrefs])
      exact ⟨heq ▸ hnode, claim, hclaim, by simpa [hrefs] using href⟩
  · rintro ⟨hcompared, claim, hclaim, hsub⟩
    exact ⟨claim, hclaim, mem_claimSourceNodeRefs.mpr (.inl ⟨row, hcompared, rfl, hsub⟩)⟩

/-- The active nodes are the compared nodes and the rest. -/
theorem activeNodes_perm_compared (hregroups : RegroupsComparedNodes nodes command) :
    (activeNodes nodes command.group).Perm (comparedNodes nodes command ++
      (activeNodes nodes command.group).filter fun row =>
        !decide (row ∈ comparedNodes nodes command)) := by
  have hsplit := (List.filter_append_perm (fun row => decide (row ∈ comparedNodes nodes command))
    (activeNodes nodes command.group)).symm
  refine hsplit.trans (List.Perm.append_right _ ?_)
  rw [List.perm_ext_iff_of_nodup ((nodup_activeNodes nodes command.group).filter _)
    (nodup_comparedNodes nodes command)]
  intro row
  rw [List.mem_filter, decide_eq_true_eq]
  exact ⟨fun h => h.2, fun h => ⟨comparedNodes_subset_active hregroups h, h⟩⟩

/-- In a regrouping, a compared node lies inside some output exactly when it
lies inside the output it shares a claim with. -/
theorem exists_output_superset_iff (hnodup : rawClaims.Nodup)
    (hpartition : ActiveClaimsPartition nodes command.group rawClaims)
    (hregroups : RegroupsComparedNodes nodes command) {node : NodeRow} {claim : OutputClaim}
    (hclaim : claim ∈ command.compactedClaims) {ref : String} (hnode : ref ∈ node.sourceClaimRefs)
    (href : ref ∈ claim.sourceClaimRefs) :
    (∃ other ∈ command.compactedClaims, node.sourceClaimRefs ⊆ other.sourceClaimRefs) ↔
      node.sourceClaimRefs ⊆ claim.sourceClaimRefs := by
  have hground : ((comparedNodes nodes command).flatMap NodeRow.sourceClaimRefs).Nodup := by
    have hall := ((activeNodes_perm_compared hregroups).flatMap_right
      NodeRow.sourceClaimRefs).nodup_iff.mp (hpartition.nodup_flatMap hnodup)
    rw [List.flatMap_append] at hall
    exact hall.of_append_left
  constructor
  · rintro ⟨other, hother, hsub⟩
    have heq := hregroups.outputs_cover.eq_of_shared hground hother hclaim (hsub hnode) href
    exact heq ▸ hsub
  · exact fun hsub => ⟨claim, hclaim, hsub⟩

end Partition

/-- One successful application keeps the partition exactly when, of an output
and a compared node that share a claim, the output gets a new node precisely
when it takes the whole compared node. -/
theorem activeClaimsPartition_after_iff {env : CompactionEnv} {state after : ReductionState}
    {command : ApplyCompactedClaims} {result : ApplyPersistenceResult} {rawClaims : List String}
    (hraw : RawNodesSound state.nodes command.group) (hnodup : rawClaims.Nodup)
    (hpartition : ActiveClaimsPartition state.nodes command.group rawClaims)
    (hregroups : RegroupsComparedNodes state.nodes command)
    (h : applyCompactedClaimsResult env state command = .ok (result, after)) :
    ActiveClaimsPartition after.nodes command.group rawClaims ↔
      NewNodesTakeWholeNodes env state.nodes command := by
  let compared := comparedNodes state.nodes command
  let rest := (activeNodes state.nodes command.group).filter fun row =>
    !decide (row ∈ comparedNodes state.nodes command)
  let sources := command.compactedClaims.flatMap (claimSourceNodeRefs command
    (sourceClaimRefsByNodeRef compared))
  let stays : NodeRow → Bool := fun row => row.nodeRef ∉ sources
  let joins : OutputClaim → Bool := fun claim => outputNodeRef env command claim ∉ state.nodes.keys
  have hperm := activeNodes_perm_compared hregroups
  have hrest : rest.filter stays = rest := by
    rw [List.filter_eq_self]
    intro row hrow
    obtain ⟨hactive, hnot⟩ := List.mem_filter.mp hrow
    have hiff := active_mem_sources_iff hraw hnodup hpartition hregroups hactive
    simp only [stays, decide_eq_true_eq]
    intro hsource
    simp only [(hiff.mp hsource).1, decide_true, Bool.not_true, Bool.false_eq_true] at hnot
  have hafter : ((activeNodes after.nodes command.group).flatMap NodeRow.sourceClaimRefs).Perm
      (rest.flatMap NodeRow.sourceClaimRefs ++
        ((compared.filter stays).flatMap NodeRow.sourceClaimRefs ++
          (command.compactedClaims.filter joins).flatMap OutputClaim.sourceClaimRefs)) := by
    rw [activeNodes_after h, List.flatMap_append, List.flatMap_map]
    have hkept := (hperm.filter stays).flatMap_right NodeRow.sourceClaimRefs
    rw [List.filter_append, hrest, List.flatMap_append] at hkept
    refine (hkept.append_right _).trans ?_
    rw [← List.append_assoc]
    exact List.perm_append_comm.append_right _
  have hbefore : rawClaims.Perm (rest.flatMap NodeRow.sourceClaimRefs ++
      compared.flatMap NodeRow.sourceClaimRefs) := by
    refine hpartition.symm.trans ((hperm.flatMap_right NodeRow.sourceClaimRefs).trans ?_)
    rw [List.flatMap_append]
    exact List.perm_append_comm
  have hground : (compared.flatMap NodeRow.sourceClaimRefs).Nodup :=
    (hbefore.nodup_iff.mp hnodup).of_append_right
  have hexchange := exchange_iff hground (List.Perm.refl _) hregroups.outputs_cover stays joins
  have hcancel : ActiveClaimsPartition after.nodes command.group rawClaims ↔
      ((compared.filter stays).flatMap NodeRow.sourceClaimRefs ++
        (command.compactedClaims.filter joins).flatMap OutputClaim.sourceClaimRefs).Perm
          (compared.flatMap NodeRow.sourceClaimRefs) := by
    rw [← List.perm_append_left_iff (rest.flatMap NodeRow.sourceClaimRefs)]
    exact ⟨fun hcover => hafter.symm.trans (hcover.trans hbefore),
      fun hcover => hafter.trans (hcover.trans hbefore.symm)⟩
  rw [hcancel, hexchange]
  have hstays : ∀ node ∈ compared, ∀ claim ∈ command.compactedClaims,
      ∀ ref ∈ node.sourceClaimRefs, ref ∈ claim.sourceClaimRefs →
        ((stays node = true ↔ joins claim = false) ↔
          (outputNodeRef env command claim ∉ state.nodes.keys ↔
            node.sourceClaimRefs ⊆ claim.sourceClaimRefs)) := by
    intro node hnode claim hclaim ref href hshared
    have hactive := comparedNodes_subset_active hregroups hnode
    have hsource := active_mem_sources_iff hraw hnodup hpartition hregroups hactive
    have hinside := exists_output_superset_iff hnodup hpartition hregroups hclaim href hshared
    have hiff : node.nodeRef ∈ sources ↔ node.sourceClaimRefs ⊆ claim.sourceClaimRefs := by
      rw [← hinside]
      exact hsource.trans (and_iff_right hnode)
    simp only [stays, joins, decide_eq_true_eq, decide_eq_false_iff_not, not_not, hiff]
    tauto
  constructor
  · rintro hall node hnode claim hclaim ⟨ref, href, hshared⟩
    exact (hstays node hnode claim hclaim ref href hshared).mp
      (hall node hnode claim hclaim ref href hshared)
  · intro hall node hnode claim hclaim ref href hshared
    exact (hstays node hnode claim hclaim ref href hshared).mpr
      (hall node hnode claim hclaim ⟨ref, href, hshared⟩)

/-! Runs of applications -/

/-- One step of the database as a group sees it: an application to the group
that regroups active nodes and that `allowed` admits, or work of other groups,
which leaves the rows of this group as they are. -/
inductive GroupStep (env : CompactionEnv) (group : GroupKey)
    (allowed : Table NodeRow.nodeRef → ApplyCompactedClaims → Prop) :
    ReductionState → ReductionState → Prop
  | apply {before after : ReductionState} (command : ApplyCompactedClaims)
      (result : ApplyPersistenceResult) (hgroup : command.group = group)
      (hregroups : RegroupsComparedNodes before.nodes command)
      (hallowed : allowed before.nodes command)
      (h : applyCompactedClaimsResult env before command = .ok (result, after)) :
      GroupStep env group allowed before after
  | elsewhere {before after : ReductionState}
      (hrows : ∀ row : NodeRow, row.group = group →
        (row ∈ after.nodes.rows ↔ row ∈ before.nodes.rows)) :
      GroupStep env group allowed before after

/-- An application writes only compacted references, so raw references keep
their claims. -/
theorem rawNodesSound_after {env : CompactionEnv} {state after : ReductionState}
    {command : ApplyCompactedClaims} {result : ApplyPersistenceResult}
    (hraw : RawNodesSound state.nodes command.group)
    (h : applyCompactedClaimsResult env state command = .ok (result, after)) :
    RawNodesSound after.nodes command.group := by
  obtain ⟨hnodup, hnodes⟩ := applyCompactedClaimsResult_nodes h
  have hrows := rows_foldl_nodesAfterClaim env command
    (sourceClaimRefsByNodeRef (comparedNodes state.nodes command)) command.compactedClaims
    state.nodes hnodup (fun _ _ hnew _ _ => outputNodeRef_notMem_sources env hnew)
  intro row hrow hgroup ref hname
  rw [hnodes, hrows, List.mem_append] at hrow
  rcases hrow with hold | hnew
  · obtain ⟨old, hmem, rfl⟩ := List.mem_map.mp hold
    unfold deactivated at hgroup hname ⊢
    split at hgroup
    · next hcondition =>
      simp only [hcondition, if_true] at hname ⊢
      exact hraw old hmem hgroup ref hname
    · next hcondition =>
      simp only [hcondition] at hname ⊢
      exact hraw old hmem hgroup ref hname
  · obtain ⟨claim, _, rfl⟩ := List.mem_map.mp hnew
    exact absurd hname (compactedClaimNodeRef_ne_raw env command.group command.group _ ref)

theorem activeNodes_perm_of_rows {before after : Table NodeRow.nodeRef} {group : GroupKey}
    (hrows : ∀ row : NodeRow, row.group = group → (row ∈ after.rows ↔ row ∈ before.rows)) :
    (activeNodes after group).Perm (activeNodes before group) := by
  rw [List.perm_ext_iff_of_nodup (nodup_activeNodes after group) (nodup_activeNodes before group)]
  intro row
  rw [mem_activeNodes, mem_activeNodes]
  constructor
  · rintro ⟨hrow, hgroup, hactive⟩
    exact ⟨(hrows row hgroup).mp hrow, hgroup, hactive⟩
  · rintro ⟨hrow, hgroup, hactive⟩
    exact ⟨(hrows row hgroup).mpr hrow, hgroup, hactive⟩

/-- A step whose application replaces whole nodes by new nodes keeps the
partition and the raw nodes. -/
theorem groupStep_keeps_partition {env : CompactionEnv} {group : GroupKey}
    {rawClaims : List String} (hnodup : rawClaims.Nodup) {before after : ReductionState}
    (hinv : RawNodesSound before.nodes group ∧ ActiveClaimsPartition before.nodes group rawClaims)
    (hstep : GroupStep env group (NewNodesTakeWholeNodes env) before after) :
    RawNodesSound after.nodes group ∧ ActiveClaimsPartition after.nodes group rawClaims := by
  obtain ⟨hraw, hpartition⟩ := hinv
  cases hstep with
  | apply command result hgroup hregroups hallowed h =>
    subst hgroup
    exact ⟨rawNodesSound_after hraw h,
      (activeClaimsPartition_after_iff hraw hnodup hpartition hregroups h).mpr hallowed⟩
  | elsewhere hrows =>
    constructor
    · intro row hrow hrowGroup
      exact hraw row ((hrows row hrowGroup).mp hrow) hrowGroup
    · exact ((activeNodes_perm_of_rows hrows).flatMap_right NodeRow.sourceClaimRefs).trans
        hpartition

/-- Applications keep every raw claim in exactly one active node exactly when
new nodes take whole compared nodes: for one application from any state with
the partition, and so for every run whose applications all meet the condition. -/
theorem compaction_partition_exact (env : CompactionEnv) :
    (∀ (state after : ReductionState) (command : ApplyCompactedClaims)
        (result : ApplyPersistenceResult) (rawClaims : List String),
      RawNodesSound state.nodes command.group → rawClaims.Nodup →
      ActiveClaimsPartition state.nodes command.group rawClaims →
      RegroupsComparedNodes state.nodes command →
      applyCompactedClaimsResult env state command = .ok (result, after) →
      (ActiveClaimsPartition after.nodes command.group rawClaims ↔
        NewNodesTakeWholeNodes env state.nodes command)) ∧
    (∀ (group : GroupKey) (rawClaims : List String) (first last : ReductionState),
      RawNodesSound first.nodes group → rawClaims.Nodup →
      ActiveClaimsPartition first.nodes group rawClaims →
      Relation.ReflTransGen (GroupStep env group (NewNodesTakeWholeNodes env)) first last →
      ActiveClaimsPartition last.nodes group rawClaims) := by
  constructor
  · intro state after command result rawClaims hraw hnodup hpartition hregroups h
    exact activeClaimsPartition_after_iff hraw hnodup hpartition hregroups h
  · intro group rawClaims first last hraw hnodup hpartition hrun
    exact (Runs.invariant (fun _ _ hinv hstep => groupStep_keeps_partition hnodup hinv hstep) hrun
      ⟨hraw, hpartition⟩).2

/-! A result that keeps a compacted node -/

def sampleGroup : GroupKey := ⟨"w", "g", by decide, by decide⟩

/-- SHA-256 on the texts that the sample group hashes. -/
def sampleEnv : CompactionEnv where
  sha256Hexdigest text :=
    if text = "w:g:a" then "65750fdecad23a644f0cd0614b28eb9b5af6d612fcc116c319d72ebe36862cb6"
    else if text = "w:g:b" then "b976c744cc00582904403426be6b8af9c9e7ce8582e189f825b8658a69e92909"
    else "d0a12ac6d2dfe360da5de0f545c4cda7de5fd6cf98dd095cd651e6717eca9c72"
  estimatedCompactedClaimTokens _ := 1

def sampleClaim (ref : String) (htext : isBlank ref = false) : OutputClaim :=
  { key := "key", claim := "claim", claimKind := .other, granularity := .atomic
    sourceClaimRefs := [ref], triples := [], mergeDecision := .unmerged
    possibleQuestions := [], exclusionScope := "", evidenceBlock := "evidence"
    sourceClaimRefs_ne_nil := by simp, sourceClaimRefs_nodup := by simp
    sourceClaimRefs_text := nonblank_singleton htext }

def sampleNode (nodeRef : String) (kind : NodeKind) (active : Bool) (ref : String) : NodeRow :=
  { nodeRef := nodeRef, group := sampleGroup, nodeKind := kind, active := active
    sourceClaimRefs := [ref], supersedesNodeRefs := [], artifactTokens := 1, compacted := none
    createdAt := 0, updatedAt := 0 }

def stateOfNodes (nodes : Table NodeRow.nodeRef) : ReductionState :=
  { nodes := nodes, nodeSources := .empty, comparisons := .empty, components := .empty
    incompatibilities := .empty, separationEdges := .empty }

/-- Three raw claims as the seeding writes them. -/
def seededNodes : Table NodeRow.nodeRef where
  rows := [sampleNode (rawClaimNodeRef sampleGroup "a") .raw true "a",
    sampleNode (rawClaimNodeRef sampleGroup "b") .raw true "b",
    sampleNode (rawClaimNodeRef sampleGroup "c") .raw true "c"]
  key_nodup := by decide

/-- The same claims after a first result kept `a` and `b` apart. -/
def keptApartNodes : Table NodeRow.nodeRef where
  rows := [sampleNode (rawClaimNodeRef sampleGroup "a") .raw false "a",
    sampleNode (rawClaimNodeRef sampleGroup "b") .raw false "b",
    sampleNode (rawClaimNodeRef sampleGroup "c") .raw true "c",
    sampleNode (compactedClaimNodeRef sampleEnv sampleGroup ["a"]) .compacted true "a",
    sampleNode (compactedClaimNodeRef sampleEnv sampleGroup ["b"]) .compacted true "b"]
  key_nodup := by decide

/-- A result that keeps the two compared nodes apart. -/
def keepApart (roundIndex : Nat) (comparedNodeRefs : List String) (first second : OutputClaim) :
    ApplyCompactedClaims :=
  { group := sampleGroup, batchRef := "batch", workItemId := "item", roundIndex := roundIndex
    compactedClaims := [first, second], comparedNodeRefs := comparedNodeRefs, createdAt := 1 }

def keepRawApart : ApplyCompactedClaims :=
  keepApart 0 [rawClaimNodeRef sampleGroup "a", rawClaimNodeRef sampleGroup "b"]
    (sampleClaim "a" (by decide)) (sampleClaim "b" (by decide))

def keepCompactedApart : ApplyCompactedClaims :=
  keepApart 1 [compactedClaimNodeRef sampleEnv sampleGroup ["a"], rawClaimNodeRef sampleGroup "c"]
    (sampleClaim "a" (by decide)) (sampleClaim "c" (by decide))

theorem rawNodesSound_of_refs {nodes : Table NodeRow.nodeRef} {group : GroupKey}
    (h : ∀ row ∈ nodes.rows, (∃ ref, row.nodeRef = rawClaimNodeRef group ref ∧
        row.sourceClaimRefs = [ref]) ∨
      ∃ env refs, row.nodeRef = compactedClaimNodeRef env group refs) :
    RawNodesSound nodes group := by
  intro row hrow _ ref hname
  rcases h row hrow with ⟨other, hother, hrefs⟩ | ⟨env, refs, hcompacted⟩
  · have heq := rawClaimNodeRef_injective group (hother.symm.trans hname)
    rw [hrefs, heq]
  · exact absurd (hcompacted.symm.trans hname)
      (compactedClaimNodeRef_ne_raw env group group refs ref)

theorem seededNodes_sound : RawNodesSound seededNodes sampleGroup := by
  apply rawNodesSound_of_refs
  intro row hrow
  simp only [seededNodes, List.mem_cons, List.not_mem_nil, or_false] at hrow
  rcases hrow with rfl | rfl | rfl
  · exact .inl ⟨"a", rfl, rfl⟩
  · exact .inl ⟨"b", rfl, rfl⟩
  · exact .inl ⟨"c", rfl, rfl⟩

theorem keptApartNodes_sound : RawNodesSound keptApartNodes sampleGroup := by
  apply rawNodesSound_of_refs
  intro row hrow
  simp only [keptApartNodes, List.mem_cons, List.not_mem_nil, or_false] at hrow
  rcases hrow with rfl | rfl | rfl | rfl | rfl
  · exact .inl ⟨"a", rfl, rfl⟩
  · exact .inl ⟨"b", rfl, rfl⟩
  · exact .inl ⟨"c", rfl, rfl⟩
  · exact .inr ⟨sampleEnv, ["a"], rfl⟩
  · exact .inr ⟨sampleEnv, ["b"], rfl⟩

theorem keepRawApart_regroups : RegroupsComparedNodes seededNodes keepRawApart where
  compared_active := by decide
  outputs_cover := by
    unfold BlockCover.Covers
    decide

theorem keepCompactedApart_regroups : RegroupsComparedNodes keptApartNodes keepCompactedApart where
  compared_active := by decide
  outputs_cover := by
    unfold BlockCover.Covers
    decide

/-- A first comparison of raw nodes meets the condition, so the run that
consists of its application keeps the partition. -/
theorem compaction_partition_exact_raw :
    ∃ result after, applyCompactedClaimsResult sampleEnv (stateOfNodes seededNodes) keepRawApart =
        .ok (result, after) ∧
      (ActiveClaimsPartition after.nodes sampleGroup ["a", "b", "c"] ↔
        NewNodesTakeWholeNodes sampleEnv seededNodes keepRawApart) ∧
      ActiveClaimsPartition after.nodes sampleGroup ["a", "b", "c"] := by
  have hsome : (applyCompactedClaimsResult sampleEnv (stateOfNodes seededNodes)
      keepRawApart).toOption.isSome = true := by decide
  cases happly : applyCompactedClaimsResult sampleEnv (stateOfNodes seededNodes) keepRawApart with
  | error fault => simp [happly, Except.toOption] at hsome
  | ok value =>
    obtain ⟨result, after⟩ := value
    have hpartition : ActiveClaimsPartition seededNodes sampleGroup ["a", "b", "c"] := by
      unfold ActiveClaimsPartition Covers
      decide
    have hwhole : NewNodesTakeWholeNodes sampleEnv seededNodes keepRawApart := by
      unfold NewNodesTakeWholeNodes
      decide
    refine ⟨result, after, rfl, ?_, ?_⟩
    · exact (compaction_partition_exact sampleEnv).1 (stateOfNodes seededNodes) after keepRawApart
        result ["a", "b", "c"] seededNodes_sound (by decide) hpartition keepRawApart_regroups happly
    · exact (compaction_partition_exact sampleEnv).2 sampleGroup ["a", "b", "c"]
        (stateOfNodes seededNodes) after seededNodes_sound (by decide) hpartition
        (.single (.apply keepRawApart result rfl keepRawApart_regroups hwhole happly))

/-- The next result keeps the compacted node of `a` apart from the raw node of
`c`. Its output for `a` is the compared node itself: the insertion does nothing
and the deactivation takes the node away. -/
theorem keepCompactedApart_loses_claim :
    ¬ ∀ (state after : ReductionState) (command : ApplyCompactedClaims)
        (result : ApplyPersistenceResult) (rawClaims : List String),
      RawNodesSound state.nodes command.group → rawClaims.Nodup →
      ActiveClaimsPartition state.nodes command.group rawClaims →
      command.comparedNodeRefs.length = 2 → RegroupsComparedNodes state.nodes command →
      applyCompactedClaimsResult sampleEnv state command = .ok (result, after) →
      ActiveClaimsPartition after.nodes command.group rawClaims := by
  intro hclaim
  have hactive : (applyCompactedClaimsResult sampleEnv (stateOfNodes keptApartNodes)
      keepCompactedApart).toOption.map (fun applied =>
        (activeNodes applied.2.nodes sampleGroup).flatMap NodeRow.sourceClaimRefs) =
      some ["b", "c"] := by decide
  cases happly : applyCompactedClaimsResult sampleEnv (stateOfNodes keptApartNodes)
      keepCompactedApart with
  | error fault => simp [happly, Except.toOption] at hactive
  | ok value =>
    obtain ⟨result, after⟩ := value
    have hpartition : ActiveClaimsPartition keptApartNodes sampleGroup ["a", "b", "c"] := by
      unfold ActiveClaimsPartition Covers
      decide
    have hkept := hclaim (stateOfNodes keptApartNodes) after keepCompactedApart result
      ["a", "b", "c"] keptApartNodes_sound (by decide) hpartition rfl keepCompactedApart_regroups
      happly
    simp only [happly, Except.toOption, Option.map_some, Option.some.injEq] at hactive
    have hlength := hkept.length_eq
    simp only [keepCompactedApart, keepApart, hactive, List.length_cons, List.length_nil] at hlength
    omega

end CrmBot.Compaction
