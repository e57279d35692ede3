import CrmBot.Compaction.BatchBudget
import CrmBot.Compaction.NodeRefs
import CrmBot.Compaction.StoredRows

/-! Runs of the pipeline.

Only the clustering handler seeds raw nodes, for groups and claims that are
named by digests. Such a node is never lost, and planning of its group is not
done while a pair with it is undecided. -/

namespace CrmBot.Compaction

open Relational CrmBot.Python FailingFold

/-- The group and the claim are named as the grouping policy and the writer of
the claims name them, by hexadecimal digests. -/
def BuiltReferences (group : GroupKey) (observationRef : String) : Prop :=
  (∃ digest, ':' ∉ digest.toList ∧ group.groupRef = "draft-claim-compaction-group:" ++ digest) ∧
    ∃ digest, ':' ∉ digest.toList ∧ observationRef = "draft-claim-observation:" ++ digest

def CompactionGroup.Built (group : CompactionGroup) : Prop :=
  ∀ ref ∈ group.memberObservationRefs, BuiltReferences group.key ref

/-- One transaction of the pipeline that writes to the reduction state. -/
inductive PipelineStep (env : CompactionEnv) : ReductionState → ReductionState → Prop
  | cluster {before after : ReductionState} {plan : BudgetPlan} (policy : BatchBudgetPolicy)
    (claims : List DraftClaimForCompaction) (groups : List CompactionGroup) (createdAt : Int)
    (hbuilt : ∀ group ∈ groups, group.Built)
    (hcluster : clusterDraftClaims policy env.sha256Hexdigest claims groups createdAt before =
      .ok (plan, after)) :
    PipelineStep env before after
  | apply {before after : ReductionState} {counts : ApplyPersistenceResult}
    (result : CompactionResult) (happly : result.apply env before = .ok (counts, after)) :
    PipelineStep env before after

def PipelineReachable (env : CompactionEnv) : ReductionState → Prop :=
  Relation.ReflTransGen (PipelineStep env) emptyReductionState

/-- The claim has a raw node in every state to come, and as long as that node is
active, planning of its group is done only when it is decided against every other
active node. -/
def StaysPlanned (env : CompactionEnv) (state : ReductionState) (group : GroupKey)
    (observationRef : String) : Prop :=
  ∀ later, Relation.ReflTransGen (PipelineStep env) state later →
    ∃ node ∈ later.nodes.rows, ∃ planner,
      node.nodeRef = rawClaimNodeRef group observationRef ∧ node.nodeKind = .raw ∧
      node.group = group ∧ node.sourceClaimRefs = [observationRef] ∧
      loadPlannerState later group = some planner ∧ node ∈ planner.nodes ∧
      (node.active = true → (planNextStep planner).nextWorkItem.workType = .done →
        ∀ other ∈ orderedActiveNodes planner, node.nodeRef ≠ other.nodeRef →
          Decided planner node other)

/-! References. -/

/-- A raw node reference names its group and its claim. -/
theorem eq_of_rawClaimNodeRef_eq {group other : GroupKey} {ref otherRef : String}
    (hbuilt : BuiltReferences group ref) (hother : BuiltReferences other otherRef)
    (h : rawClaimNodeRef group ref = rawClaimNodeRef other otherRef) :
    group = other ∧ ref = otherRef := by
  obtain ⟨⟨groupDigest, hgroupDigest, hgroup⟩, digest, hdigest, href⟩ := hbuilt
  obtain ⟨⟨groupDigest', hgroupDigest', hgroup'⟩, digest', hdigest', href'⟩ := hother
  -- the two digests are what stands behind the last colons
  have hshape : ∀ (run groupDigest digest : List Char),
      "raw".toList ++ ':' :: (run ++ ':' ::
          (("draft-claim-compaction-group:".toList ++ groupDigest) ++ ':' ::
            ("draft-claim-observation:".toList ++ digest))) =
        ((("raw:".toList ++ (run ++ ":draft-claim-compaction-group".toList)) ++
          ':' :: groupDigest) ++ ":draft-claim-observation".toList) ++ ':' :: digest := by
    intro run groupDigest digest
    simp
  have hlist := congrArg String.toList h
  rw [toList_rawClaimNodeRef, toList_rawClaimNodeRef, hgroup, hgroup', href, href',
    String.toList_append, String.toList_append, String.toList_append, String.toList_append,
    hshape, hshape] at hlist
  obtain ⟨hfront, hsame⟩ := Delimited.split_last_eq hdigest hdigest' hlist
  obtain ⟨hrun, hsameGroup⟩ := Delimited.split_last_eq hgroupDigest hgroupDigest'
    (List.append_cancel_right hfront)
  have hrunList := List.append_cancel_right (List.append_cancel_left hrun)
  constructor
  · rw [GroupKey.mk.injEq]
    refine ⟨String.toList_inj.mp hrunList, ?_⟩
    rw [hgroup, hgroup', String.toList_inj.mp hsameGroup]
  · rw [href, href', String.toList_inj.mp hsame]

/-! What holds in every state of a run. -/

variable {env : CompactionEnv}

/-- The node is an output, or the raw node of a claim that is named by a digest. -/
def IsPipelineNode (env : CompactionEnv) (row : NodeRow) : Prop :=
  IsOutputNode env row ∨ ∃ ref, BuiltReferences row.group ref ∧ row.nodeKind = .raw ∧
    row.nodeRef = rawClaimNodeRef row.group ref ∧ row.sourceClaimRefs = [ref]

def HasPipelineNodes (env : CompactionEnv) (nodes : Table NodeRow.nodeRef) : Prop :=
  ∀ row ∈ nodes.rows, IsPipelineNode env row

structure PipelineInvariant (env : CompactionEnv) (state : ReductionState) : Prop where
  results : ResultsStored state
  nodes : HasPipelineNodes env state.nodes

theorem IsPipelineNode.deactivated {row : NodeRow} (h : IsPipelineNode env row)
    (nodeRefs : List String) (now : Int) : IsPipelineNode env (deactivated nodeRefs now row) := by
  rcases h with houtput | ⟨ref, hbuilt, hkind, hnamed, hsources⟩
  · exact .inl (houtput.deactivated nodeRefs now)
  · refine .inr ⟨ref, ?_, ?_, ?_, ?_⟩
    · rwa [deactivated_group]
    · rwa [deactivated_nodeKind]
    · rwa [deactivated_nodeRef, deactivated_group]
    · rwa [deactivated_sourceClaimRefs]

theorem HasPipelineNodes.insertOrIgnore {nodes : Table NodeRow.nodeRef} {row : NodeRow}
    (h : HasPipelineNodes env nodes) (hrow : IsPipelineNode env row) :
    HasPipelineNodes env (nodes.insertOrIgnore row) := by
  intro other hother
  rcases Table.mem_insertOrIgnore.mp hother with hold | ⟨_, rfl⟩
  · exact h other hold
  · exact hrow

theorem HasPipelineNodes.deactivateNodes {nodes : Table NodeRow.nodeRef}
    (h : HasPipelineNodes env nodes) (nodeRefs : List String) (now : Int) :
    HasPipelineNodes env (deactivateNodes nodes nodeRefs now) := by
  intro row hrow
  rw [rows_deactivateNodes] at hrow
  obtain ⟨old, hold, rfl⟩ := List.mem_map.mp hrow
  exact (h old hold).deactivated nodeRefs now

theorem pipelineInvariant_apply {before after : ReductionState} {result : CompactionResult}
    {counts : ApplyPersistenceResult} (hbefore : PipelineInvariant env before)
    (happly : result.apply env before = .ok (counts, after)) : PipelineInvariant env after where
  results := resultsStored_apply hbefore.results happly
  nodes := apply_nodes_induction (HasPipelineNodes env)
    (fun _ _ hrow hnodes => hnodes.insertOrIgnore (.inl hrow))
    (fun _ nodeRefs now hnodes => hnodes.deactivateNodes nodeRefs now) happly hbefore.nodes

/-- One seeded group. -/
theorem pipelineInvariant_seedGroup {claims : List DraftClaimForCompaction} {createdAt : Int}
    {before after : ReductionState} {group : CompactionGroup} (hbuilt : group.Built)
    (hbefore : PipelineInvariant env before)
    (h : seedGroup claims createdAt before group = .ok after) : PipelineInvariant env after := by
  obtain ⟨seeds, hseeds, rfl⟩ := map_eq_ok.mp h
  have hrefs := rawNodesForGroup_refs hseeds
  refine ⟨resultsStored_seedInitialPlannerState group.key seeds createdAt hbefore.results, ?_⟩
  rw [nodes_seedInitialPlannerState]
  intro row hrow
  rcases Table.mem_of_mem_foldl_insertOrIgnore hrow with hold | hnew
  · exact hbefore.nodes row hold
  · obtain ⟨seed, hseed, rfl⟩ := List.mem_map.mp hnew
    refine .inr ⟨seed.observationRef, hbuilt _ ?_, rfl, rfl, rfl⟩
    rw [← hrefs]
    exact List.mem_map_of_mem hseed

/-- The groups of a plan are named as the groups it is made of. -/
theorem built_of_mem_plan {policy : BatchBudgetPolicy} {sha256Hexdigest : String → String}
    {claims : List DraftClaimForCompaction} {groups : List CompactionGroup} {plan : BudgetPlan}
    (h : policy.buildBatches sha256Hexdigest claims groups = .ok plan)
    (hbuilt : ∀ group ∈ groups, group.Built) : ∀ planned ∈ plan.groups, planned.Built := by
  intro planned hplanned ref href
  obtain ⟨group, hgroup, hkey, hrefs⟩ :=
    (BatchBudgetPolicy.exists_mem_plan_iff h).mp ⟨planned, hplanned, rfl, rfl⟩
  rw [← hrefs] at href
  rw [← hkey]
  exact hbuilt group hgroup ref href

theorem pipelineInvariant_step {before after : ReductionState}
    (hbefore : PipelineInvariant env before) (hstep : PipelineStep env before after) :
    PipelineInvariant env after := by
  cases hstep with
  | cluster policy claims groups createdAt hbuilt hcluster =>
    obtain ⟨plan, hplan, hrest⟩ := bind_eq_ok.mp hcluster
    obtain ⟨seeded, hseeded, hpure⟩ := bind_eq_ok.mp hrest
    simp only [pure, Except.pure, Except.ok.injEq, Prod.mk.injEq] at hpure
    have hplanBuilt := built_of_mem_plan hplan hbuilt
    rw [← hpure.2]
    exact invariant_foldlM (PipelineInvariant env)
      (fun group hgroup _ _ hseed hstart =>
        pipelineInvariant_seedGroup (hplanBuilt group hgroup) hstart hseed) hseeded hbefore
  | apply result happly => exact pipelineInvariant_apply hbefore happly

theorem pipelineInvariant_run {first last : ReductionState}
    (hrun : Relation.ReflTransGen (PipelineStep env) first last)
    (hfirst : PipelineInvariant env first) : PipelineInvariant env last := by
  have hstep : ∀ before after, PipelineInvariant env before → PipelineStep env before after →
      PipelineInvariant env after := fun _ _ => pipelineInvariant_step
  exact Runs.invariant hstep hrun hfirst

theorem pipelineInvariant_of_reachable {state : ReductionState}
    (hreach : PipelineReachable env state) : PipelineInvariant env state := by
  have hempty : PipelineInvariant env emptyReductionState := by
    refine ⟨⟨?_, ?_⟩, ?_⟩ <;> intro row hrow <;> simp [emptyReductionState] at hrow
  exact pipelineInvariant_run hreach hempty

/-! No node is lost. -/

theorem mem_keys_seedGroup {claims : List DraftClaimForCompaction} {createdAt : Int}
    {before after : ReductionState} {group : CompactionGroup}
    (h : seedGroup claims createdAt before group = .ok after) {nodeRef : String} :
    nodeRef ∈ after.nodes.keys ↔ nodeRef ∈ before.nodes.keys ∨
      ∃ ref ∈ group.memberObservationRefs, rawClaimNodeRef group.key ref = nodeRef := by
  obtain ⟨seeds, hseeds, rfl⟩ := map_eq_ok.mp h
  rw [nodes_seedInitialPlannerState, Table.mem_keys_foldl_insertOrIgnore,
    ← rawNodesForGroup_refs hseeds]
  simp [initialRawNode]

/-- The nodes of all groups. -/
theorem mem_keys_seedGroups {claims : List DraftClaimForCompaction} {createdAt : Int}
    {groups : List CompactionGroup} {before after : ReductionState}
    (h : groups.foldlM (seedGroup claims createdAt) before = .ok after) {nodeRef : String} :
    nodeRef ∈ after.nodes.keys ↔ nodeRef ∈ before.nodes.keys ∨
      ∃ group ∈ groups, ∃ ref ∈ group.memberObservationRefs,
        rawClaimNodeRef group.key ref = nodeRef := by
  induction groups generalizing before with
  | nil =>
    simp only [List.foldlM_nil, pure, Except.pure, Except.ok.injEq] at h
    simp [h]
  | cons group rest ih =>
    rw [List.foldlM_cons, bind_eq_ok] at h
    obtain ⟨middle, hfirst, hrest⟩ := h
    rw [ih hrest, mem_keys_seedGroup hfirst, List.exists_mem_cons_iff, or_assoc]

theorem mem_keys_step {before after : ReductionState} (hstep : PipelineStep env before after)
    {nodeRef : String} (h : nodeRef ∈ before.nodes.keys) : nodeRef ∈ after.nodes.keys := by
  cases hstep with
  | cluster policy claims groups createdAt hbuilt hcluster =>
    obtain ⟨plan, _, hrest⟩ := bind_eq_ok.mp hcluster
    obtain ⟨seeded, hseeded, hpure⟩ := bind_eq_ok.mp hrest
    simp only [pure, Except.pure, Except.ok.injEq, Prod.mk.injEq] at hpure
    rw [← hpure.2]
    exact (mem_keys_seedGroups hseeded).mpr (.inl h)
  | apply result happly =>
    refine apply_nodes_induction (fun nodes => nodeRef ∈ nodes.keys) ?_ ?_ happly h
    · intro nodes row _ hmem
      exact Table.keys_insertOrIgnore.mpr (.inl hmem)
    · intro nodes nodeRefs now hmem
      rwa [keys_deactivateNodes]

theorem mem_keys_run {first last : ReductionState}
    (hrun : Relation.ReflTransGen (PipelineStep env) first last) {nodeRef : String}
    (hfirst : nodeRef ∈ first.nodes.keys) : nodeRef ∈ last.nodes.keys := by
  have hstep : ∀ before after, nodeRef ∈ before.nodes.keys → PipelineStep env before after →
      nodeRef ∈ after.nodes.keys := fun _ _ h hstep => mem_keys_step hstep h
  exact Runs.invariant hstep hrun hfirst

theorem exists_loadPlannerState {state : ReductionState} {node : NodeRow}
    (h : node ∈ state.nodes.rows) :
        ∃ planner, loadPlannerState state node.group = some planner := by
  simp only [loadPlannerState]
  split
  · next hnil =>
    have hnode : node ∈ (state.nodes.rows.filter fun row => row.group = node.group).insertionSort
        fun first second => first.nodeRef ≤ second.nodeRef := by
      simpa using h
    rw [hnil] at hnode
    cases hnode
  · exact ⟨_, rfl⟩

/-- A claim whose raw node is recorded stays planned. -/
theorem staysPlanned_of_mem_keys {state : ReductionState} (hstate : PipelineInvariant env state)
    {group : GroupKey} {ref : String} (hbuilt : BuiltReferences group ref)
    (hmem : rawClaimNodeRef group ref ∈ state.nodes.keys) : StaysPlanned env state group ref := by
  intro later hrun
  have hlater := pipelineInvariant_run hrun hstate
  obtain ⟨node, hnode, hnodeRef⟩ := Table.mem_keys.mp (mem_keys_run hrun hmem)
  rcases hlater.nodes node hnode with houtput | ⟨other, hother, hkind, hnamed, hclaims⟩
  · rw [houtput.named] at hnodeRef
    exact absurd hnodeRef (compactedClaimNodeRef_ne_raw _ _ _ _ _)
  obtain ⟨rfl, rfl⟩ := eq_of_rawClaimNodeRef_eq hother hbuilt (hnamed.symm.trans hnodeRef)
  obtain ⟨planner, hplanner⟩ := exists_loadPlannerState hnode
  have hloaded : node ∈ planner.nodes := (mem_loadedNodes hplanner).mpr ⟨hnode, rfl⟩
  have hsources : ∀ row ∈ later.nodes.rows, row.sourceClaimRefs ≠ [] := by
    intro row hrow
    rcases hlater.nodes row hrow with houtput | ⟨source, _, _, _, hsource⟩
    · exact houtput.sources_ne_nil
    · rw [hsource]
      exact List.cons_ne_nil _ _
  refine ⟨node, hnode, planner, hnodeRef, hkind, rfl, hclaims, hplanner, hloaded, ?_⟩
  intro hactive hdone other hotherActive hne
  exact decided_of_done hlater.results hsources hplanner hdone
    (mem_orderedActiveNodes.mpr ⟨hloaded, hactive⟩) hotherActive hne

end CrmBot.Compaction
