import CrmBot.Compaction.PairRetirement
import CrmBot.Library.FreshItems

/-! The reduction loop of one group.

The planner asks about two nodes, some partition of their claims is applied, and
the planner is asked again. Whatever the answers are, the loop comes to an end, and
no two nodes are asked about twice. -/

namespace CrmBot.Compaction

open Relational CrmBot.Python

/-- The result is about the nodes of the work item: compacted claims that regroup
theirs, or a rewrite of them. -/
def CompactionResult.Answers (group : GroupKey) (state : ReductionState) (item : NextWorkItem) :
    CompactionResult → Prop
  | compacted command => item.workType ≠ .reducedRewrite ∧ command.group = group ∧
    command.comparedNodeRefs = item.nodeRefs ∧ RegroupsComparedNodes state.nodes command
  | rewrite command => item.workType = .reducedRewrite ∧ command.group = group ∧
    command.sourceNodeRefs = item.nodeRefs

/-- One turn of the loop: the next work item of the group is answered, and the
answer is applied. -/
def ReductionTurn (env : CompactionEnv) (group : GroupKey) (before : ReductionState)
    (pair : String × String) (after : ReductionState) : Prop :=
  ∃ planner result counts, loadPlannerState before group = some planner ∧
    (planNextStep planner).nextWorkItem.workType.isExecutable = true ∧
    CompactionResult.Answers group before (planNextStep planner).nextWorkItem result ∧
    result.apply env before = .ok (counts, after) ∧
    ∃ left right, (planNextStep planner).nextWorkItem.nodeRefs = [left, right] ∧
      pair = pairKey left right

variable {env : CompactionEnv} {group : GroupKey} {claims : List String}

/-! What the planner asks for. -/

theorem canCompare_of_proposes {state : PlannerState} {step : PlanningStep}
    {pair : String × String} (h : step.Proposes state pair)
    (htype : step.workType ≠ .reducedRewrite) :
    (LineageComparisonIndex.fromState state).canCompare state.comparisons pair.1 pair.2 = true := by
  cases step with
  | rewrite left right raw => exact absurd rfl htype
  | compactedPair left right =>
    obtain ⟨hcompare, rfl⟩ := h
    exact hcompare.1
  | probe left right node raw =>
    obtain ⟨-, hcompare, rfl⟩ := h
    exact hcompare.1
  | mixed node raw =>
    obtain ⟨hcompare, rfl⟩ := h
    exact hcompare.1
  | draftPair left right =>
    obtain ⟨hcompare, rfl⟩ := h
    exact hcompare.1

section Planned

variable {state : ReductionState} {planner : PlannerState}
  (hstate : GroupState env group claims state)
  (hload : loadPlannerState state group = some planner)

include hstate hload

/-- No rewrite is asked for: what merged with a raw node is not active any more. -/
theorem not_bridgeRewrite (item : NextWorkItem) (left right raw : NodeRow) :
    ¬ BridgeRewrite planner item left right raw := by
  intro h
  obtain ⟨row, hrow, hstatus, hkey⟩ := exists_of_comparisonStatus h.left_merged
  obtain ⟨hmem, hgroup⟩ := (mem_loadedComparisons hload).mp hrow
  have hours := hstate.comparisons row hmem (.inl hgroup)
  rcases hours.status with ⟨-, hleft, hright⟩ | ⟨hother, -⟩
  · have hsuperseded : Superseded state.nodes left.nodeRef := by
      rcases pairKey_eq_iff.mp hkey with ⟨hends, -⟩ | ⟨-, hends⟩
      · exact hends ▸ hleft
      · exact hends ▸ hright
    have hactive := h.active.1
    rw [inactive_of_superseded hload h.left_mem hsuperseded] at hactive
    cases hactive
  · rw [hstatus] at hother
    cases hother

/-- The planner asks about two nodes whose claims are of no common class. -/
theorem soundComparison_of_executable
    (h : (planNextStep planner).nextWorkItem.workType.isExecutable = true) :
    (planNextStep planner).nextWorkItem.workType ≠ .reducedRewrite ∧
      ∃ left right, SoundComparison planner (planNextStep planner).nextWorkItem left right ∧
        ¬ KeptApart planner left right := by
  have hplanner := hstate.wellFormed hload
  obtain ⟨-, step, pair, hfirst, hasks⟩ := firstProposal_of_planNextStep h
  rcases PlanningStep.Proposes.cases hplanner hfirst.mem hfirst.1 hasks with
    ⟨hcompares, left, right, hsound⟩ | ⟨-, left, right, raw, hbridge⟩
  · have htype : step.workType ≠ .reducedRewrite := by
      intro hrewrite
      exact not_comparesNodes_reducedRewrite (hrewrite ▸ hcompares)
    have hcompare := canCompare_of_proposes hfirst.1 htype
    have hrefs : [pair.1, pair.2] = [left.nodeRef, right.nodeRef] :=
      hasks.2.symm.trans hsound.nodeRefs_eq
    simp only [List.cons.injEq, and_true] at hrefs
    rw [hrefs.1, hrefs.2] at hcompare
    obtain ⟨hoverlap, -, -, hseparated⟩ :=
      (canCompare_iff hplanner hsound.left_mem hsound.right_mem).mp hcompare
    exact ⟨hasks.1 ▸ htype, left, right, hsound, not_or.mpr ⟨hoverlap, hseparated⟩⟩
  · exact absurd hbridge (not_bridgeRewrite hstate hload _ left right raw)

/-- The planner does not ask about a retired pair. -/
theorem not_retiredPair_of_asked {item : NextWorkItem} {left right : NodeRow}
    (h : SoundComparison planner item left right) (happart : ¬ KeptApart planner left right) :
    ¬ RetiredPair group state (left.nodeRef, right.nodeRef) := by
  rintro (hleft | hright | ⟨other, hother, first, hfirst, second, hsecond, hrefs, hrefs', hkept⟩)
  · have hactive := h.left_active
    rw [inactive_of_superseded hload h.left_mem hleft] at hactive
    cases hactive
  · have hactive := h.right_active
    rw [inactive_of_superseded hload h.right_mem hright] at hactive
    cases hactive
  · obtain rfl := Option.some.inj (hload.symm.trans hother)
    have hplanner := hstate.wellFormed hload
    rw [eq_of_nodeRef_eq hplanner hfirst h.left_mem hrefs,
      eq_of_nodeRef_eq hplanner hsecond h.right_mem hrefs'] at hkept
    exact happart hkept

omit hstate in
/-- The nodes of the work item are the compared ones. -/
theorem mem_comparedNodes_of_asked {item : NextWorkItem} {left right : NodeRow}
    (h : SoundComparison planner item left right) {command : ApplyCompactedClaims}
    (hgroup : command.group = group) (hrefs : command.comparedNodeRefs = item.nodeRefs)
    (node : NodeRow) :
    node ∈ comparedNodes state.nodes command ↔ node = left ∨ node = right := by
  have hrow {asked : NodeRow} (hasked : asked ∈ planner.nodes) :=
    (mem_loadedNodes hload).mp hasked
  rw [mem_comparedNodes, hgroup, hrefs, h.nodeRefs_eq]
  constructor
  · rintro ⟨hmem, -, href⟩
    rcases List.mem_cons.mp href with hleft | hright
    · exact .inl (state.nodes.eq_of_key_eq hmem (hrow h.left_mem).1 hleft)
    · exact .inr (state.nodes.eq_of_key_eq hmem (hrow h.right_mem).1
        (List.mem_singleton.mp hright))
  · rintro (rfl | rfl)
    · exact ⟨(hrow h.left_mem).1, (hrow h.left_mem).2, List.mem_cons_self⟩
    · exact ⟨(hrow h.right_mem).1, (hrow h.right_mem).2,
        List.mem_cons_of_mem _ (List.mem_singleton_self _)⟩

/-- No claim is in the compared nodes twice. -/
theorem nodup_comparedClaims {item : NextWorkItem} {left right : NodeRow}
    (h : SoundComparison planner item left right) {command : ApplyCompactedClaims}
    (hgroup : command.group = group) (hrefs : command.comparedNodeRefs = item.nodeRefs) :
    ((comparedNodes state.nodes command).flatMap NodeRow.sourceClaimRefs).Nodup := by
  have hasked := mem_comparedNodes_of_asked hload h hgroup hrefs
  refine List.nodup_flatMap.mpr ⟨fun node hnode => ?_, ?_⟩
  · obtain ⟨hrow, hnodeGroup, -⟩ := mem_comparedNodes.mp hnode
    exact (hstate.names hrow (hnodeGroup.trans hgroup)).nodup
  · refine (nodup_comparedNodes state.nodes command).pairwise_of_forall_ne ?_
    intro first hfirst second hsecond hne ref href href'
    rcases (hasked first).mp hfirst with rfl | rfl
    · obtain rfl := ((hasked second).mp hsecond).resolve_left (Ne.symm hne)
      exact h.disjoint ref href href'
    · obtain rfl := ((hasked second).mp hsecond).resolve_right (Ne.symm hne)
      exact h.disjoint ref href' href

end Planned

/-! One turn. -/

theorem pairKey_mem {left right : String} {members : Set String} (hleft : left ∈ members)
    (hright : right ∈ members) : pairKey left right ∈ members ×ˢ members := by
  unfold pairKey
  split
  · exact ⟨hleft, hright⟩
  · exact ⟨hright, hleft⟩

/-- What an answer to the next work item does. -/
structure AnswerApplied (env : CompactionEnv) (group : GroupKey) (claims : List String)
    (before after : ReductionState) (left right : String) : Prop where
  state : GroupState env group claims after
  grows : Grows before after
  retired : RetiredPair group after (left, right)

section Turn

variable (hnamed : NamedByDigests env group claims) {before : ReductionState}
  (hbefore : GroupState env group claims before)

include hnamed hbefore

/-- Every answer to the next work item is applied, and retires the pair asked about. -/
theorem answer_ends {planner : PlannerState} (hload : loadPlannerState before group = some planner)
    (hexecutable : (planNextStep planner).nextWorkItem.workType.isExecutable = true)
    {result : CompactionResult}
    (hanswers : result.Answers group before (planNextStep planner).nextWorkItem) :
    ∃ left right counts after,
      (planNextStep planner).nextWorkItem.nodeRefs = [left, right] ∧
      IsGroupNode env group claims left ∧ IsGroupNode env group claims right ∧
      ¬ RetiredPair group before (left, right) ∧
      result.apply env before = .ok (counts, after) ∧
      AnswerApplied env group claims before after left right := by
  obtain ⟨htype, left, right, hsound, happart⟩ :=
    soundComparison_of_executable hbefore hload hexecutable
  have hname {node : NodeRow} (hnode : node ∈ planner.nodes) :
      IsGroupNode env group claims node.nodeRef := by
    obtain ⟨hrow, hgroup⟩ := (mem_loadedNodes hload).mp hnode
    exact (hbefore.names hrow hgroup).isGroupNode
  cases result with
  | rewrite command => exact absurd hanswers.1 htype
  | compacted command =>
    obtain ⟨-, hgroup, hrefs, hregroups⟩ := hanswers
    have hground := nodup_comparedClaims hbefore hload hsound hgroup hrefs
    have hends := applyCompactedClaimsResult_ends hnamed hgroup hbefore hregroups hground
    cases happly : applyCompactedClaimsResult env before command with
    | error fault =>
      rw [happly] at hends
      exact absurd hends id
    | ok applied =>
      rw [happly] at hends
      obtain ⟨hafter, hgrows, happlied⟩ := hends
      have hpair : RegroupsPair before command left right :=
        ⟨mem_comparedNodes_of_asked hload hsound hgroup hrefs, hregroups⟩
      exact ⟨left.nodeRef, right.nodeRef, applied.1, applied.2, hsound.nodeRefs_eq,
        hname hsound.left_mem, hname hsound.right_mem,
        not_retiredPair_of_asked hbefore hload hsound happart, happly, hafter, hgrows,
        retiredPair_of_applied hnamed hbefore hafter hgroup hpair hground happlied hgrows⟩

/-- A turn asks about a pair of the group that has not retired, and retires it. -/
theorem reductionTurn_retires {pair : String × String} {after : ReductionState}
    (hturn : ReductionTurn env group before pair after) :
    GroupState env group claims after ∧ Grows before after ∧
      pair ∈ {ref | IsGroupNode env group claims ref} ×ˢ {ref | IsGroupNode env group claims ref} ∧
      ¬ RetiredPair group before pair ∧ RetiredPair group after pair := by
  obtain ⟨planner, result, counts, hload, hexecutable, hanswers, happly, left, right, hrefs, rfl⟩ :=
    hturn
  obtain ⟨left', right', counts', after', hrefs', hleft, hright, hfresh, happly', happlied⟩ :=
    answer_ends hnamed hbefore hload hexecutable hanswers
  have hsame := Except.ok.inj (happly.symm.trans happly')
  simp only [Prod.mk.injEq] at hsame
  have hpair := hrefs.symm.trans hrefs'
  simp only [List.cons.injEq, and_true] at hpair
  obtain ⟨rfl, rfl⟩ := hpair
  obtain ⟨-, rfl⟩ := hsame
  exact ⟨happlied.state, happlied.grows, pairKey_mem hleft hright,
    fun h => hfresh (retiredPair_pairKey.mp h), retiredPair_pairKey.mpr happlied.retired⟩

end Turn

/-- Every turn takes a fresh pair of the nodes that the group can have. -/
theorem reductionTurns_retire (hnamed : NamedByDigests env group claims) :
    FreshItems.Retires (ReductionTurn env group) (GroupState env group claims) (RetiredPair group)
      ({ref | IsGroupNode env group claims ref} ×ˢ {ref | IsGroupNode env group claims ref}) where
  keeps _ _ _ hbefore hturn := (reductionTurn_retires hnamed hbefore hturn).1
  mem _ _ _ hbefore hturn := (reductionTurn_retires hnamed hbefore hturn).2.2.1
  fresh _ _ _ hbefore hturn := (reductionTurn_retires hnamed hbefore hturn).2.2.2.1
  retires _ _ _ hbefore hturn := (reductionTurn_retires hnamed hbefore hturn).2.2.2.2
  stays _ _ _ hbefore hturn _ hretired := by
    obtain ⟨hafter, hgrows, -⟩ := reductionTurn_retires hnamed hbefore hturn
    exact hretired.mono hnamed hbefore hafter hgrows

/-! There is always an answer. -/

theorem NamedByDigests.text (hnamed : NamedByDigests env group claims) {ref : String}
    (href : ref ∈ claims) : isBlank ref = false := by
  obtain ⟨-, digest, -, rfl⟩ := hnamed.built ref href
  refine isBlank_eq_false fun hblank => ?_
  simp only [isBlank, String.toList_append, List.all_append, Bool.and_eq_true] at hblank
  exact absurd hblank.1 (by decide)

/-- A command about two nodes of the group. -/
def commandFor (group : GroupKey) (nodeRefs : List String) (outputs : List OutputClaim) :
    ApplyCompactedClaims where
  group := group
  batchRef := ""
  workItemId := ""
  roundIndex := 0
  compactedClaims := outputs
  comparedNodeRefs := nodeRefs
  createdAt := 0

theorem comparedNodes_commandFor (nodes : Table NodeRow.nodeRef) (nodeRefs : List String)
    (outputs : List OutputClaim) :
    comparedNodes nodes (commandFor group nodeRefs outputs) =
      comparedNodes nodes (commandFor group nodeRefs []) := rfl

/-- The claims of the two nodes may all be one. -/
theorem exists_answer (hnamed : NamedByDigests env group claims) {state : ReductionState}
    (hstate : GroupState env group claims state) {planner : PlannerState}
    (hload : loadPlannerState state group = some planner)
    (hexecutable : (planNextStep planner).nextWorkItem.workType.isExecutable = true) :
    ∃ result : CompactionResult,
      result.Answers group state (planNextStep planner).nextWorkItem := by
  obtain ⟨htype, left, right, hsound, -⟩ := soundComparison_of_executable hstate hload hexecutable
  generalize hitem : (planNextStep planner).nextWorkItem = item at htype hsound
  let asked := comparedNodes state.nodes (commandFor group item.nodeRefs [])
  have hasked (node : NodeRow) : node ∈ asked ↔ node = left ∨ node = right :=
    mem_comparedNodes_of_asked hload hsound rfl rfl node
  have hnames {node : NodeRow} (hnode : node ∈ asked) :
      NamesClaims env group claims node.nodeRef node.sourceClaimRefs := by
    obtain ⟨hrow, hgroup, -⟩ := mem_comparedNodes.mp hnode
    exact hstate.names hrow hgroup
  have hrefs : CheckedRefs (asked.flatMap NodeRow.sourceClaimRefs) := by
    refine ⟨?_, nodup_comparedClaims hstate hload hsound rfl rfl, ?_⟩
    · obtain ⟨ref, href⟩ :=
        List.exists_mem_of_ne_nil _ (hnames ((hasked left).mpr (.inl rfl))).ne_nil
      exact List.ne_nil_of_mem (List.mem_flatMap.mpr ⟨left, (hasked left).mpr (.inl rfl), href⟩)
    · intro ref href
      obtain ⟨node, hnode, hmem⟩ := List.mem_flatMap.mp href
      exact hnamed.text ((hnames hnode).subset hmem)
  refine ⟨.compacted (commandFor group item.nodeRefs [mergedClaim _ hrefs]), htype, rfl, rfl,
    ⟨fun nodeRef hmem => ?_, ?_⟩⟩
  · have hactive {node : NodeRow} (hnode : node ∈ planner.nodes) (hactive : node.active = true) :
        node ∈ activeNodes state.nodes group := by
      obtain ⟨hrow, hgroup⟩ := (mem_loadedNodes hload).mp hnode
      exact mem_activeNodes.mpr ⟨hrow, hgroup, hactive⟩
    change nodeRef ∈ item.nodeRefs at hmem
    rw [hsound.nodeRefs_eq] at hmem
    rcases List.mem_cons.mp hmem with rfl | hmem
    · exact ⟨left, hactive hsound.left_mem hsound.left_active, rfl⟩
    · exact ⟨right, hactive hsound.right_mem hsound.right_active, (List.mem_singleton.mp hmem).symm⟩
  · rw [comparedNodes_commandFor]
    unfold BlockCover.Covers
    simp only [commandFor, List.flatMap_cons, List.flatMap_nil, List.append_nil]
    exact List.Perm.refl _

/-! The loop. -/

/-- The loop goes on: there is an answer to the next work item, and every answer is
applied. -/
def CanTurn (env : CompactionEnv) (group : GroupKey) (state : ReductionState)
    (item : NextWorkItem) : Prop :=
  (∃ result : CompactionResult, result.Answers group state item) ∧
    ∀ result : CompactionResult, result.Answers group state item →
      ∃ counts after pair, result.apply env state = .ok (counts, after) ∧
        ReductionTurn env group state pair after

theorem canTurn_of_executable (hnamed : NamedByDigests env group claims) {state : ReductionState}
    (hstate : GroupState env group claims state) {planner : PlannerState}
    (hload : loadPlannerState state group = some planner)
    (hexecutable : (planNextStep planner).nextWorkItem.workType.isExecutable = true) :
    CanTurn env group state (planNextStep planner).nextWorkItem := by
  refine ⟨exists_answer hnamed hstate hload hexecutable, fun result hanswers => ?_⟩
  obtain ⟨left, right, counts, after, hrefs, -, -, -, happly, -⟩ :=
    answer_ends hnamed hstate hload hexecutable hanswers
  exact ⟨counts, after, pairKey left right, happly, planner, result, counts, hload, hexecutable,
    hanswers, happly, left, right, hrefs, rfl⟩

/-- From a seeded group the loop asks about no pair twice, ends whatever the answers
are, and until then every answer is applied. -/
theorem reductionLoop_ends {base : ReductionState} {seeds : List RawNodeSeed} (createdAt : Int)
    (hnamed : NamedByDigests env group (seeds.map RawNodeSeed.observationRef))
    (hfresh : FreshGroup env group (seeds.map RawNodeSeed.observationRef) base) :
    ∀ pairs last, FreshItems.Run (ReductionTurn env group)
        (seedInitialPlannerState base group seeds createdAt).2 pairs last →
      pairs.Nodup ∧ pairs.length ≤ (seeds.length + 2 ^ seeds.length) ^ 2 ∧
      ∃ planner, loadPlannerState last group = some planner ∧
        ((planNextStep planner).nextWorkItem.workType.isExecutable = true →
          CanTurn env group last (planNextStep planner).nextWorkItem) := by
  intro pairs last hrun
  have hretire := reductionTurns_retire hnamed
  have hstart := groupState_of_seeded hfresh createdAt
  have hfinite := finite_groupNodes env group (seeds.map RawNodeSeed.observationRef)
  obtain ⟨hlast, hnodup, -⟩ := hretire.of_run hrun hstart
  obtain ⟨planner, hload⟩ := hlast.exists_planner hnamed
  refine ⟨hnodup, ?_, planner, hload, canTurn_of_executable hnamed hlast hload⟩
  have hcard := ncard_groupNodes_le env group (seeds.map RawNodeSeed.observationRef)
  rw [List.length_map] at hcard
  calc pairs.length
      ≤ _ := hretire.length_le (hfinite.prod hfinite) hrun hstart
    _ = _ * _ := Set.ncard_prod
    _ ≤ (seeds.length + 2 ^ seeds.length) * (seeds.length + 2 ^ seeds.length) :=
      Nat.mul_le_mul hcard hcard
    _ = (seeds.length + 2 ^ seeds.length) ^ 2 := (sq _).symm

/-! A group of two claims. -/

def twoClaimGroup : GroupKey where
  workflowRunId := "w"
  groupRef := "draft-claim-compaction-group:5f2c"
  workflowRunId_text := Eq.refl false
  groupRef_text := Eq.refl false

def twoClaimSeeds : List RawNodeSeed :=
  [⟨"draft-claim-observation:01", 1⟩, ⟨"draft-claim-observation:02", 1⟩]

def twoClaims : List String := twoClaimSeeds.map RawNodeSeed.observationRef

/-- SHA-256 on the texts of the sets of the two claims. -/
def twoClaimEnv : CompactionEnv where
  sha256Hexdigest text :=
    if text = claimSetText twoClaimGroup twoClaims then
      "f7ba637110edb4a2d54d08a1006a7f5be9cf9bb506dfd7ef3d8d59d22177d3b3"
    else if text = claimSetText twoClaimGroup ["draft-claim-observation:01"] then
      "3905a3c28cdd6d2b425e3a4040087eba51e040cec0d8bd712df924a9b060051e"
    else if text = claimSetText twoClaimGroup ["draft-claim-observation:02"] then
      "27ab1b2dc15df82d33e156268536a1938adcd8437f76120d26b8e58434fc983a"
    else "1c96b89bd8f8ebfe61c105a1f6552841e212bf269ef43dca5e33bcaff3434807"
  estimatedCompactedClaimTokens _ := 1

/-- Every list of the two claims lists one of the sets of them. -/
theorem exists_sublist_of_subset {refs : List String} (hrefs : refs ⊆ twoClaims) :
    ∃ small ∈ twoClaims.sublists, claimSetText twoClaimGroup refs =
      claimSetText twoClaimGroup small := by
  refine ⟨twoClaims.filter fun ref => refs.contains ref,
    List.mem_sublists.mpr List.filter_sublist, ?_⟩
  unfold claimSetText
  rw [sorted_eraseDups_congr]
  intro ref
  simp only [List.mem_filter, List.contains_iff_mem]
  exact ⟨fun href => ⟨hrefs href, href⟩, And.right⟩

theorem twoClaims_named : NamedByDigests twoClaimEnv twoClaimGroup twoClaims where
  claims_ne_nil := by decide
  built ref href := by
    refine ⟨⟨"5f2c", by decide, rfl⟩, ?_⟩
    rcases List.mem_cons.mp href with rfl | href
    · exact ⟨"01", by decide, rfl⟩
    · exact ⟨"02", by decide, List.mem_singleton.mp href⟩
  digest refs hrefs := by
    obtain ⟨small, hsmall, htext⟩ := exists_sublist_of_subset hrefs
    have hall : ∀ small ∈ twoClaims.sublists,
        ':' ∉ (twoClaimEnv.sha256Hexdigest (claimSetText twoClaimGroup small)).toList := by
      decide +kernel
    rw [htext]
    exact hall small hsmall
  noCollision refs others hrefs hothers := by
    obtain ⟨small, hsmall, htext⟩ := exists_sublist_of_subset hrefs
    obtain ⟨other, hother, htext'⟩ := exists_sublist_of_subset hothers
    rw [htext, htext']
    have hall : ∀ small ∈ twoClaims.sublists, ∀ other ∈ twoClaims.sublists,
        twoClaimEnv.sha256Hexdigest (claimSetText twoClaimGroup small) =
            twoClaimEnv.sha256Hexdigest (claimSetText twoClaimGroup other) →
          claimSetText twoClaimGroup small = claimSetText twoClaimGroup other := by
      decide +kernel
    exact hall small hsmall other hother

theorem twoClaims_fresh : FreshGroup twoClaimEnv twoClaimGroup twoClaims emptyReductionState where
  nodes := List.forall_mem_nil _
  comparisons := List.forall_mem_nil _
  separationEdges := List.forall_mem_nil _
  incompatibilities := List.forall_mem_nil _

theorem reductionLoop_ends_twoClaims :
    (∃ planner, loadPlannerState (seedInitialPlannerState emptyReductionState twoClaimGroup
        twoClaimSeeds 0).2 twoClaimGroup = some planner ∧
      (planNextStep planner).nextWorkItem.workType = .draftVsDraft) ∧
    ∀ pairs last, FreshItems.Run (ReductionTurn twoClaimEnv twoClaimGroup)
        (seedInitialPlannerState emptyReductionState twoClaimGroup twoClaimSeeds 0).2 pairs last →
      pairs.Nodup ∧ pairs.length ≤ (2 + 2 ^ 2) ^ 2 ∧
      ∃ planner, loadPlannerState last twoClaimGroup = some planner ∧
        ((planNextStep planner).nextWorkItem.workType.isExecutable = true →
          CanTurn twoClaimEnv twoClaimGroup last (planNextStep planner).nextWorkItem) :=
  ⟨⟨_, rfl, by decide +kernel⟩, reductionLoop_ends 0 twoClaims_named twoClaims_fresh⟩

end CrmBot.Compaction
