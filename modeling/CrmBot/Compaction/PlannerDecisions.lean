import CrmBot.Compaction.ClaimLineage

/-! What the planner may answer.

The checks of its searches make every comparison it asks for a sound one. A
rewrite is not checked in that way: it names what two bridge comparisons are
recorded to have produced. -/

namespace CrmBot.Compaction

open Relational CrmBot.Python

/-! Comparisons. -/

/-- The kinds that a work type names, in the order of the two references. -/
def KindsOf : NextWorkItemType → NodeKind → NodeKind → Prop
  | .draftVsDraft, left, right => left = .raw ∧ right = .raw
  | .compactedVsCompacted, left, right => left = .compacted ∧ right = .compacted
  | .mixed, left, right => left = .compacted ∧ right = .raw
  | _, _, _ => False

def ComparesNodes (workType : NextWorkItemType) : Prop :=
  workType = .draftVsDraft ∨ workType = .mixed ∨ workType = .compactedVsCompacted

/-- Two different active nodes of the kinds of the work type that share no
claim, were in no comparison so far, are not kept apart by one, and fit. -/
structure SoundComparison (state : PlannerState) (item : NextWorkItem) (left right : NodeRow) :
    Prop where
  nodeRefs_eq : item.nodeRefs = [left.nodeRef, right.nodeRef]
  left_mem : left ∈ state.nodes
  right_mem : right ∈ state.nodes
  left_active : left.active = true
  right_active : right.active = true
  nodeRefs_ne : left.nodeRef ≠ right.nodeRef
  kinds : KindsOf item.workType left.nodeKind right.nodeKind
  disjoint : ∀ ref ∈ left.sourceClaimRefs, ref ∉ right.sourceClaimRefs
  unrecorded : ∀ comparison ∈ state.comparisons,
    ¬ (comparison.leftNodeRef = left.nodeRef ∧ comparison.rightNodeRef = right.nodeRef) ∧
      ¬ (comparison.leftNodeRef = right.nodeRef ∧ comparison.rightNodeRef = left.nodeRef)
  not_separated : ¬ SeparatedByNotMerged state left right
  fits : workItemFitsPrimaryTpm state item.workType item.nodeRefs = true

theorem mem_activeByKind {state : PlannerState} {kind : NodeKind} {node : NodeRow} :
    node ∈ activeByKind state kind ↔
      node ∈ state.nodes ∧ node.active = true ∧ node.nodeKind = kind := by
  unfold activeByKind
  rw [mem_nodesByKind, mem_orderedActiveNodes, and_assoc]

theorem orderedActiveNodes_refs_nodup {state : PlannerState} (hstate : state.WellFormed) :
    ((orderedActiveNodes state).map NodeRow.nodeRef).Nodup := by
  unfold orderedActiveNodes
  rw [((List.perm_insertionSort _ _).map NodeRow.nodeRef).nodup_iff]
  exact hstate.nodeRefs_nodup.sublist (List.filter_sublist.map _)

/-- The nodes of a pair have different references. -/
theorem nodeRef_ne_of_mem_laterPairs {nodes : List NodeRow}
    (hrefs : (nodes.map NodeRow.nodeRef).Nodup) {left right : NodeRow}
    (hpair : (left, right) ∈ laterPairs nodes) : left.nodeRef ≠ right.nodeRef := by
  induction nodes with
  | nil => cases hpair
  | cons first rest ih =>
    rw [List.map_cons, List.nodup_cons] at hrefs
    simp only [laterPairs, List.mem_append, List.mem_map, Prod.mk.injEq] at hpair
    rcases hpair with ⟨node, hnode, rfl, rfl⟩ | hrest
    · intro heq
      apply hrefs.1
      rw [heq]
      exact List.mem_map_of_mem hnode
    · exact ih hrefs.2 hrest

theorem nodeRef_ne_of_mem_laterPairs_activeByKind {state : PlannerState}
    (hstate : state.WellFormed) {kind : NodeKind} {left right : NodeRow}
    (hpair : (left, right) ∈ laterPairs (activeByKind state kind)) :
    left.nodeRef ≠ right.nodeRef :=
  nodeRef_ne_of_mem_laterPairs
    ((orderedActiveNodes_refs_nodup hstate).sublist (List.filter_sublist.map _)) hpair

/-- Two nodes with one reference are one node. -/
theorem eq_of_nodeRef_eq {state : PlannerState} (hstate : state.WellFormed) {first second : NodeRow}
    (hfirst : first ∈ state.nodes) (hsecond : second ∈ state.nodes)
    (href : first.nodeRef = second.nodeRef) : first = second :=
  List.inj_on_of_nodup_map hstate.nodeRefs_nodup hfirst hsecond href

/-- A pair that the planner lets compare is a sound one. -/
theorem Comparable.sound {state : PlannerState} (hstate : state.WellFormed)
    {decision : PlannerDecision} {workType : NextWorkItemType} {left right : NodeRow}
    (h : Comparable state workType left right)
    (hasks : AsksFor decision workType (left.nodeRef, right.nodeRef))
    {leftKind rightKind : NodeKind}
    (hleft : left ∈ activeByKind state leftKind) (hright : right ∈ activeByKind state rightKind)
    (hkinds : KindsOf workType leftKind rightKind) (hne : left.nodeRef ≠ right.nodeRef) :
    SoundComparison state decision.nextWorkItem left right := by
  obtain ⟨htype, hrefs⟩ := hasks
  obtain ⟨hleftMem, hleftActive, hleftKind⟩ := mem_activeByKind.mp hleft
  obtain ⟨hrightMem, hrightActive, hrightKind⟩ := mem_activeByKind.mp hright
  obtain ⟨hoverlap, hstatus, _, hseparated⟩ := (canCompare_iff hstate hleftMem hrightMem).mp h.1
  refine ⟨hrefs, hleftMem, hrightMem, hleftActive, hrightActive, hne, ?_,
    disjoint_of_not_overlap hoverlap, ?_, hseparated, ?_⟩
  · rw [htype, hleftKind, hrightKind]
    exact hkinds
  · intro comparison hcomparison
    have hkey := comparisonStatus_eq_none.mp hstatus comparison hcomparison
    rw [Ne, pairKey_eq_iff, not_or] at hkey
    exact hkey
  · rw [htype, hrefs]
    exact h.2

/-! Rewrites. -/

/-- The rewrite of what two different active compacted nodes, too large to be
compared, gave with one active raw node. -/
structure BridgeRewrite (state : PlannerState) (item : NextWorkItem) (left right raw : NodeRow) :
    Prop where
  left_mem : left ∈ state.nodes
  right_mem : right ∈ state.nodes
  raw_mem : raw ∈ state.nodes
  active : left.active = true ∧ right.active = true ∧ raw.active = true
  kinds : left.nodeKind = .compacted ∧ right.nodeKind = .compacted ∧ raw.nodeKind = .raw
  nodeRefs_ne : left.nodeRef ≠ right.nodeRef
  tooLarge : primaryPairIsTooLarge state left right = true
  left_merged : comparisonStatus state.comparisons left.nodeRef raw.nodeRef = some .merged
  right_merged : comparisonStatus state.comparisons right.nodeRef raw.nodeRef = some .merged
  results : ∃ leftResult rightResult,
    comparisonResultNodeRef state.comparisons left.nodeRef raw.nodeRef = some leftResult ∧
    comparisonResultNodeRef state.comparisons right.nodeRef raw.nodeRef = some rightResult ∧
    item.nodeRefs = [(pairKey leftResult rightResult).1, (pairKey leftResult rightResult).2] ∧
    comparisonStatus state.comparisons leftResult rightResult = none
  fits : workItemFitsPrimaryTpm state .reducedRewrite item.nodeRefs = true

theorem RewriteReady.bridgeRewrite {state : PlannerState} (hstate : state.WellFormed)
    {decision : PlannerDecision} {left right raw : NodeRow} {pair : String × String}
    (h : RewriteReady state left right raw pair)
    (hasks : AsksFor decision .reducedRewrite pair)
    (hlarge : primaryPairIsTooLarge state left right = true)
    (hpair : (left, right) ∈ laterPairs (activeByKind state .compacted))
    (hraw : raw ∈ activeByKind state .raw) :
    BridgeRewrite state decision.nextWorkItem left right raw := by
  obtain ⟨hleftMerged, hrightMerged, leftResult, rightResult, hleft, hright, rfl, hstatus,
      hfits⟩ := h
  obtain ⟨hleftMem, hleftActive, hleftKind⟩ := mem_activeByKind.mp (mem_of_mem_laterPairs hpair).1
  obtain ⟨hrightMem, hrightActive, hrightKind⟩ :=
      mem_activeByKind.mp (mem_of_mem_laterPairs hpair).2
  obtain ⟨hrawMem, hrawActive, hrawKind⟩ := mem_activeByKind.mp hraw
  refine ⟨hleftMem, hrightMem, hrawMem, ⟨hleftActive, hrightActive, hrawActive⟩,
    ⟨hleftKind, hrightKind, hrawKind⟩, nodeRef_ne_of_mem_laterPairs_activeByKind hstate hpair,
      hlarge,
    hleftMerged, hrightMerged, ⟨leftResult, rightResult, hleft, hright, hasks.2, hstatus⟩, ?_⟩
  rw [hasks.2]
  exact hfits

/-- What a step proposes is a sound comparison or a bridge rewrite. -/
theorem PlanningStep.Proposes.cases {state : PlannerState} (hstate : state.WellFormed)
    {step : PlanningStep} {pair : String × String} {decision : PlannerDecision}
    (hmem : step ∈ planningSteps state) (h : step.Proposes state pair)
    (hasks : AsksFor decision step.workType pair) :
    (ComparesNodes step.workType ∧
      ∃ left right, SoundComparison state decision.nextWorkItem left right) ∨
    (step.workType = .reducedRewrite ∧
      ∃ left right raw, BridgeRewrite state decision.nextWorkItem left right raw) := by
  have hnodes := mem_planningSteps.mp hmem
  have hmixed : ∀ {node raw : NodeRow}, node ∈ activeByKind state .compacted →
      raw ∈ activeByKind state .raw → Comparable state .mixed node raw →
      AsksFor decision .mixed (node.nodeRef, raw.nodeRef) →
      ∃ left right, SoundComparison state decision.nextWorkItem left right := by
    intro node raw hnode hraw hcompare hmixedAsks
    refine ⟨node, raw, hcompare.sound hstate hmixedAsks hnode hraw ⟨rfl, rfl⟩ fun href => ?_⟩
    -- one reference would be one node of two kinds
    obtain ⟨hnodeMem, _, hnodeKind⟩ := mem_activeByKind.mp hnode
    obtain ⟨hrawMem, _, hrawKind⟩ := mem_activeByKind.mp hraw
    rw [eq_of_nodeRef_eq hstate hnodeMem hrawMem href, hrawKind] at hnodeKind
    cases hnodeKind
  cases step with
  | rewrite left right raw =>
    exact .inr ⟨rfl, left, right, raw, h.2.bridgeRewrite hstate hasks h.1 hnodes.1 hnodes.2⟩
  | compactedPair left right =>
    obtain ⟨hcompare, rfl⟩ := h
    have hpair := mem_of_mem_laterPairs hnodes
    exact .inl ⟨.inr (.inr rfl), left, right, hcompare.sound hstate hasks hpair.1 hpair.2 ⟨rfl, rfl⟩
      (nodeRef_ne_of_mem_laterPairs_activeByKind hstate hnodes)⟩
  | probe left right node raw =>
    obtain ⟨_, hcompare, rfl⟩ := h
    obtain ⟨hpair, hraw, hnode⟩ := hnodes
    have hmem := mem_of_mem_laterPairs hpair
    have hcompacted : node ∈ activeByKind state .compacted := by
      rcases hnode with rfl | rfl
      · exact hmem.1
      · exact hmem.2
    exact .inl ⟨.inr (.inl rfl), hmixed hcompacted hraw hcompare hasks⟩
  | mixed node raw =>
    obtain ⟨hcompare, rfl⟩ := h
    exact .inl ⟨.inr (.inl rfl), hmixed hnodes.1 hnodes.2 hcompare hasks⟩
  | draftPair left right =>
    obtain ⟨hcompare, rfl⟩ := h
    have hpair := mem_of_mem_laterPairs hnodes
    exact .inl ⟨.inl rfl, left, right, hcompare.sound hstate hasks hpair.1 hpair.2 ⟨rfl, rfl⟩
      (nodeRef_ne_of_mem_laterPairs_activeByKind hstate hnodes)⟩

theorem not_comparesNodes_reducedRewrite : ¬ ComparesNodes .reducedRewrite := by
  simp [ComparesNodes]

/-- An executable work item is the answer at the first step that proposes one. -/
theorem firstProposal_of_planNextStep {state : PlannerState}
    (h : (planNextStep state).nextWorkItem.workType.isExecutable = true) :
    state.budgetFit ≠ .tooLargeEvenReduced ∧
      ∃ step pair, FirstProposal state step pair ∧
          AsksFor (planNextStep state) step.workType pair := by
  unfold planNextStep at h ⊢
  by_cases hbudget : state.budgetFit = .tooLargeEvenReduced
  · rw [if_pos hbudget] at h
    cases hchoice : firstPairForUserChoice (orderedActiveNodes state) with
    | none => simp [hchoice, doneDecision, NextWorkItemType.isExecutable] at h
    | some choice =>
      simp [hchoice, waitDecision, budgeted, NextWorkItemType.isExecutable] at h
  · rw [if_neg hbudget] at h ⊢
    refine ⟨hbudget, ?_⟩
    cases hstep : planOrdinaryStep state with
    | some decision => exact firstProposal_of_planOrdinaryStep hstep
    | none =>
      rw [hstep] at h
      cases hpair : firstUnresolvedPrimaryTooLargePair state (orderedActiveNodes state) with
      | none => simp [hpair, doneDecision, NextWorkItemType.isExecutable] at h
      | some choice =>
        simp [hpair, waitDecision, budgeted, NextWorkItemType.isExecutable] at h

/-- Every comparison the planner asks for is sound, and every rewrite is one of
the results that two bridge comparisons recorded. -/
theorem planNextStep_sound {state : PlannerState} (hstate : state.WellFormed) :
    (ComparesNodes (planNextStep state).nextWorkItem.workType →
      ∃ left right, SoundComparison state (planNextStep state).nextWorkItem left right) ∧
    ((planNextStep state).nextWorkItem.workType = .reducedRewrite →
      ∃ left right raw, BridgeRewrite state (planNextStep state).nextWorkItem left right raw) := by
  constructor
  · intro hcompares
    have hexecutable : (planNextStep state).nextWorkItem.workType.isExecutable = true := by
      rcases hcompares with h | h | h <;> rw [h] <;> rfl
    obtain ⟨_, step, pair, hfirst, hasks⟩ := firstProposal_of_planNextStep hexecutable
    rcases PlanningStep.Proposes.cases hstate hfirst.mem hfirst.1 hasks with ⟨_, h⟩ | ⟨htype, _⟩
    · exact h
    · rw [hasks.1, htype] at hcompares
      exact absurd hcompares not_comparesNodes_reducedRewrite
  · intro hrewrite
    have hexecutable : (planNextStep state).nextWorkItem.workType.isExecutable = true := by
      rw [hrewrite]
      rfl
    obtain ⟨_, step, pair, hfirst, hasks⟩ := firstProposal_of_planNextStep hexecutable
    rcases PlanningStep.Proposes.cases hstate hfirst.mem hfirst.1 hasks with ⟨hcompares, _⟩ | ⟨_, h⟩
    · rw [← hasks.1, hrewrite] at hcompares
      exact absurd hcompares not_comparesNodes_reducedRewrite
    · exact h

/-! Two states of the planner. -/

def plannerGroup : GroupKey where
  workflowRunId := "workflow"
  groupRef := "cluster-a"
  workflowRunId_text := by decide
  groupRef_text := by decide

def plannerNode (nodeRef : String) (nodeKind : NodeKind) (sourceClaimRefs : List String)
    (artifactTokens : Nat) : NodeRow where
  nodeRef := nodeRef
  group := plannerGroup
  nodeKind := nodeKind
  active := true
  sourceClaimRefs := sourceClaimRefs
  supersedesNodeRefs := []
  artifactTokens := artifactTokens
  compacted := none
  createdAt := 0
  updatedAt := 0

def plannerComparison (leftNodeRef rightNodeRef : String) (status : ComparisonStatus)
    (resultNodeRef : Option String) : ComparisonRow where
  comparisonRef := leftNodeRef ++ "-" ++ rightNodeRef
  group := plannerGroup
  leftNodeRef := leftNodeRef
  rightNodeRef := rightNodeRef
  status := status
  resultNodeRef := resultNodeRef
  roundIndex := 0
  createdAt := 0
  updatedAt := 0

/-- Two compacted nodes that nothing was recorded of. -/
def freshPair : PlannerState where
  nodes := [plannerNode "A" .compacted ["a"] 1, plannerNode "B" .compacted ["b"] 1]
  comparisons := []
  originSeparationEdges := []

theorem freshPair_wellFormed : freshPair.WellFormed where
  nodeRefs_nodup := by decide
  sourceClaimRefs_ne_nil := by decide
  comparison_ne := by decide
  edge_lt := by decide

theorem freshPair_sound :
    ∃ left right, SoundComparison freshPair (planNextStep freshPair).nextWorkItem left right :=
  (planNextStep_sound freshPair_wellFormed).1 (by
    right
    right
    decide +kernel)

/-- Both sides of a pair that is too large merged with the raw node. -/
def bridgedPair : PlannerState where
  nodes := [plannerNode "A" .compacted ["a"] 1, plannerNode "B" .compacted ["b"] 1,
    plannerNode "X" .raw ["x"] 1]
  comparisons := [plannerComparison "A" "B" .tooLargeForPrimaryModel none,
    plannerComparison "A" "X" .merged (some "A_with_X"),
    plannerComparison "B" "X" .merged (some "B_with_X")]
  originSeparationEdges := []

theorem bridgedPair_wellFormed : bridgedPair.WellFormed where
  nodeRefs_nodup := by decide
  sourceClaimRefs_ne_nil := by decide
  comparison_ne := by decide
  edge_lt := by decide

/-- The work item names two different active nodes. -/
def NamesActiveNodes (state : PlannerState) (item : NextWorkItem) : Prop :=
  ∃ left ∈ state.nodes, ∃ right ∈ state.nodes, left.active = true ∧ right.active = true ∧
    left.nodeRef ≠ right.nodeRef ∧ item.nodeRefs = [left.nodeRef, right.nodeRef]

/-- The two results are named although they are no nodes of the state. -/
theorem bridgedPair_rewrite :
    bridgedPair.WellFormed ∧ (planNextStep bridgedPair).nextWorkItem.workType = .reducedRewrite ∧
      ¬ NamesActiveNodes bridgedPair (planNextStep bridgedPair).nextWorkItem := by
  have hplan : (planNextStep bridgedPair).nextWorkItem.workType = .reducedRewrite ∧
      (planNextStep bridgedPair).nextWorkItem.nodeRefs = ["A_with_X", "B_with_X"] := by
    decide +kernel
  refine ⟨bridgedPair_wellFormed, hplan.1, ?_⟩
  rintro ⟨left, hleft, right, _, _, _, _, hrefs⟩
  rw [hplan.2, List.cons.injEq] at hrefs
  have hnames : ∀ node ∈ bridgedPair.nodes, node.nodeRef ≠ "A_with_X" := by decide
  exact hnames left hleft hrefs.1.symm

end CrmBot.Compaction
