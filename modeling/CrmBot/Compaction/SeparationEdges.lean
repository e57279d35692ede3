import CrmBot.Compaction.PlannerDecisions

/-! Separation edges and the planner.

An edge names two claims. The planner looks for them among the roots of the two
nodes, where a claim that was merged under another root no longer occurs. -/

namespace CrmBot.Compaction

open Relational CrmBot.Python

/-- One node has one claim of the edge, the other node has the other. -/
def Separates (edge : SeparationEdgeRow) (left right : NodeRow) : Prop :=
  edge.originRefA ∈ left.sourceClaimRefs ∧ edge.originRefB ∈ right.sourceClaimRefs ∨
    edge.originRefA ∈ right.sourceClaimRefs ∧ edge.originRefB ∈ left.sourceClaimRefs

def SeparatedByEdge (state : PlannerState) (left right : NodeRow) : Prop :=
  ∃ edge ∈ state.originSeparationEdges, Separates edge left right

/-- An edge between the two nodes of which one claim was merged under another
root. -/
def SeparatedByMergedEdge (state : PlannerState) (left right : NodeRow) : Prop :=
  ∃ edge ∈ state.originSeparationEdges, Separates edge left right ∧
    ((lineageOf state).find edge.originRefA ≠ edge.originRefA ∨
      (lineageOf state).find edge.originRefB ≠ edge.originRefB)

/-- No two active nodes that an edge keeps apart are compared or rewritten
together. -/
def RespectsSeparations (state : PlannerState) : Prop :=
  ∀ left ∈ state.nodes, ∀ right ∈ state.nodes, left.active = true → right.active = true →
    (planNextStep state).nextWorkItem.workType.isExecutable = true →
    (planNextStep state).nextWorkItem.nodeRefs = [left.nodeRef, right.nodeRef] →
    ¬ SeparatedByEdge state left right

/-- The pair names two active nodes that an edge keeps apart. -/
def NamesSeparated (state : PlannerState) (pair : String × String) : Prop :=
  ∃ left ∈ state.nodes, ∃ right ∈ state.nodes, left.active = true ∧ right.active = true ∧
    pair = (left.nodeRef, right.nodeRef) ∧ SeparatedByEdge state left right

/-- Where the checks of a step miss an edge: a comparison misses those of which
one claim has another root, a rewrite misses all of them. -/
def PlanningStep.MissesEdge (state : PlannerState) (pair : String × String) : PlanningStep → Prop
  | .rewrite .. => NamesSeparated state pair
  | .compactedPair left right | .draftPair left right => SeparatedByMergedEdge state left right
  | .probe _ _ node raw | .mixed node raw => SeparatedByMergedEdge state node raw

/-- The first step that proposes a pair misses no edge. -/
def FirstProposalSeesEdges (state : PlannerState) : Prop :=
  state.budgetFit ≠ .tooLargeEvenReduced →
    ∀ step pair, FirstProposal state step pair → ¬ step.MissesEdge state pair

/-- An edge of two roots keeps its nodes from being compared. -/
theorem Comparable.separatedByEdge_iff {state : PlannerState} (hstate : state.WellFormed)
    {workType : NextWorkItemType} {left right : NodeRow} (hleft : left ∈ state.nodes)
    (hright : right ∈ state.nodes) (h : Comparable state workType left right) :
    SeparatedByEdge state left right ↔ SeparatedByMergedEdge state left right := by
  have hroots := ((canCompare_iff hstate hleft hright).mp h.1).2.2.1
  constructor
  · rintro ⟨edge, hedge, hseparates⟩
    refine ⟨edge, hedge, hseparates, ?_⟩
    by_contra hself
    push Not at hself
    apply hroots
    refine ⟨edge, hedge, ?_⟩
    rw [← hself.1, ← hself.2]
    rcases hseparates with ⟨ha, hb⟩ | ⟨ha, hb⟩
    · exact .inl ⟨mem_rootsOf ha, mem_rootsOf hb⟩
    · exact .inr ⟨mem_rootsOf ha, mem_rootsOf hb⟩
  · rintro ⟨edge, hedge, hseparates, _⟩
    exact ⟨edge, hedge, hseparates⟩

theorem Comparable.namesSeparated_iff {state : PlannerState} (hstate : state.WellFormed)
    {workType : NextWorkItemType} {leftKind rightKind : NodeKind} {left right : NodeRow}
    (hleft : left ∈ activeByKind state leftKind) (hright : right ∈ activeByKind state rightKind)
    (h : Comparable state workType left right) :
    NamesSeparated state (left.nodeRef, right.nodeRef) ↔
      SeparatedByMergedEdge state left right := by
  obtain ⟨hleftMem, hleftActive, _⟩ := mem_activeByKind.mp hleft
  obtain ⟨hrightMem, hrightActive, _⟩ := mem_activeByKind.mp hright
  rw [← h.separatedByEdge_iff hstate hleftMem hrightMem]
  constructor
  · rintro ⟨first, hfirst, second, hsecond, _, _, hrefs, hseparated⟩
    rw [Prod.mk.injEq] at hrefs
    rw [eq_of_nodeRef_eq hstate hleftMem hfirst hrefs.1,
      eq_of_nodeRef_eq hstate hrightMem hsecond hrefs.2]
    exact hseparated
  · intro hseparated
    exact ⟨left, hleftMem, right, hrightMem, hleftActive, hrightActive, rfl, hseparated⟩

/-- What a step proposes is kept apart by an edge exactly where it misses one. -/
theorem PlanningStep.Proposes.namesSeparated_iff {state : PlannerState}
    (hstate : state.WellFormed) {step : PlanningStep} {pair : String × String}
    (hmem : step ∈ planningSteps state) (h : step.Proposes state pair) :
    NamesSeparated state pair ↔ step.MissesEdge state pair := by
  have hnodes := mem_planningSteps.mp hmem
  cases step with
  | rewrite left right raw => exact Iff.rfl
  | compactedPair left right =>
    obtain ⟨hcompare, rfl⟩ := h
    have hpair := mem_of_mem_laterPairs hnodes
    exact hcompare.namesSeparated_iff hstate hpair.1 hpair.2
  | probe left right node raw =>
    obtain ⟨_, hcompare, rfl⟩ := h
    obtain ⟨hpair, hraw, hnode⟩ := hnodes
    have hmem := mem_of_mem_laterPairs hpair
    rcases hnode with rfl | rfl
    · exact hcompare.namesSeparated_iff hstate hmem.1 hraw
    · exact hcompare.namesSeparated_iff hstate hmem.2 hraw
  | mixed node raw =>
    obtain ⟨hcompare, rfl⟩ := h
    exact hcompare.namesSeparated_iff hstate hnodes.1 hnodes.2
  | draftPair left right =>
    obtain ⟨hcompare, rfl⟩ := h
    have hpair := mem_of_mem_laterPairs hnodes
    exact hcompare.namesSeparated_iff hstate hpair.1 hpair.2

theorem PlanningStep.workType_isExecutable (step : PlanningStep) :
    step.workType.isExecutable = true := by
  cases step <;> rfl

/-- The planner answers at the first step that proposes a pair. -/
theorem planNextStep_of_firstProposal {state : PlannerState}
    (hbudget : state.budgetFit ≠ .tooLargeEvenReduced) {step : PlanningStep}
    {pair : String × String} (h : FirstProposal state step pair) :
    AsksFor (planNextStep state) step.workType pair := by
  obtain ⟨decision, hdecision, hasks⟩ := planOrdinaryStep_of_firstProposal h
  simpa only [planNextStep, if_neg hbudget, hdecision] using hasks

/-- The planner respects the edges exactly when its first proposal misses
none. -/
theorem respectsSeparations_iff {state : PlannerState} (hstate : state.WellFormed) :
    RespectsSeparations state ↔ FirstProposalSeesEdges state := by
  constructor
  · intro hrespects hbudget step pair hfirst hmisses
    have hasks := planNextStep_of_firstProposal hbudget hfirst
    obtain ⟨left, hleft, right, hright, hleftActive, hrightActive, rfl, hseparated⟩ :=
      (hfirst.1.namesSeparated_iff hstate hfirst.mem).mpr hmisses
    refine hrespects left hleft right hright hleftActive hrightActive ?_ hasks.2 hseparated
    rw [hasks.1]
    exact step.workType_isExecutable
  · intro hsees left hleft right hright hleftActive hrightActive hexecutable hrefs hseparated
    obtain ⟨hbudget, step, pair, hfirst, hasks⟩ := firstProposal_of_planNextStep hexecutable
    apply hsees hbudget step pair hfirst
    apply (hfirst.1.namesSeparated_iff hstate hfirst.mem).mp
    rw [hasks.2] at hrefs
    simp only [List.cons.injEq, and_true] at hrefs
    exact ⟨left, hleft, right, hright, hleftActive, hrightActive, Prod.ext hrefs.1 hrefs.2,
      hseparated⟩

/-! A claim merged under another root. -/

def plannerEdge (originRefA originRefB : String) : SeparationEdgeRow where
  separationRef := originRefA ++ "-" ++ originRefB
  group := plannerGroup
  originRefA := originRefA
  originRefB := originRefB
  establishedByBatchRef := none
  establishedByWorkItemId := none
  establishedByDispatchAttemptId := none
  sourceComparisonRef := none
  establishedAt := 0

/-- The claims `a` and `c` were merged, and an edge keeps `b` and `c` apart. -/
def mergedUnderRoot : PlannerState where
  nodes := [{ plannerNode "A" .raw ["a"] 1 with active := false },
    plannerNode "B" .raw ["b"] 1, { plannerNode "C" .raw ["c"] 1 with active := false },
    plannerNode "K" .compacted ["a", "c"] 1]
  comparisons := [plannerComparison "A" "C" .merged (some "K")]
  originSeparationEdges := [plannerEdge "b" "c"]

theorem mergedUnderRoot_wellFormed : mergedUnderRoot.WellFormed where
  nodeRefs_nodup := by decide
  sourceClaimRefs_ne_nil := by decide
  comparison_ne := by decide
  edge_lt := by decide +kernel

/-- The planner compares the merged node with the claim kept apart from it. -/
theorem mergedUnderRoot_compared :
    mergedUnderRoot.WellFormed ∧ ¬ RespectsSeparations mergedUnderRoot := by
  have hplan : (planNextStep mergedUnderRoot).nextWorkItem.workType = .mixed ∧
      (planNextStep mergedUnderRoot).nextWorkItem.nodeRefs = ["K", "B"] := by
    decide +kernel
  refine ⟨mergedUnderRoot_wellFormed, fun hrespects => ?_⟩
  apply hrespects (plannerNode "K" .compacted ["a", "c"] 1) (by decide)
    (plannerNode "B" .raw ["b"] 1) (by decide) rfl rfl
  · rw [hplan.1]
    rfl
  · exact hplan.2
  · exact ⟨plannerEdge "b" "c", by decide, .inr ⟨by decide, by decide⟩⟩

theorem mergedUnderRoot_respects_iff :
    RespectsSeparations mergedUnderRoot ↔ FirstProposalSeesEdges mergedUnderRoot :=
  respectsSeparations_iff mergedUnderRoot_wellFormed

end CrmBot.Compaction
