import CrmBot.Compaction.SeparationEdges

/-! How planning ends.

`DONE` and `WAIT_FOR_USER_MODEL_CHOICE` are what is left when no search finds a
pair. What they say about the pairs of active nodes is compared here with what
the state has decided about them. -/

namespace CrmBot.Compaction

open Relational CrmBot.Python

/-- A comparison of the pair is on record with a result. -/
def RecordedResult (state : PlannerState) (left right : NodeRow) : Prop :=
  ∃ comparison ∈ state.comparisons,
    (comparison.status = .merged ∨ comparison.status = .notMerged) ∧
      pairKey comparison.leftNodeRef comparison.rightNodeRef = pairKey left.nodeRef right.nodeRef

/-- The components of the two claims of an edge occur one in each node. -/
def SeparatedByLineageEdge (state : PlannerState) (left right : NodeRow) : Prop :=
  let find := (lineageOf state).find
  ∃ edge ∈ state.originSeparationEdges,
    find edge.originRefA ∈ rootsOf state left ∧ find edge.originRefB ∈ rootsOf state right ∨
      find edge.originRefA ∈ rootsOf state right ∧ find edge.originRefB ∈ rootsOf state left

/-- The pair needs no further comparison. -/
def Decided (state : PlannerState) (left right : NodeRow) : Prop :=
  RecordedResult state left right ∨ SeparatedByLineageEdge state left right ∨
    SeparatedByNotMerged state left right ∨ OverlapInLineage state left right

/-- The pair is too large, by its tokens, by its latest comparison or by the
budget of the whole state. -/
def DoesNotFit (state : PlannerState) (left right : NodeRow) : Prop :=
  primaryPairIsTooLarge state left right = true ∨ state.budgetFit = .tooLargeEvenReduced

/-- The planner is done only when every pair is decided, and asks the user only
about an undecided pair that does not fit. -/
structure ExactOutcome (state : PlannerState) : Prop where
  done : (planNextStep state).nextWorkItem.workType = .done →
    ∀ left ∈ orderedActiveNodes state, ∀ right ∈ orderedActiveNodes state,
      left.nodeRef ≠ right.nodeRef → Decided state left right
  waits : (planNextStep state).nextWorkItem.workType = .waitForUserModelChoice →
    ∃ left ∈ orderedActiveNodes state, ∃ right ∈ orderedActiveNodes state,
      left.nodeRef ≠ right.nodeRef ∧
      (planNextStep state).nextWorkItem.nodeRefs = [left.nodeRef, right.nodeRef] ∧
      ¬ Decided state left right ∧ DoesNotFit state left right

/-! When the outcome is exact. -/

/-- The first pair of active nodes, in the order of their references, of which
something holds. -/
def FirstPair (state : PlannerState) (holds : NodeRow → NodeRow → Prop) (left right : NodeRow) :
    Prop :=
  holds left right ∧ ∃ earlier later,
    laterPairs (orderedActiveNodes state) = earlier ++ (left, right) :: later ∧
      ∀ pair ∈ earlier, ¬ holds pair.1 pair.2

def TooLargePair (state : PlannerState) (left right : NodeRow) : Prop :=
  primaryPairIsTooLarge state left right = true

/-- The latest comparison of the pair ended without a result. -/
def UnfinishedPair (state : PlannerState) (left right : NodeRow) : Prop :=
  comparisonStatus state.comparisons left.nodeRef right.nodeRef = some .pending ∨
    comparisonStatus state.comparisons left.nodeRef right.nodeRef = some .waitingUserModelChoice ∨
    comparisonStatus state.comparisons left.nodeRef right.nodeRef = some .superseded

/-- Some step still proposes a pair. -/
def WorkRemains (state : PlannerState) : Prop :=
  ∃ step ∈ planningSteps state, ∃ pair, step.Proposes state pair

/-- The first pair the user would be asked about is undecided, and no pair that
fits is left undecided by an unfinished comparison when none is asked about. -/
def LeftoversUndecided (state : PlannerState) : Prop :=
  (∀ left right, FirstPair state (TooLargePair state) left right → ¬ Decided state left right) ∧
    ((∃ pair ∈ laterPairs (orderedActiveNodes state), TooLargePair state pair.1 pair.2) ∨
      ∀ pair ∈ laterPairs (orderedActiveNodes state),
        UnfinishedPair state pair.1 pair.2 → Decided state pair.1 pair.2)

def OutcomeCondition (state : PlannerState) : Prop :=
  if state.budgetFit = .tooLargeEvenReduced then
    ∀ left right, FirstPair state (fun _ _ => True) left right → ¬ Decided state left right
  else WorkRemains state ∨ LeftoversUndecided state

/-! Pairs that are not proposed. -/

theorem Decided.symm {state : PlannerState} {left right : NodeRow} (h : Decided state left right) :
    Decided state right left := by
  rcases h with ⟨comparison, hmem, hstatus, hkey⟩ | ⟨edge, hedge, hsides⟩ | hnotMerged | hoverlap
  · exact .inl ⟨comparison, hmem, hstatus, hkey.trans (pairKey_comm _ _)⟩
  · exact .inr (.inl ⟨edge, hedge, hsides.symm⟩)
  · exact .inr (.inr (.inl hnotMerged.symm))
  · exact .inr (.inr (.inr hoverlap.symm))

theorem SeparatedByRootEdge.lineageEdge {state : PlannerState} {left right : NodeRow}
    (h : SeparatedByRootEdge state left right) : SeparatedByLineageEdge state left right := by
  obtain ⟨edge, hedge, hsides⟩ := h
  refine ⟨edge, hedge, ?_⟩
  rcases hsides with ⟨ha, hb⟩ | ⟨ha, hb⟩
  · left
    rw [find_eq_self_of_mem_rootsOf ha, find_eq_self_of_mem_rootsOf hb]
    exact ⟨ha, hb⟩
  · right
    rw [find_eq_self_of_mem_rootsOf ha, find_eq_self_of_mem_rootsOf hb]
    exact ⟨ha, hb⟩

/-- A pair that may not be compared is decided, too large or unfinished. -/
theorem decided_of_not_canCompare {state : PlannerState} (hstate : state.WellFormed)
    {left right : NodeRow} (hleft : left ∈ state.nodes) (hright : right ∈ state.nodes)
    (hcompare : (LineageComparisonIndex.fromState state).canCompare state.comparisons left.nodeRef
      right.nodeRef ≠ true) :
    Decided state left right ∨ TooLargePair state left right ∨ UnfinishedPair state left right := by
  rw [Ne, canCompare_iff hstate hleft hright] at hcompare
  by_cases hoverlap : OverlapInLineage state left right
  · exact .inl (.inr (.inr (.inr hoverlap)))
  by_cases hedge : SeparatedByRootEdge state left right
  · exact .inl (.inr (.inl hedge.lineageEdge))
  by_cases hnotMerged : SeparatedByNotMerged state left right
  · exact .inl (.inr (.inr (.inl hnotMerged)))
  cases hstatus : comparisonStatus state.comparisons left.nodeRef right.nodeRef with
  | none => exact absurd ⟨hoverlap, hstatus, hedge, hnotMerged⟩ hcompare
  | some status =>
    obtain ⟨comparison, hmem, hcomparison, hkey⟩ := exists_of_comparisonStatus hstatus
    cases status with
    | pending => exact .inr (.inr (.inl hstatus))
    | merged => exact .inl (.inl ⟨comparison, hmem, .inl hcomparison, hkey⟩)
    | notMerged => exact .inl (.inl ⟨comparison, hmem, .inr hcomparison, hkey⟩)
    | tooLargeForPrimaryModel =>
      right
      left
      simp [TooLargePair, primaryPairIsTooLarge, hstatus]
    | waitingUserModelChoice => exact .inr (.inr (.inr (.inl hstatus)))
    | superseded => exact .inr (.inr (.inr (.inr hstatus)))

theorem fits_of_not_tooLarge {state : PlannerState} {left right : NodeRow}
    (h : ¬ TooLargePair state left right) :
    workItemFitsPrimaryTpm state (pairWorkType left right) [left.nodeRef, right.nodeRef] =
        true := by
  simp only [TooLargePair, primaryPairIsTooLarge, Bool.or_eq_true, not_or, Bool.not_eq_true',
    Bool.not_eq_false] at h
  exact h.2

theorem canCompare_comm {state : PlannerState} (hstate : state.WellFormed) {left right : NodeRow}
    (hleft : left ∈ state.nodes) (hright : right ∈ state.nodes)
    (h : (LineageComparisonIndex.fromState state).canCompare state.comparisons left.nodeRef
      right.nodeRef = true) :
    (LineageComparisonIndex.fromState state).canCompare state.comparisons right.nodeRef
      left.nodeRef = true := by
  obtain ⟨hoverlap, hstatus, hedge, hnotMerged⟩ := (canCompare_iff hstate hleft hright).mp h
  apply (canCompare_iff hstate hright hleft).mpr
  refine ⟨fun h => hoverlap h.symm, ?_, fun h => hedge h.symm, fun h => hnotMerged h.symm⟩
  rw [comparisonStatus_comm]
  exact hstatus

theorem mem_laterPairs_activeByKind {state : PlannerState} {kind : NodeKind} {left right : NodeRow}
    (hpair : (left, right) ∈ laterPairs (orderedActiveNodes state)) (hleft : left.nodeKind = kind)
    (hright : right.nodeKind = kind) : (left, right) ∈ laterPairs (activeByKind state kind) :=
  mem_laterPairs_filter hpair (decide_eq_true hleft) (decide_eq_true hright)

/-- Every pair of active nodes that fits is in the reach of a search. -/
theorem workRemains_of_canCompare {state : PlannerState} (hstate : state.WellFormed)
    {left right : NodeRow} (hpair : (left, right) ∈ laterPairs (orderedActiveNodes state))
    (hfits : ¬ TooLargePair state left right)
    (hcompare : (LineageComparisonIndex.fromState state).canCompare state.comparisons left.nodeRef
      right.nodeRef = true) : WorkRemains state := by
  obtain ⟨hleft, hright⟩ := mem_of_mem_laterPairs hpair
  have hsize := fits_of_not_tooLarge hfits
  have hkind : ∀ {node : NodeRow} {kind : NodeKind}, node ∈ orderedActiveNodes state →
      node.nodeKind = kind → node ∈ activeByKind state kind :=
    fun hnode hnodeKind => mem_nodesByKind.mpr ⟨hnode, hnodeKind⟩
  cases hleftKind : left.nodeKind with
  | raw =>
    cases hrightKind : right.nodeKind with
    | raw =>
      simp only [pairWorkType, hleftKind, hrightKind] at hsize
      exact ⟨.draftPair left right,
        mem_planningSteps.mpr (mem_laterPairs_activeByKind hpair hleftKind hrightKind), _,
        ⟨hcompare, hsize⟩, rfl⟩
    | compacted =>
      simp only [pairWorkType, hleftKind, hrightKind] at hsize
      -- the mixed search names the compacted node first
      rw [workItemFitsPrimaryTpm_comm] at hsize
      have hturned := canCompare_comm hstate (mem_orderedActiveNodes.mp hleft).1
        (mem_orderedActiveNodes.mp hright).1 hcompare
      exact ⟨.mixed right left,
        mem_planningSteps.mpr ⟨hkind hright hrightKind, hkind hleft hleftKind⟩, _,
        ⟨hturned, hsize⟩, rfl⟩
  | compacted =>
    cases hrightKind : right.nodeKind with
    | raw =>
      simp only [pairWorkType, hleftKind, hrightKind] at hsize
      exact ⟨.mixed left right,
        mem_planningSteps.mpr ⟨hkind hleft hleftKind, hkind hright hrightKind⟩, _,
        ⟨hcompare, hsize⟩, rfl⟩
    | compacted =>
      simp only [pairWorkType, hleftKind, hrightKind] at hsize
      exact ⟨.compactedPair left right,
        mem_planningSteps.mpr (mem_laterPairs_activeByKind hpair hleftKind hrightKind), _,
        ⟨hcompare, hsize⟩, rfl⟩

/-! The leftovers. -/

theorem planOrdinaryStep_eq_none_iff_work {state : PlannerState} :
    planOrdinaryStep state = none ↔ ¬ WorkRemains state := by
  rw [planOrdinaryStep_eq_none_iff]
  simp only [WorkRemains, not_exists, not_and]

theorem find?_tooLarge_eq_some_iff {state : PlannerState} {left right : NodeRow} :
    (laterPairs (orderedActiveNodes state)).find? (fun pair =>
        primaryPairIsTooLarge state pair.1 pair.2) = some (left, right) ↔
      FirstPair state (TooLargePair state) left right := by
  simp only [List.find?_eq_some_iff_append, FirstPair, TooLargePair, Bool.not_eq_true',
    Bool.not_eq_true]

/-- The first pair there is. -/
theorem head?_laterPairs_eq_some_iff {state : PlannerState} {left right : NodeRow} :
    (laterPairs (orderedActiveNodes state)).head? = some (left, right) ↔
      FirstPair state (fun _ _ => True) left right := by
  rw [List.head?_eq_some_iff]
  constructor
  · rintro ⟨later, hpairs⟩
    refine ⟨trivial, [], later, hpairs, fun pair hpair => ?_⟩
    cases hpair
  · rintro ⟨_, earlier, later, hpairs, hearlier⟩
    cases earlier with
    | nil => exact ⟨later, hpairs⟩
    | cons pair rest => exact absurd trivial (hearlier pair List.mem_cons_self)

theorem FirstPair.mem {state : PlannerState} {holds : NodeRow → NodeRow → Prop}
    {left right : NodeRow} (h : FirstPair state holds left right) :
    (left, right) ∈ laterPairs (orderedActiveNodes state) := by
  obtain ⟨_, earlier, later, hpairs, _⟩ := h
  rw [hpairs]
  exact List.mem_append_right _ List.mem_cons_self

/-- Asking about one pair is exact when the pair is undecided and too large. -/
theorem exactOutcome_of_wait {state : PlannerState} (hstate : state.WellFormed)
    {left right : NodeRow} (hpair : (left, right) ∈ laterPairs (orderedActiveNodes state))
    (hwait : (planNextStep state).nextWorkItem.workType = .waitForUserModelChoice)
    (hrefs : (planNextStep state).nextWorkItem.nodeRefs = [left.nodeRef, right.nodeRef])
    (hlarge : DoesNotFit state left right) :
    ExactOutcome state ↔ ¬ Decided state left right := by
  obtain ⟨hleft, hright⟩ := mem_of_mem_laterPairs hpair
  have hne := nodeRef_ne_of_mem_laterPairs (orderedActiveNodes_refs_nodup hstate) hpair
  have hmem : ∀ {node : NodeRow}, node ∈ orderedActiveNodes state → node ∈ state.nodes :=
    fun hnode => (mem_orderedActiveNodes.mp hnode).1
  constructor
  · intro hexact
    obtain ⟨first, hfirst, second, hsecond, _, hasked, hundecided, _⟩ := hexact.waits hwait
    rw [hrefs] at hasked
    simp only [List.cons.injEq, and_true] at hasked
    rwa [← eq_of_nodeRef_eq hstate (hmem hleft) (hmem hfirst) hasked.1,
      ← eq_of_nodeRef_eq hstate (hmem hright) (hmem hsecond) hasked.2] at hundecided
  · intro hundecided
    refine ⟨fun hdone => ?_, fun _ => ⟨left, hleft, right, hright, hne, hrefs, hundecided, hlarge⟩⟩
    rw [hwait] at hdone
    cases hdone

/-- Ending is exact when all pairs are decided. -/
theorem exactOutcome_of_done {state : PlannerState} (hstate : state.WellFormed)
    (hdone : (planNextStep state).nextWorkItem.workType = .done) :
    ExactOutcome state ↔ ∀ pair ∈ laterPairs (orderedActiveNodes state),
      Decided state pair.1 pair.2 := by
  constructor
  · rintro hexact ⟨left, right⟩ hpair
    obtain ⟨hleft, hright⟩ := mem_of_mem_laterPairs hpair
    exact hexact.done hdone left hleft right hright
      (nodeRef_ne_of_mem_laterPairs (orderedActiveNodes_refs_nodup hstate) hpair)
  · intro hdecided
    refine ⟨fun _ left hleft right hright hne => ?_, fun hwait => ?_⟩
    · have hnodes : left ≠ right := fun heq => hne (congrArg NodeRow.nodeRef heq)
      rcases mem_laterPairs_of_ne hleft hright hnodes with hpair | hpair
      · exact hdecided _ hpair
      · exact (hdecided _ hpair).symm
    · rw [hdone] at hwait
      cases hwait

/-- An executable step is neither outcome. -/
theorem exactOutcome_of_work {state : PlannerState}
    (hbudget : state.budgetFit ≠ .tooLargeEvenReduced) (hwork : WorkRemains state) :
    ExactOutcome state := by
  have hstep : planOrdinaryStep state ≠ none := by
    rw [Ne, planOrdinaryStep_eq_none_iff_work, not_not]
    exact hwork
  obtain ⟨decision, hdecision⟩ := Option.ne_none_iff_exists'.mp hstep
  obtain ⟨step, pair, hfirst, _⟩ := firstProposal_of_planOrdinaryStep hdecision
  have hasks := planNextStep_of_firstProposal hbudget hfirst
  have hexecutable := step.workType_isExecutable
  rw [← hasks.1] at hexecutable
  constructor
  · intro hdone
    rw [hdone] at hexecutable
    cases hexecutable
  · intro hwait
    rw [hwait] at hexecutable
    cases hexecutable

/-- Without a step, the answer is read off the first pair that is too large. -/
theorem exactOutcome_iff_leftovers {state : PlannerState} (hstate : state.WellFormed)
    (hbudget : state.budgetFit ≠ .tooLargeEvenReduced) (hwork : ¬ WorkRemains state) :
    ExactOutcome state ↔ LeftoversUndecided state := by
  have hstep := planOrdinaryStep_eq_none_iff_work.mpr hwork
  cases hfind : (laterPairs (orderedActiveNodes state)).find? fun pair =>
      primaryPairIsTooLarge state pair.1 pair.2 with
  | none =>
    have hdone : (planNextStep state).nextWorkItem.workType = .done := by
      simp [planNextStep, hbudget, hstep, firstUnresolvedPrimaryTooLargePair, hfind, doneDecision]
    have hfits : ∀ pair ∈ laterPairs (orderedActiveNodes state),
        ¬ TooLargePair state pair.1 pair.2 := List.find?_eq_none.mp hfind
    rw [exactOutcome_of_done hstate hdone]
    constructor
    · intro hdecided
      constructor
      · intro left right hfirst
        exact absurd hfirst.1 (hfits (left, right) hfirst.mem)
      · right
        intro pair hpair _
        exact hdecided pair hpair
    · rintro ⟨_, hleft⟩ pair hpair
      have hunfinished := hleft.resolve_left (by
        rintro ⟨large, hmem, hlarge⟩
        exact hfits large hmem hlarge)
      have hmem := mem_of_mem_laterPairs hpair
      rcases decided_of_not_canCompare hstate (mem_orderedActiveNodes.mp hmem.1).1
        (mem_orderedActiveNodes.mp hmem.2).1
        (fun hcompare => hwork (workRemains_of_canCompare hstate hpair (hfits pair hpair) hcompare))
        with hdecided | hlarge | hstale
      · exact hdecided
      · exact absurd hlarge (hfits pair hpair)
      · exact hunfinished pair hpair hstale
  | some pair =>
    obtain ⟨left, right⟩ := pair
    have hfirst : FirstPair state (TooLargePair state) left right :=
      find?_tooLarge_eq_some_iff.mp hfind
    have hwait : (planNextStep state).nextWorkItem.workType = .waitForUserModelChoice ∧
        (planNextStep state).nextWorkItem.nodeRefs = [left.nodeRef, right.nodeRef] := by
      simp [planNextStep, hbudget, hstep, firstUnresolvedPrimaryTooLargePair, hfind, waitDecision,
        budgeted]
    rw [exactOutcome_of_wait hstate hfirst.mem hwait.1 hwait.2 (.inl hfirst.1)]
    constructor
    · intro hundecided
      refine ⟨fun first second hother => ?_, .inl ⟨(left, right), hfirst.mem, hfirst.1⟩⟩
      have hsame := find?_tooLarge_eq_some_iff.mpr hother
      rw [hfind, Option.some.injEq, Prod.mk.injEq] at hsame
      rwa [hsame.1, hsame.2] at hundecided
    · intro hleftovers
      exact hleftovers.1 left right hfirst

/-- The planner's endings are exact exactly under the condition. -/
theorem exactOutcome_iff {state : PlannerState} (hstate : state.WellFormed) :
    ExactOutcome state ↔ OutcomeCondition state := by
  unfold OutcomeCondition
  by_cases hbudget : state.budgetFit = .tooLargeEvenReduced
  · rw [if_pos hbudget]
    cases hhead : (laterPairs (orderedActiveNodes state)).head? with
    | none =>
      have hdone : (planNextStep state).nextWorkItem.workType = .done := by
        simp [planNextStep, hbudget, firstPairForUserChoice, hhead, doneDecision]
      rw [exactOutcome_of_done hstate hdone]
      have hempty := List.head?_eq_none_iff.mp hhead
      constructor
      · intro _ left right hfirst
        have hmem := hfirst.mem
        rw [hempty] at hmem
        cases hmem
      · intro _ pair hpair
        rw [hempty] at hpair
        cases hpair
    | some pair =>
      obtain ⟨left, right⟩ := pair
      have hfirst := head?_laterPairs_eq_some_iff.mp hhead
      have hwait : (planNextStep state).nextWorkItem.workType = .waitForUserModelChoice ∧
          (planNextStep state).nextWorkItem.nodeRefs = [left.nodeRef, right.nodeRef] := by
        simp [planNextStep, hbudget, firstPairForUserChoice, hhead, waitDecision, budgeted]
      rw [exactOutcome_of_wait hstate hfirst.mem hwait.1 hwait.2 (.inr hbudget)]
      constructor
      · intro hundecided first second hother
        have hsame := head?_laterPairs_eq_some_iff.mpr hother
        rw [hhead, Option.some.injEq, Prod.mk.injEq] at hsame
        rwa [hsame.1, hsame.2] at hundecided
      · intro hall
        exact hall left right hfirst
  · rw [if_neg hbudget]
    by_cases hwork : WorkRemains state
    · exact iff_of_true (exactOutcome_of_work hbudget hwork) (.inl hwork)
    rw [or_iff_right hwork]
    exact exactOutcome_iff_leftovers hstate hbudget hwork

/-! Two nodes that were already found different, and are too large together. -/

def refusedOversize : PlannerState where
  nodes := [plannerNode "A" .compacted ["a"] 1600, plannerNode "B" .compacted ["b"] 1600]
  comparisons := [plannerComparison "A" "B" .notMerged none]
  originSeparationEdges := []

theorem refusedOversize_wellFormed : refusedOversize.WellFormed where
  nodeRefs_nodup := by decide
  sourceClaimRefs_ne_nil := by decide
  comparison_ne := by decide
  edge_lt := by decide

theorem refusedOversize_iff : ExactOutcome refusedOversize ↔ OutcomeCondition refusedOversize :=
  exactOutcome_iff refusedOversize_wellFormed

/-- The user is asked about the pair although its comparison has a result. -/
theorem refusedOversize_waits : refusedOversize.WellFormed ∧ ¬ ExactOutcome refusedOversize := by
  have hplan : (planNextStep refusedOversize).nextWorkItem.workType = .waitForUserModelChoice ∧
      (planNextStep refusedOversize).nextWorkItem.nodeRefs = ["A", "B"] := by
    decide +kernel
  refine ⟨refusedOversize_wellFormed, fun hexact => ?_⟩
  obtain ⟨left, _, right, _, _, hrefs, hundecided, _⟩ := hexact.waits hplan.1
  rw [hplan.2] at hrefs
  simp only [List.cons.injEq, and_true] at hrefs
  apply hundecided
  left
  refine ⟨plannerComparison "A" "B" .notMerged none, by decide, .inr rfl, ?_⟩
  rw [← hrefs.1, ← hrefs.2]
  rfl

end CrmBot.Compaction
