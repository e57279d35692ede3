import CrmBot.Compaction.ReductionPlanner

/-! The planner as one ordered search.

`plan_next_step` tries five searches one after the other. Here they are one list
of steps, each with the checks it has to pass, so that what the planner answers
is read off the first step that passes. -/

namespace CrmBot.Compaction

open Relational CrmBot.Python

/-! Pairs. -/

theorem pairKey_comm (left right : String) : pairKey left right = pairKey right left := by
  unfold pairKey
  split
  · next hle =>
    split
    · next hge =>
      have heq := le_antisymm hle hge
      rw [heq]
    · rfl
  · next hle => rw [if_pos ((le_total left right).resolve_left hle)]

theorem pairKey_eq_iff {left right first second : String} :
    pairKey left right = pairKey first second ↔
      left = first ∧ right = second ∨ left = second ∧ right = first := by
  constructor
  · intro h
    unfold pairKey at h
    split at h <;> split at h <;> simp only [Prod.mk.injEq] at h
    · exact .inl h
    · exact .inr h
    · exact .inr ⟨h.2, h.1⟩
    · exact .inl ⟨h.2, h.1⟩
  · rintro (⟨rfl, rfl⟩ | ⟨rfl, rfl⟩)
    · rfl
    · exact pairKey_comm _ _

/-- Two members at different places form a pair, in one of the two orders. -/
theorem mem_laterPairs_of_ne {α : Type*} {values : List α} {first second : α}
    (hfirst : first ∈ values) (hsecond : second ∈ values) (hne : first ≠ second) :
    (first, second) ∈ laterPairs values ∨ (second, first) ∈ laterPairs values := by
  induction values with
  | nil => cases hfirst
  | cons head rest ih =>
    simp only [laterPairs, List.mem_append, List.mem_map, Prod.mk.injEq]
    rcases List.mem_cons.mp hfirst with hhead | hfirst
    · have hrest := (List.mem_cons.mp hsecond).resolve_left fun h => hne (hhead.trans h.symm)
      exact .inl (.inl ⟨second, hrest, hhead.symm, rfl⟩)
    · rcases List.mem_cons.mp hsecond with hhead | hsecond
      · exact .inr (.inl ⟨first, hfirst, hhead.symm, rfl⟩)
      · rcases ih hfirst hsecond with h | h
        · exact .inl (.inr h)
        · exact .inr (.inr h)

theorem mem_laterPairs_filter {α : Type*} {keep : α → Bool} {values : List α} {pair : α × α}
    (h : pair ∈ laterPairs values) (hfirst : keep pair.1 = true) (hsecond : keep pair.2 = true) :
    pair ∈ laterPairs (values.filter keep) := by
  induction values with
  | nil => exact h
  | cons head rest ih =>
    simp only [laterPairs, List.mem_append, List.mem_map] at h
    rcases h with ⟨right, hright, rfl⟩ | hrest
    · rw [List.filter_cons_of_pos hfirst]
      simp only [laterPairs, List.mem_append, List.mem_map]
      exact .inl ⟨right, List.mem_filter.mpr ⟨hright, hsecond⟩, rfl⟩
    · have hmem := ih hrest
      cases hkeep : keep head with
      | true =>
        rw [List.filter_cons_of_pos hkeep]
        exact List.mem_append_right _ hmem
      | false =>
        rw [List.filter_cons_of_neg (by simp [hkeep])]
        exact hmem

/-! The steps, in the order of the searches. -/

inductive PlanningStep
  | rewrite (left right raw : NodeRow)
  | compactedPair (left right : NodeRow)
  | probe (left right compacted raw : NodeRow)
  | mixed (compacted raw : NodeRow)
  | draftPair (left right : NodeRow)

def activeByKind (state : PlannerState) (kind : NodeKind) : List NodeRow :=
  nodesByKind (orderedActiveNodes state) kind

def planningSteps (state : PlannerState) : List PlanningStep :=
  let compacted := activeByKind state .compacted
  let raw := activeByKind state .raw
  (laterPairs compacted).flatMap (fun pair => raw.map (PlanningStep.rewrite pair.1 pair.2)) ++
    (laterPairs compacted).map (fun pair => .compactedPair pair.1 pair.2) ++
    (laterPairs compacted).flatMap (fun pair => raw.flatMap fun node =>
      [.probe pair.1 pair.2 pair.1 node, .probe pair.1 pair.2 pair.2 node]) ++
    compacted.flatMap (fun node => raw.map (PlanningStep.mixed node)) ++
    (laterPairs raw).map (fun pair => .draftPair pair.1 pair.2)

/-- What the planner answers at a step. -/
def PlanningStep.proposal (state : PlannerState) : PlanningStep → Option PlannerDecision
  | .rewrite left right raw =>
    if primaryPairIsTooLarge state left right then
      (bridgeRewriteCandidate state left right raw).map (pairDecision state .reducedRewrite
        "two bridge comparisons merged after primary too-large pair")
    else none
  | .compactedPair left right =>
    (comparableCandidate state (.fromState state) .compactedVsCompacted left right).map
      (pairDecision state .compactedVsCompacted "compacted-vs-compacted has highest priority")
  | .probe left right compacted raw =>
    if primaryPairIsTooLarge state left right then
      (mixedCandidate state (.fromState state) compacted raw).map (pairDecision state .mixed
        "primary too-large compacted pair can be probed through raw node")
    else none
  | .mixed compacted raw =>
    (mixedCandidate state (.fromState state) compacted raw).map
      (pairDecision state .mixed "pending raw node must be compared with compacted node")
  | .draftPair left right =>
    (comparableCandidate state (.fromState state) .draftVsDraft left right).map
      (pairDecision state .draftVsDraft "raw-vs-raw is lowest ordinary comparison priority")

theorem findSome?_filter {α β : Type*} (keep : α → Bool) (found : α → Option β) (values : List α) :
    (values.filter keep).findSome? found =
      values.findSome? fun value => if keep value then found value else none := by
  induction values with
  | nil => rfl
  | cons head rest ih =>
    cases hkeep : keep head with
    | true => simp [hkeep, List.findSome?_cons, ih]
    | false => simp [hkeep, ih]

theorem findSome?_flatMap {α β γ : Type*} (parts : α → List β) (found : β → Option γ)
    (values : List α) :
    (values.flatMap parts).findSome? found =
      values.findSome? fun value => (parts value).findSome? found := by
  induction values with
  | nil => rfl
  | cons head rest ih =>
    rw [List.flatMap_cons, List.findSome?_append, ih, List.findSome?_cons]
    cases (parts head).findSome? found <;> rfl

/-- A check made before a search is made at each of its places. -/
theorem findSome?_ite {α β : Type*} (holds : Prop) [Decidable holds] (found : α → Option β)
    (values : List α) :
    (values.findSome? fun value => if holds then found value else none) =
      if holds then values.findSome? found else none := by
  split <;> simp

/-- The searches together answer at the first step that proposes something. -/
theorem planOrdinaryStep_eq (state : PlannerState) :
    planOrdinaryStep state = (planningSteps state).findSome? (PlanningStep.proposal state) := by
  have hrewrite : ((laterPairs (activeByKind state .compacted)).flatMap fun pair =>
      (activeByKind state .raw).map (PlanningStep.rewrite pair.1 pair.2)).findSome?
        (PlanningStep.proposal state) =
      (findBridgeRewrite state (activeByKind state .compacted) (activeByKind state .raw)).map
        (pairDecision state .reducedRewrite
          "two bridge comparisons merged after primary too-large pair") := by
    simp only [findSome?_flatMap, List.findSome?_map, Function.comp_def, PlanningStep.proposal,
      findSome?_ite, findBridgeRewrite, findSome?_filter, List.map_findSome?]
    congr 1
    funext pair
    split <;> simp [List.map_findSome?, Function.comp_def]
  have hprobe : ((laterPairs (activeByKind state .compacted)).flatMap fun pair =>
      (activeByKind state .raw).flatMap fun node =>
        [PlanningStep.probe pair.1 pair.2 pair.1 node, .probe pair.1 pair.2 pair.2 node]).findSome?
        (PlanningStep.proposal state) =
      (findBridgeComparison state (.fromState state) (activeByKind state .compacted)
        (activeByKind state .raw)).map (pairDecision state .mixed
          "primary too-large compacted pair can be probed through raw node") := by
    simp only [findSome?_flatMap, List.findSome?_cons, List.findSome?_nil, PlanningStep.proposal,
      findBridgeComparison, findSome?_filter, List.map_findSome?]
    congr 1
    funext pair
    split
    · next hlarge =>
      rw [Function.comp_apply, if_pos hlarge, List.map_findSome?]
      congr 1
      funext raw
      rw [Function.comp_apply]
      cases mixedCandidate state (.fromState state) pair.1 raw with
      | some found => rfl
      | none => cases mixedCandidate state (.fromState state) pair.2 raw <;> rfl
    · next hlarge => simp [hlarge]
  have hmixed : ((activeByKind state .compacted).flatMap fun node =>
      (activeByKind state .raw).map (PlanningStep.mixed node)).findSome?
        (PlanningStep.proposal state) =
      (firstComparableMixedPair state (.fromState state) (activeByKind state .compacted)
        (activeByKind state .raw)).map
        (pairDecision state .mixed "pending raw node must be compared with compacted node") := by
    simp only [findSome?_flatMap, List.findSome?_map, Function.comp_def, PlanningStep.proposal,
      firstComparableMixedPair, List.map_findSome?]
  simp only [planningSteps, List.findSome?_append, hrewrite, hprobe, hmixed, List.findSome?_map,
    Function.comp_def, PlanningStep.proposal, Option.or_assoc]
  simp only [planOrdinaryStep, firstComparablePair, List.map_findSome?, Function.comp_def,
    Option.orElse_eq_orElse, Option.orElse_eq_or]
  rfl

/-! What a step proposes. -/

/-- A pair that the lineage lets compare and that fits the primary model. -/
def Comparable (state : PlannerState) (workType : NextWorkItemType) (left right : NodeRow) : Prop :=
  (LineageComparisonIndex.fromState state).canCompare state.comparisons left.nodeRef
      right.nodeRef = true ∧
    workItemFitsPrimaryTpm state workType [left.nodeRef, right.nodeRef] = true

/-- The latest comparisons of two nodes with one raw node merged, and their two
results, which no comparison is recorded for, fit a rewrite. -/
def RewriteReady (state : PlannerState) (left right raw : NodeRow) (pair : String × String) :
    Prop :=
  comparisonStatus state.comparisons left.nodeRef raw.nodeRef = some .merged ∧
    comparisonStatus state.comparisons right.nodeRef raw.nodeRef = some .merged ∧
    ∃ leftResult rightResult,
      comparisonResultNodeRef state.comparisons left.nodeRef raw.nodeRef = some leftResult ∧
      comparisonResultNodeRef state.comparisons right.nodeRef raw.nodeRef = some rightResult ∧
      pair = pairKey leftResult rightResult ∧
      comparisonStatus state.comparisons leftResult rightResult = none ∧
      workItemFitsPrimaryTpm state .reducedRewrite [pair.1, pair.2] = true

theorem bridgeRewriteCandidate_eq_some_iff {state : PlannerState} {left right raw : NodeRow}
    {pair : String × String} :
    bridgeRewriteCandidate state left right raw = some pair ↔
      RewriteReady state left right raw pair := by
  unfold bridgeRewriteCandidate RewriteReady
  by_cases hmerged : comparisonStatus state.comparisons left.nodeRef raw.nodeRef = some .merged ∧
      comparisonStatus state.comparisons right.nodeRef raw.nodeRef = some .merged
  · rw [if_pos hmerged, and_iff_right hmerged.1, and_iff_right hmerged.2]
    cases comparisonResultNodeRef state.comparisons left.nodeRef raw.nodeRef with
    | none => simp
    | some leftResult =>
      cases comparisonResultNodeRef state.comparisons right.nodeRef raw.nodeRef with
      | none => simp
      | some rightResult =>
        simp only [Option.some.injEq, exists_and_left, exists_eq_left',
          Option.ite_none_right_eq_some,
          Bool.and_eq_true, Option.isNone_iff_eq_none]
        constructor
        · rintro ⟨⟨hstatus, hfits⟩, rfl⟩
          exact ⟨rfl, hstatus, hfits⟩
        · rintro ⟨rfl, hstatus, hfits⟩
          exact ⟨⟨hstatus, hfits⟩, rfl⟩
  · rw [if_neg hmerged]
    constructor
    · exact nofun
    · rintro ⟨hleft, hright, _⟩
      exact absurd ⟨hleft, hright⟩ hmerged

theorem comparableCandidate_eq_some_iff {state : PlannerState} {workType : NextWorkItemType}
    {left right : NodeRow} {pair : String × String} :
    comparableCandidate state (.fromState state) workType left right = some pair ↔
      Comparable state workType left right ∧ pair = (left.nodeRef, right.nodeRef) := by
  simp only [comparableCandidate, Comparable, Option.ite_none_right_eq_some, Bool.and_eq_true,
    Option.some.injEq, @eq_comm _ pair]

def PlanningStep.workType : PlanningStep → NextWorkItemType
  | .rewrite .. => .reducedRewrite
  | .compactedPair .. => .compactedVsCompacted
  | .probe .. | .mixed .. => .mixed
  | .draftPair .. => .draftVsDraft

/-- The step passes its checks and names the two references. -/
def PlanningStep.Proposes (state : PlannerState) (pair : String × String) : PlanningStep → Prop
  | .rewrite left right raw =>
    primaryPairIsTooLarge state left right = true ∧ RewriteReady state left right raw pair
  | .compactedPair left right =>
    Comparable state .compactedVsCompacted left right ∧ pair = (left.nodeRef, right.nodeRef)
  | .probe left right node raw =>
    primaryPairIsTooLarge state left right = true ∧
      Comparable state .mixed node raw ∧ pair = (node.nodeRef, raw.nodeRef)
  | .mixed node raw =>
    Comparable state .mixed node raw ∧ pair = (node.nodeRef, raw.nodeRef)
  | .draftPair left right =>
    Comparable state .draftVsDraft left right ∧ pair = (left.nodeRef, right.nodeRef)

/-- The decision of a step over a pair. -/
def AsksFor (decision : PlannerDecision) (workType : NextWorkItemType) (pair : String × String) :
    Prop :=
  decision.nextWorkItem.workType = workType ∧ decision.nextWorkItem.nodeRefs = [pair.1, pair.2]

theorem PlanningStep.exists_proposal_iff {state : PlannerState} {step : PlanningStep}
    {pair : String × String} :
    (∃ decision, step.proposal state = some decision ∧ AsksFor decision step.workType pair) ↔
      step.Proposes state pair := by
  have hdecide : ∀ (candidate : Option (String × String)) (workType : NextWorkItemType)
      (reason : String),
      (∃ decision, candidate.map (pairDecision state workType reason) = some decision ∧
        AsksFor decision workType pair) ↔ candidate = some pair := by
    intro candidate workType reason
    constructor
    · rintro ⟨decision, hmap, hasks⟩
      obtain ⟨found, hfound, rfl⟩ := Option.map_eq_some_iff.mp hmap
      have hrefs : [found.1, found.2] = [pair.1, pair.2] := hasks.2
      simp only [List.cons.injEq, and_true] at hrefs
      rw [hfound, Option.some.injEq]
      exact Prod.ext hrefs.1 hrefs.2
    · rintro rfl
      exact ⟨_, rfl, rfl, rfl⟩
  have hchecked : ∀ (large : Bool) (candidate : Option (String × String))
      (workType : NextWorkItemType) (reason : String),
      (∃ decision, (if large then candidate.map (pairDecision state workType reason) else none) =
        some decision ∧ AsksFor decision workType pair) ↔
          large = true ∧ candidate = some pair := by
    intro large candidate workType reason
    cases large with
    | true => simpa using hdecide candidate workType reason
    | false => simp
  cases step with
  | rewrite left right raw =>
    simp only [proposal, workType, Proposes, hchecked, bridgeRewriteCandidate_eq_some_iff]
  | compactedPair left right =>
    simp only [proposal, workType, Proposes, hdecide, comparableCandidate_eq_some_iff]
  | probe left right node raw =>
    simp only [proposal, workType, Proposes, hchecked, mixedCandidate,
      comparableCandidate_eq_some_iff]
  | mixed node raw =>
    simp only [proposal, workType, Proposes, hdecide, mixedCandidate,
      comparableCandidate_eq_some_iff]
  | draftPair left right =>
    simp only [proposal, workType, Proposes, hdecide, comparableCandidate_eq_some_iff]

/-- Every decision of a step asks for the work of the step over some pair. -/
theorem PlanningStep.asksFor_of_proposal {state : PlannerState} {step : PlanningStep}
    {decision : PlannerDecision} (h : step.proposal state = some decision) :
    ∃ pair, AsksFor decision step.workType pair := by
  have hmap : ∀ (candidate : Option (String × String)) (workType : NextWorkItemType)
      (reason : String), candidate.map (pairDecision state workType reason) = some decision →
      ∃ pair, AsksFor decision workType pair := by
    intro candidate workType reason hcandidate
    obtain ⟨found, _, rfl⟩ := Option.map_eq_some_iff.mp hcandidate
    exact ⟨found, rfl, rfl⟩
  cases step with
  | rewrite left right raw =>
    simp only [proposal, Option.ite_none_right_eq_some] at h
    exact hmap _ _ _ h.2
  | compactedPair left right => exact hmap _ _ _ h
  | probe left right node raw =>
    simp only [proposal, Option.ite_none_right_eq_some] at h
    exact hmap _ _ _ h.2
  | mixed node raw => exact hmap _ _ _ h
  | draftPair left right => exact hmap _ _ _ h

theorem PlanningStep.proposal_eq_none_iff {state : PlannerState} {step : PlanningStep} :
    step.proposal state = none ↔ ∀ pair, ¬ step.Proposes state pair := by
  constructor
  · intro hnone pair hpair
    obtain ⟨decision, hsome, _⟩ := exists_proposal_iff.mpr hpair
    rw [hnone] at hsome
    cases hsome
  · intro hpairs
    cases hsome : step.proposal state with
    | none => rfl
    | some decision =>
      obtain ⟨pair, hasks⟩ := asksFor_of_proposal hsome
      exact absurd (exists_proposal_iff.mp ⟨decision, hsome, hasks⟩) (hpairs pair)

/-! The first step that proposes something. -/

/-- The step proposes the pair, and no step before it proposes anything. -/
def FirstProposal (state : PlannerState) (step : PlanningStep) (pair : String × String) : Prop :=
  step.Proposes state pair ∧ ∃ earlier later, planningSteps state = earlier ++ step :: later ∧
    ∀ before ∈ earlier, ∀ other, ¬ before.Proposes state other

theorem FirstProposal.mem {state : PlannerState} {step : PlanningStep} {pair : String × String}
    (h : FirstProposal state step pair) : step ∈ planningSteps state := by
  obtain ⟨_, earlier, later, hsteps, _⟩ := h
  rw [hsteps]
  exact List.mem_append_right _ List.mem_cons_self

theorem planOrdinaryStep_eq_none_iff {state : PlannerState} :
    planOrdinaryStep state = none ↔
      ∀ step ∈ planningSteps state, ∀ pair, ¬ step.Proposes state pair := by
  simp only [planOrdinaryStep_eq, List.findSome?_eq_none_iff, PlanningStep.proposal_eq_none_iff]

theorem firstProposal_of_planOrdinaryStep {state : PlannerState} {decision : PlannerDecision}
    (h : planOrdinaryStep state = some decision) :
    ∃ step pair, FirstProposal state step pair ∧ AsksFor decision step.workType pair := by
  rw [planOrdinaryStep_eq, List.findSome?_eq_some_iff] at h
  obtain ⟨earlier, step, later, hsteps, hproposal, hearlier⟩ := h
  obtain ⟨pair, hasks⟩ := PlanningStep.asksFor_of_proposal hproposal
  refine ⟨step, pair, ⟨?_, earlier, later, hsteps, fun before hbefore => ?_⟩, hasks⟩
  · exact PlanningStep.exists_proposal_iff.mp ⟨decision, hproposal, hasks⟩
  · exact PlanningStep.proposal_eq_none_iff.mp (hearlier before hbefore)

theorem planOrdinaryStep_of_firstProposal {state : PlannerState} {step : PlanningStep}
    {pair : String × String} (h : FirstProposal state step pair) :
    ∃ decision, planOrdinaryStep state = some decision ∧ AsksFor decision step.workType pair := by
  obtain ⟨hpair, earlier, later, hsteps, hearlier⟩ := h
  obtain ⟨decision, hproposal, hasks⟩ := PlanningStep.exists_proposal_iff.mpr hpair
  refine ⟨decision, ?_, hasks⟩
  rw [planOrdinaryStep_eq, List.findSome?_eq_some_iff]
  exact ⟨earlier, step, later, hsteps, hproposal, fun before hbefore =>
    PlanningStep.proposal_eq_none_iff.mpr (hearlier before hbefore)⟩

/-! The nodes of a step. -/

/-- The nodes a step is about, all of them active. -/
def PlanningStep.OverActive (state : PlannerState) : PlanningStep → Prop
  | .rewrite left right raw =>
    (left, right) ∈ laterPairs (activeByKind state .compacted) ∧ raw ∈ activeByKind state .raw
  | .compactedPair left right => (left, right) ∈ laterPairs (activeByKind state .compacted)
  | .probe left right node raw =>
    (left, right) ∈ laterPairs (activeByKind state .compacted) ∧
      raw ∈ activeByKind state .raw ∧ (node = left ∨ node = right)
  | .mixed node raw => node ∈ activeByKind state .compacted ∧ raw ∈ activeByKind state .raw
  | .draftPair left right => (left, right) ∈ laterPairs (activeByKind state .raw)

theorem mem_planningSteps {state : PlannerState} {step : PlanningStep} :
    step ∈ planningSteps state ↔ step.OverActive state := by
  simp only [planningSteps, List.mem_append, List.mem_flatMap, List.mem_map, Prod.exists]
  cases step with
  | rewrite left right raw => simp [PlanningStep.OverActive]
  | compactedPair left right => simp [PlanningStep.OverActive]
  | probe left right node raw =>
    suffices hprobe : (∃ first second, (first, second) ∈ laterPairs
        (activeByKind state .compacted) ∧
        ∃ draft ∈ activeByKind state .raw,
          left = first ∧ right = second ∧ node = first ∧ raw = draft ∨
            left = first ∧ right = second ∧ node = second ∧ raw = draft) ↔
        PlanningStep.OverActive state (.probe left right node raw) by simpa using hprobe
    constructor
    · rintro ⟨_, _, hpair, _, hraw, ⟨rfl, rfl, rfl, rfl⟩ | ⟨rfl, rfl, rfl, rfl⟩⟩
      · exact ⟨hpair, hraw, .inl rfl⟩
      · exact ⟨hpair, hraw, .inr rfl⟩
    · rintro ⟨hpair, hraw, rfl | rfl⟩
      · exact ⟨_, _, hpair, raw, hraw, .inl ⟨rfl, rfl, rfl, rfl⟩⟩
      · exact ⟨_, _, hpair, raw, hraw, .inr ⟨rfl, rfl, rfl, rfl⟩⟩
  | mixed node raw => simp [PlanningStep.OverActive]
  | draftPair left right => simp [PlanningStep.OverActive]

end CrmBot.Compaction
