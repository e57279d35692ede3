import CrmBot.Compaction.ReductionState

/-! `DraftClaimCompactionReductionPlannerPolicy` and the state it plans from. -/

namespace CrmBot.Compaction

open Relational CrmBot.Python

def primaryDraftClaimCompactionModelId : String := "openai/gpt-oss-120b"

def degradedDraftClaimCompactionModelId : String := "llama-3.3-70b-versatile"

inductive NextWorkItemType
  | draftVsDraft
  | compactedVsCompacted
  | mixed
  | reducedRewrite
  | waitForUserModelChoice
  | done
  deriving DecidableEq, Repr

def NextWorkItemType.value : NextWorkItemType → String
  | .draftVsDraft => "draft_vs_draft"
  | .compactedVsCompacted => "compacted_vs_compacted"
  | .mixed => "mixed"
  | .reducedRewrite => "reduced_rewrite"
  | .waitForUserModelChoice => "wait_for_user_model_choice"
  | .done => "done"

/-- The work types a work item is scheduled for. -/
def NextWorkItemType.isExecutable : NextWorkItemType → Bool
  | .draftVsDraft | .compactedVsCompacted | .mixed | .reducedRewrite => true
  | .waitForUserModelChoice | .done => false

inductive BudgetFitStatus
  | fitsPrimary
  | tooLargeForPrimary
  | tooLargeEvenReduced
  deriving DecidableEq, Repr

/-- What the policy reads of `DraftClaimCompactionPlannerState`. -/
structure PlannerState where
  nodes : List NodeRow
  comparisons : List ComparisonRow
  originSeparationEdges : List SeparationEdgeRow
  budgetFit : BudgetFitStatus := .fitsPrimary

structure NextWorkItem where
  workType : NextWorkItemType
  nodeRefs : List String
  primaryModelId : String := primaryDraftClaimCompactionModelId
  degradedModelId : Option String := none
  userChoiceResumeWorkType : Option NextWorkItemType := none
  promptTokens : Nat := 0
  artifactTokens : Nat := 0
  inputTokens : Nat := 0
  requiredWindowTokens : Nat := 0
  requestCount : Nat := 1
  deriving DecidableEq

structure PlannerDecision where
  nextWorkItem : NextWorkItem
  reason : String
  deriving DecidableEq

/-! Loading. -/

/-- `ORDER BY round_index, created_at, comparison_ref`. -/
def ComparisonRow.before (first second : ComparisonRow) : Prop :=
  first.roundIndex < second.roundIndex ∨ (first.roundIndex = second.roundIndex ∧
    (first.createdAt < second.createdAt ∨ (first.createdAt = second.createdAt ∧
      first.comparisonRef ≤ second.comparisonRef)))

instance : DecidableRel ComparisonRow.before := fun _ _ => inferInstanceAs (Decidable (_ ∨ _))

/-- `ORDER BY origin_ref_a, origin_ref_b`. -/
def SeparationEdgeRow.before (first second : SeparationEdgeRow) : Prop :=
  first.originRefA < second.originRefA ∨
    (first.originRefA = second.originRefA ∧ first.originRefB ≤ second.originRefB)

instance : DecidableRel SeparationEdgeRow.before := fun _ _ => inferInstanceAs (Decidable (_ ∨ _))

/-- `load_planner_state`: `none` for a group without nodes. -/
def loadPlannerState (state : ReductionState) (group : GroupKey) : Option PlannerState :=
  let nodes := (state.nodes.rows.filter fun row => row.group = group).insertionSort
    fun first second => first.nodeRef ≤ second.nodeRef
  if nodes = [] then none
  else some
    { nodes := nodes
      comparisons := (state.comparisons.rows.filter fun row => row.group = group).insertionSort
        ComparisonRow.before
      originSeparationEdges := (state.separationEdges.rows.filter fun row =>
        row.group = group).insertionSort SeparationEdgeRow.before }

theorem mem_loadedNodes {state : ReductionState} {group : GroupKey} {planner : PlannerState}
    (h : loadPlannerState state group = some planner) {row : NodeRow} :
    row ∈ planner.nodes ↔ row ∈ state.nodes.rows ∧ row.group = group := by
  simp only [loadPlannerState] at h
  split at h
  · cases h
  · simp only [Option.some.injEq] at h
    rw [← h]
    simp

/-! Budgets. -/

/-- `DRAFT_CLAIM_COMPACTION_PROMPT_TOKENS_BY_VARIANT`, asked for executable types
only. -/
def promptTokensForWorkType : NextWorkItemType → Nat
  | .draftVsDraft => 2050
  | .compactedVsCompacted => 2150
  | .mixed => 2150
  | .reducedRewrite => 400
  | .waitForUserModelChoice | .done => 0

def requestSafetyGapTokens : Nat := 300

/-- `draft_claim_compaction_max_batch_tokens`, of 8000 tokens a minute. -/
def maxBatchTokens (workType : NextWorkItemType) : Nat :=
  (8000 - promptTokensForWorkType workType - requestSafetyGapTokens) / 2

def nodeByRef (nodes : List NodeRow) (nodeRef : String) : Option NodeRow :=
  nodes.find? fun node => node.nodeRef = nodeRef

/-- `_estimated_task_tokens`. -/
def estimatedTaskTokens (state : PlannerState) (nodeRefs : List String) : Nat :=
  let total := (nodeRefs.filterMap (nodeByRef state.nodes)).foldl
    (fun sum node => sum + node.artifactTokens) 0
  if nodeRefs ≠ [] ∧ total = 0 then 1 else total

/-- `_work_item_fits_primary_tpm`. -/
def workItemFitsPrimaryTpm (state : PlannerState) (workType : NextWorkItemType)
    (nodeRefs : List String) : Bool :=
  estimatedTaskTokens state nodeRefs ≤ maxBatchTokens workType

/-! `_ComparisonIndex`. -/

/-- `_pair_key`. -/
def pairKey (leftNodeRef rightNodeRef : String) : String × String :=
  if leftNodeRef ≤ rightNodeRef then (leftNodeRef, rightNodeRef) else (rightNodeRef, leftNodeRef)

def latestComparison (comparisons : List ComparisonRow) (leftNodeRef rightNodeRef : String) :
    Option ComparisonRow :=
  comparisons.reverse.find? fun comparison =>
    pairKey comparison.leftNodeRef comparison.rightNodeRef = pairKey leftNodeRef rightNodeRef

def comparisonStatus (comparisons : List ComparisonRow) (leftNodeRef rightNodeRef : String) :
    Option ComparisonStatus :=
  (latestComparison comparisons leftNodeRef rightNodeRef).map ComparisonRow.status

def comparisonResultNodeRef (comparisons : List ComparisonRow)
    (leftNodeRef rightNodeRef : String) : Option String :=
  (latestComparison comparisons leftNodeRef rightNodeRef).bind ComparisonRow.resultNodeRef

/-! `_LineageComparisonIndex`. The dictionary of parents is kept as the map from
a claim to its root: `find` only ever shortens the way there. -/

/-- The loop body of `union_source_refs`: the larger of two roots is hung under
the smaller one. -/
def unionStep (progress : (String → String) × String) (sourceRef : String) :
    (String → String) × String :=
  let (find, root) := progress
  let otherRoot := find sourceRef
  if root = otherRoot then progress
  else
    let newRoot := if root ≤ otherRoot then root else otherRoot
    let oldRoot := if root ≤ otherRoot then otherRoot else root
    (fun ref => if find ref = oldRoot then newRoot else find ref, newRoot)

/-- `union_source_refs`. -/
def unionSourceRefs (find : String → String) (sourceRefs : List String) : String → String :=
  match sorted sourceRefs.eraseDups with
  | [] => find
  | first :: rest => (rest.foldl unionStep (find, find first)).1

/-- `dict.get`. -/
def sourcesOf? (sourcesByNode : List (String × List String)) (nodeRef : String) :
    Option (List String) :=
  (sourcesByNode.find? fun entry => entry.1 = nodeRef).map Prod.snd

structure Lineage where
  rawSourcesByNode : List (String × List String)
  find : String → String

/-- One merged comparison: its claims become one class, and a result that is no
node of the state is known from now on. -/
def Lineage.merge (lineage : Lineage) (comparison : ComparisonRow) : Lineage :=
  if comparison.status ≠ .merged then lineage
  else
    let mergedSources :=
      (sourcesOf? lineage.rawSourcesByNode comparison.leftNodeRef).getD [] ++
        (sourcesOf? lineage.rawSourcesByNode comparison.rightNodeRef).getD []
    { find := unionSourceRefs lineage.find mergedSources
      rawSourcesByNode := match comparison.resultNodeRef with
        | some resultNodeRef =>
          if mergedSources ≠ [] ∧ sourcesOf? lineage.rawSourcesByNode resultNodeRef = none then
            lineage.rawSourcesByNode ++ [(resultNodeRef, mergedSources)]
          else lineage.rawSourcesByNode
        | none => lineage.rawSourcesByNode }

def lineageOf (state : PlannerState) : Lineage :=
  state.comparisons.foldl Lineage.merge
    { rawSourcesByNode := state.nodes.map fun node => (node.nodeRef, node.sourceClaimRefs)
      find := id }

structure LineageComparisonIndex where
  sourceClaimRefsByNodeRef : List (String × List String)
  incompatibleSourcePairs : List (List String × List String)

/-- `_LineageComparisonIndex.from_state`. -/
def LineageComparisonIndex.fromState (state : PlannerState) : LineageComparisonIndex :=
  let lineage := lineageOf state
  let rootsByNode := lineage.rawSourcesByNode.map fun entry =>
    (entry.1, entry.2.map lineage.find)
  { sourceClaimRefsByNodeRef := rootsByNode
    incompatibleSourcePairs :=
      (state.originSeparationEdges.map fun edge => ([edge.originRefA], [edge.originRefB])) ++
        (state.comparisons.filter fun comparison => comparison.status = .notMerged).filterMap
          fun comparison =>
            match sourcesOf? rootsByNode comparison.leftNodeRef,
              sourcesOf? rootsByNode comparison.rightNodeRef with
            | some left, some right => some (left, right)
            | _, _ => none }

/-- `issubset`. -/
def isSubset (first second : List String) : Bool := first.all fun ref => second.contains ref

/-- `can_compare`. -/
def LineageComparisonIndex.canCompare (index : LineageComparisonIndex)
    (comparisons : List ComparisonRow) (leftNodeRef rightNodeRef : String) : Bool :=
  match sourcesOf? index.sourceClaimRefsByNodeRef leftNodeRef,
    sourcesOf? index.sourceClaimRefsByNodeRef rightNodeRef with
  | some leftSources, some rightSources =>
    !(leftSources.any fun ref => rightSources.contains ref) &&
      (comparisonStatus comparisons leftNodeRef rightNodeRef).isNone &&
        !index.incompatibleSourcePairs.any fun known =>
          (isSubset known.1 leftSources && isSubset known.2 rightSources) ||
            (isSubset known.1 rightSources && isSubset known.2 leftSources)
  | _, _ => false

/-! Candidates. -/

/-- `_ordered_active_nodes`. -/
def orderedActiveNodes (state : PlannerState) : List NodeRow :=
  (state.nodes.filter fun node => node.active).insertionSort
    fun first second => first.nodeRef ≤ second.nodeRef

def nodesByKind (nodes : List NodeRow) (kind : NodeKind) : List NodeRow :=
  nodes.filter fun node => node.nodeKind = kind

/-- `_pair_work_type`. -/
def pairWorkType (left right : NodeRow) : NextWorkItemType :=
  match left.nodeKind, right.nodeKind with
  | .raw, .raw => .draftVsDraft
  | .compacted, .compacted => .compactedVsCompacted
  | _, _ => .mixed

/-- `_primary_pair_is_too_large`. -/
def primaryPairIsTooLarge (state : PlannerState) (left right : NodeRow) : Bool :=
  comparisonStatus state.comparisons left.nodeRef right.nodeRef =
      some .tooLargeForPrimaryModel ||
    !workItemFitsPrimaryTpm state (pairWorkType left right) [left.nodeRef, right.nodeRef]

/-- The candidate of `_find_bridge_rewrite` for one pair and one raw node. -/
def bridgeRewriteCandidate (state : PlannerState) (left right raw : NodeRow) :
    Option (String × String) :=
  if comparisonStatus state.comparisons left.nodeRef raw.nodeRef = some .merged ∧
      comparisonStatus state.comparisons right.nodeRef raw.nodeRef = some .merged then
    match comparisonResultNodeRef state.comparisons left.nodeRef raw.nodeRef,
      comparisonResultNodeRef state.comparisons right.nodeRef raw.nodeRef with
    | some leftResult, some rightResult =>
      let pair := pairKey leftResult rightResult
      if (comparisonStatus state.comparisons leftResult rightResult).isNone &&
          workItemFitsPrimaryTpm state .reducedRewrite [pair.1, pair.2] then some pair
      else none
    | _, _ => none
  else none

/-- `_find_bridge_rewrite`. -/
def findBridgeRewrite (state : PlannerState) (activeCompacted activeRaw : List NodeRow) :
    Option (String × String) :=
  ((laterPairs activeCompacted).filter fun pair =>
    primaryPairIsTooLarge state pair.1 pair.2).findSome? fun pair =>
      activeRaw.findSome? fun raw => bridgeRewriteCandidate state pair.1 pair.2 raw

/-- A pair that can be compared and fits the primary model. -/
def comparableCandidate (state : PlannerState) (index : LineageComparisonIndex)
    (workType : NextWorkItemType) (left right : NodeRow) : Option (String × String) :=
  if index.canCompare state.comparisons left.nodeRef right.nodeRef &&
      workItemFitsPrimaryTpm state workType [left.nodeRef, right.nodeRef] then
    some (left.nodeRef, right.nodeRef)
  else none

/-- `_mixed_candidate`. -/
def mixedCandidate (state : PlannerState) (index : LineageComparisonIndex)
    (compacted raw : NodeRow) : Option (String × String) :=
  comparableCandidate state index .mixed compacted raw

/-- `_find_bridge_comparison`. -/
def findBridgeComparison (state : PlannerState) (index : LineageComparisonIndex)
    (activeCompacted activeRaw : List NodeRow) : Option (String × String) :=
  ((laterPairs activeCompacted).filter fun pair =>
    primaryPairIsTooLarge state pair.1 pair.2).findSome? fun pair =>
      activeRaw.findSome? fun raw =>
        mixedCandidate state index pair.1 raw <|> mixedCandidate state index pair.2 raw

/-- `_first_comparable_mixed_pair`. -/
def firstComparableMixedPair (state : PlannerState) (index : LineageComparisonIndex)
    (activeCompacted activeRaw : List NodeRow) : Option (String × String) :=
  activeCompacted.findSome? fun compacted =>
    activeRaw.findSome? fun raw => mixedCandidate state index compacted raw

/-- `_first_comparable_pair`. -/
def firstComparablePair (state : PlannerState) (index : LineageComparisonIndex)
    (workType : NextWorkItemType) (nodes : List NodeRow) : Option (String × String) :=
  (laterPairs nodes).findSome? fun pair => comparableCandidate state index workType pair.1 pair.2

/-- `_first_unresolved_primary_too_large_pair`. -/
def firstUnresolvedPrimaryTooLargePair (state : PlannerState) (activeNodes : List NodeRow) :
    Option (List String × NextWorkItemType) :=
  ((laterPairs activeNodes).find? fun pair => primaryPairIsTooLarge state pair.1 pair.2).map
    fun pair => ([pair.1.nodeRef, pair.2.nodeRef], pairWorkType pair.1 pair.2)

/-- `_first_pair_for_user_choice`. -/
def firstPairForUserChoice (activeNodes : List NodeRow) :
    Option (List String × NextWorkItemType) :=
  (laterPairs activeNodes).head?.map fun pair =>
    ([pair.1.nodeRef, pair.2.nodeRef], pairWorkType pair.1 pair.2)

/-! Decisions. -/

/-- The budget fields of a work item over the given nodes. -/
def budgeted (state : PlannerState) (workType : NextWorkItemType) (item : NextWorkItem) :
    NextWorkItem :=
  let artifactTokens := estimatedTaskTokens state item.nodeRefs
  let promptTokens := promptTokensForWorkType workType
  { item with
    promptTokens := promptTokens
    artifactTokens := artifactTokens
    inputTokens := promptTokens + artifactTokens
    requiredWindowTokens :=
      promptTokens + artifactTokens + artifactTokens + requestSafetyGapTokens }

/-- `_decision` for a pair of nodes. -/
def pairDecision (state : PlannerState) (workType : NextWorkItemType) (reason : String)
    (pair : String × String) : PlannerDecision :=
  { nextWorkItem := budgeted state workType
      { workType := workType, nodeRefs := [pair.1, pair.2] }
    reason := reason }

/-- `_decision` without work. -/
def doneDecision (reason : String) : PlannerDecision :=
  { nextWorkItem := { workType := .done, nodeRefs := [] }, reason := reason }

/-- `_wait_for_user_model_choice`. -/
def waitDecision (state : PlannerState) (reason : String)
    (choice : List String × NextWorkItemType) : PlannerDecision :=
  { nextWorkItem := budgeted state choice.2
      { workType := .waitForUserModelChoice
        nodeRefs := choice.1
        degradedModelId := some degradedDraftClaimCompactionModelId
        userChoiceResumeWorkType := some choice.2 }
    reason := reason }

/-- The ordinary steps, by priority. -/
def planOrdinaryStep (state : PlannerState) : Option PlannerDecision :=
  let activeNodes := orderedActiveNodes state
  let activeCompacted := nodesByKind activeNodes .compacted
  let activeRaw := nodesByKind activeNodes .raw
  let index := LineageComparisonIndex.fromState state
  (findBridgeRewrite state activeCompacted activeRaw).map (pairDecision state .reducedRewrite
      "two bridge comparisons merged after primary too-large pair")
    <|> (firstComparablePair state index .compactedVsCompacted activeCompacted).map
      (pairDecision state .compactedVsCompacted "compacted-vs-compacted has highest priority")
    <|> (findBridgeComparison state index activeCompacted activeRaw).map (pairDecision state .mixed
      "primary too-large compacted pair can be probed through raw node")
    <|> (firstComparableMixedPair state index activeCompacted activeRaw).map
      (pairDecision state .mixed "pending raw node must be compared with compacted node")
    <|> (firstComparablePair state index .draftVsDraft activeRaw).map
      (pairDecision state .draftVsDraft "raw-vs-raw is lowest ordinary comparison priority")

/-- `plan_next_step`. -/
def planNextStep (state : PlannerState) : PlannerDecision :=
  if state.budgetFit = .tooLargeEvenReduced then
    match firstPairForUserChoice (orderedActiveNodes state) with
    | none => doneDecision "no active pair remains for degraded fallback"
    | some choice => waitDecision state
        "ordinary comparison and reduced rewrite exceed primary budget" choice
  else match planOrdinaryStep state with
    | some decision => decision
    | none => match firstUnresolvedPrimaryTooLargePair state (orderedActiveNodes state) with
      | some choice => waitDecision state
          "unresolved comparison is too large for primary model" choice
      | none => doneDecision "all active components are reduced or known incompatible"

/-! What a decision asks for. -/

/-- The pair of a comparison: two different active nodes of the kinds of the
work type, which the lineage lets compare. -/
structure ProposesComparison (state : PlannerState) (item : NextWorkItem) (left right : NodeRow) :
    Prop where
  nodeRefs_eq : item.nodeRefs = [left.nodeRef, right.nodeRef]
  left_mem : left ∈ state.nodes
  right_mem : right ∈ state.nodes
  left_active : left.active = true
  right_active : right.active = true
  workType_eq : item.workType = pairWorkType left right
  canCompare : (LineageComparisonIndex.fromState state).canCompare state.comparisons left.nodeRef
    right.nodeRef = true

theorem mem_orderedActiveNodes {state : PlannerState} {node : NodeRow} :
    node ∈ orderedActiveNodes state ↔ node ∈ state.nodes ∧ node.active = true := by
  unfold orderedActiveNodes
  rw [List.mem_insertionSort, List.mem_filter]

theorem mem_nodesByKind {nodes : List NodeRow} {kind : NodeKind} {node : NodeRow} :
    node ∈ nodesByKind nodes kind ↔ node ∈ nodes ∧ node.nodeKind = kind := by
  unfold nodesByKind
  rw [List.mem_filter, decide_eq_true_eq]

theorem mem_of_mem_laterPairs {α : Type*} {values : List α} {pair : α × α}
    (h : pair ∈ laterPairs values) : pair.1 ∈ values ∧ pair.2 ∈ values := by
  induction values with
  | nil => simp [laterPairs] at h
  | cons first rest ih =>
    simp only [laterPairs, List.mem_append, List.mem_map] at h
    rcases h with ⟨second, hsecond, rfl⟩ | hrest
    · exact ⟨List.mem_cons_self, List.mem_cons_of_mem _ hsecond⟩
    · exact ⟨List.mem_cons_of_mem _ (ih hrest).1, List.mem_cons_of_mem _ (ih hrest).2⟩

theorem comparableCandidate_eq_some {state : PlannerState} {index : LineageComparisonIndex}
    {workType : NextWorkItemType} {left right : NodeRow} {pair : String × String}
    (h : comparableCandidate state index workType left right = some pair) :
    pair = (left.nodeRef, right.nodeRef) ∧
      index.canCompare state.comparisons left.nodeRef right.nodeRef = true := by
  unfold comparableCandidate at h
  split at h
  · next hfits =>
    simp only [Option.some.injEq] at h
    exact ⟨h.symm, (Bool.and_eq_true_iff.mp hfits).1⟩
  · cases h

theorem pairDecision_proposes {state : PlannerState} {workType : NextWorkItemType}
    {reason : String} {left right : NodeRow} (hleft : left ∈ orderedActiveNodes state)
    (hright : right ∈ orderedActiveNodes state) (htype : workType = pairWorkType left right)
    (hcompare : (LineageComparisonIndex.fromState state).canCompare state.comparisons left.nodeRef
      right.nodeRef = true) :
    ProposesComparison state
      (pairDecision state workType reason (left.nodeRef,
        right.nodeRef)).nextWorkItem left right where
  nodeRefs_eq := rfl
  left_mem := (mem_orderedActiveNodes.mp hleft).1
  right_mem := (mem_orderedActiveNodes.mp hright).1
  left_active := (mem_orderedActiveNodes.mp hleft).2
  right_active := (mem_orderedActiveNodes.mp hright).2
  workType_eq := htype
  canCompare := hcompare

variable {state : PlannerState} {pair : String × String}

/-- Two nodes of one kind have the work type of that kind. -/
theorem firstComparablePair_proposes {workType : NextWorkItemType} {reason : String}
    {kind : NodeKind}
    (htype : ∀ left right : NodeRow, left.nodeKind = kind → right.nodeKind = kind →
      workType = pairWorkType left right)
    (h : firstComparablePair state (LineageComparisonIndex.fromState state) workType
      (nodesByKind (orderedActiveNodes state) kind) = some pair) :
    ∃ left right, ProposesComparison state (pairDecision state workType reason pair).nextWorkItem
      left right := by
  obtain ⟨nodes, hnodes, hcandidate⟩ := List.exists_of_findSome?_eq_some h
  obtain ⟨rfl, hcompare⟩ := comparableCandidate_eq_some hcandidate
  have hmem := mem_of_mem_laterPairs hnodes
  have hleft := mem_nodesByKind.mp hmem.1
  have hright := mem_nodesByKind.mp hmem.2
  exact ⟨_, _, pairDecision_proposes hleft.1 hright.1 (htype _ _ hleft.2 hright.2) hcompare⟩

theorem mixedCandidate_proposes {reason : String} {compacted raw : NodeRow}
    (hcompacted : compacted ∈ nodesByKind (orderedActiveNodes state) .compacted)
    (hraw : raw ∈ nodesByKind (orderedActiveNodes state) .raw)
    (h : mixedCandidate state (LineageComparisonIndex.fromState state) compacted raw = some pair) :
    ∃ left right, ProposesComparison state (pairDecision state .mixed reason pair).nextWorkItem
      left right := by
  obtain ⟨rfl, hcompare⟩ := comparableCandidate_eq_some h
  have hleft := mem_nodesByKind.mp hcompacted
  have hright := mem_nodesByKind.mp hraw
  refine ⟨_, _, pairDecision_proposes hleft.1 hright.1 ?_ hcompare⟩
  simp [pairWorkType, hleft.2, hright.2]

/-- What a bridge rewrite was found by: two active compacted nodes whose latest
comparisons with one active raw node merged them. -/
theorem findBridgeRewrite_eq_some {activeCompacted activeRaw : List NodeRow}
    (h : findBridgeRewrite state activeCompacted activeRaw = some pair) :
    ∃ left ∈ activeCompacted, ∃ raw ∈ activeRaw,
      comparisonStatus state.comparisons left.nodeRef raw.nodeRef = some .merged := by
  obtain ⟨nodes, hnodes, hraws⟩ := List.exists_of_findSome?_eq_some h
  obtain ⟨raw, hraw, hcandidate⟩ := List.exists_of_findSome?_eq_some hraws
  unfold bridgeRewriteCandidate at hcandidate
  split at hcandidate
  · next hmerged =>
    exact ⟨nodes.1, (mem_of_mem_laterPairs (List.mem_of_mem_filter hnodes)).1, raw, hraw,
      hmerged.1⟩
  · cases hcandidate

/-- An ordinary step is a rewrite that a bridge led to, or compares two nodes. -/
theorem planOrdinaryStep_eq_some {decision : PlannerDecision}
    (h : planOrdinaryStep state = some decision) :
    (decision.nextWorkItem.workType = .reducedRewrite ∧
      ∃ left ∈ orderedActiveNodes state, ∃ raw ∈ orderedActiveNodes state,
        comparisonStatus state.comparisons left.nodeRef raw.nodeRef = some .merged) ∨
    ∃ left right, ProposesComparison state decision.nextWorkItem left right := by
  simp only [planOrdinaryStep, Option.orElse_eq_some, Option.map_eq_some_iff] at h
  rcases h with ⟨pair, hrewrite, rfl⟩ | ⟨_, h⟩
  · obtain ⟨left, hleft, raw, hraw, hstatus⟩ := findBridgeRewrite_eq_some hrewrite
    exact .inl ⟨rfl, left, (mem_nodesByKind.mp hleft).1, raw, (mem_nodesByKind.mp hraw).1, hstatus⟩
  right
  rcases h with ⟨pair, hcompacted, rfl⟩ | ⟨_, h⟩
  · exact firstComparablePair_proposes (fun _ _ hleft hright => by
      simp [pairWorkType, hleft, hright]) hcompacted
  rcases h with ⟨pair, hbridge, rfl⟩ | ⟨_, h⟩
  · obtain ⟨nodes, hnodes, hraws⟩ := List.exists_of_findSome?_eq_some hbridge
    obtain ⟨raw, hraw, hcandidate⟩ := List.exists_of_findSome?_eq_some hraws
    have hmem := mem_of_mem_laterPairs (List.mem_of_mem_filter hnodes)
    rw [Option.orElse_eq_some] at hcandidate
    rcases hcandidate with hfirst | ⟨_, hsecond⟩
    · exact mixedCandidate_proposes hmem.1 hraw hfirst
    · exact mixedCandidate_proposes hmem.2 hraw hsecond
  rcases h with ⟨pair, hmixed, rfl⟩ | ⟨_, pair, hdraft, rfl⟩
  · obtain ⟨compacted, hcompacted, hraws⟩ := List.exists_of_findSome?_eq_some hmixed
    obtain ⟨raw, hraw, hcandidate⟩ := List.exists_of_findSome?_eq_some hraws
    exact mixedCandidate_proposes hcompacted hraw hcandidate
  · exact firstComparablePair_proposes (fun _ _ hleft hright => by
      simp [pairWorkType, hleft, hright]) hdraft

/-- A decision ends the loop, or asks for a rewrite, or compares two nodes. -/
theorem planNextStep_cases (state : PlannerState) :
    (planNextStep state).nextWorkItem.workType = .done ∨
    (planNextStep state).nextWorkItem.workType = .waitForUserModelChoice ∨
    ((planNextStep state).nextWorkItem.workType = .reducedRewrite ∧
      ∃ left ∈ orderedActiveNodes state, ∃ raw ∈ orderedActiveNodes state,
        comparisonStatus state.comparisons left.nodeRef raw.nodeRef = some .merged) ∨
    ∃ left right, ProposesComparison state (planNextStep state).nextWorkItem left right := by
  unfold planNextStep
  split
  · split
    · exact .inl rfl
    · exact .inr (.inl rfl)
  · split
    · next decision hdecision => exact .inr (.inr (planOrdinaryStep_eq_some hdecision))
    · split
      · exact .inr (.inl rfl)
      · exact .inl rfl

end CrmBot.Compaction
