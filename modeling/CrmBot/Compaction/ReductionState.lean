import CrmBot.Library.Table
import CrmBot.Python.Builtins

/-! The reduction state of draft-claim compaction and its statements.

One `ReductionState` holds the six compaction tables of all groups of all
workflows. Every statement of the repository is one definition here, with the
conflict target it names and the foreign keys the migrations declare. The
SHA-256 digest of a text and the token estimate of a serialized claim enter as
functions of `CompactionEnv`; no result depends on which functions they are. -/

namespace CrmBot.Compaction

open Relational CrmBot.Python

inductive NodeKind
  | raw
  | compacted
  deriving DecidableEq, Repr

inductive ComparisonStatus
  | pending
  | merged
  | notMerged
  | tooLargeForPrimaryModel
  | waitingUserModelChoice
  | superseded
  deriving DecidableEq, Repr

inductive ClaimKind
  | definition | property | capability | limitation | rule | condition | process
  | list | comparison | criterion | exampleSet | value | exception | other
  deriving DecidableEq, Repr

inductive Granularity
  | atomic
  | composite
  deriving DecidableEq, Repr

inductive MergeDecision
  | merged
  | unmerged
  deriving DecidableEq, Repr

structure Triple where
  subject : String
  predicate : String
  object : String
  qualifiers : List String
  deriving DecidableEq, Repr

/-- A compaction group of one workflow. The command constructors refuse blank
ids, so the text checks of the reference builders never fire. -/
structure GroupKey where
  workflowRunId : String
  groupRef : String
  workflowRunId_text : isBlank workflowRunId = false
  groupRef_text : isBlank groupRef = false
  deriving DecidableEq

/-- `EnrichedDraftClaimCompactionOutputClaim`: one claim of a compaction
result. Its constructor requires non-empty unique source references. -/
structure OutputClaim where
  key : String
  claim : String
  claimKind : ClaimKind
  granularity : Granularity
  sourceClaimRefs : List String
  triples : List Triple
  mergeDecision : MergeDecision
  possibleQuestions : List String
  exclusionScope : String
  evidenceBlock : String
  sourceClaimRefs_ne_nil : sourceClaimRefs ≠ []
  sourceClaimRefs_nodup : sourceClaimRefs.Nodup
  sourceClaimRefs_text : ∀ ref ∈ sourceClaimRefs, isBlank ref = false
  deriving DecidableEq

/-- The digest and the token estimate the repository calls. -/
structure CompactionEnv where
  sha256Hexdigest : String → String
  estimatedCompactedClaimTokens : OutputClaim → Nat

/-! References -/

def rawClaimNodeRef (group : GroupKey) (observationRef : String) : String :=
  "raw:" ++ (group.workflowRunId ++ (":" ++ (group.groupRef ++ (":" ++ observationRef))))

def compactedClaimNodeRef (env : CompactionEnv) (group : GroupKey)
    (sourceClaimRefs : List String) : String :=
  let refs := sorted sourceClaimRefs.eraseDups
  let digest := env.sha256Hexdigest
    (group.workflowRunId ++ ":" ++ group.groupRef ++ ":" ++ ":".intercalate refs)
  "compacted:" ++ (group.workflowRunId ++ (":" ++ (group.groupRef ++ (":" ++ digest))))

/-- `ordered_pair`. Node references are never blank, so only equal references
are refused. -/
def orderedPair (leftNodeRef rightNodeRef : String) : Except Fault (String × String) :=
  if leftNodeRef = rightNodeRef then
    .error (.valueError "comparison node refs must be different")
  else if leftNodeRef ≤ rightNodeRef then .ok (leftNodeRef, rightNodeRef)
  else .ok (rightNodeRef, leftNodeRef)

def comparisonRef (group : GroupKey) (roundIndex : Nat) (left right : String) : String :=
  "comparison:" ++ group.workflowRunId ++ ":" ++ group.groupRef ++ ":" ++ toString roundIndex ++
    ":" ++ left ++ ":" ++ right

def componentRefForNode (nodeRef : String) : String :=
  "component:" ++ nodeRef

def componentIncompatibilityRef (group : GroupKey) (left right : String) : String :=
  "component-incompatibility:" ++ group.workflowRunId ++ ":" ++ group.groupRef ++ ":" ++ left ++
    ":" ++ right

def originSeparationRef (group : GroupKey) (left right : String) : String :=
  "origin-separation:" ++ group.workflowRunId ++ ":" ++ group.groupRef ++ ":" ++ left ++ ":" ++
    right

/-- The two kinds of node reference never coincide, whatever the digest. -/
theorem compactedClaimNodeRef_ne_raw (env : CompactionEnv) (group rawGroup : GroupKey)
    (sourceClaimRefs : List String) (observationRef : String) :
    compactedClaimNodeRef env group sourceClaimRefs ≠ rawClaimNodeRef rawGroup observationRef := by
  intro h
  have hchars := congrArg String.toList h
  simp [compactedClaimNodeRef, rawClaimNodeRef, String.toList_append] at hchars

/-- Inside one group a raw node reference names one claim. -/
theorem rawClaimNodeRef_injective (group : GroupKey) :
    Function.Injective (rawClaimNodeRef group) := by
  intro first second h
  have hchars := congrArg String.toList h
  simp only [rawClaimNodeRef, String.toList_append, List.append_cancel_left_eq] at hchars
  exact String.toList_inj.mp hchars

/-! Tables -/

structure NodeRow where
  nodeRef : String
  group : GroupKey
  nodeKind : NodeKind
  active : Bool
  sourceClaimRefs : List String
  supersedesNodeRefs : List String
  artifactTokens : Nat
  compacted : Option OutputClaim
  createdAt : Int
  updatedAt : Int
  deriving DecidableEq

structure NodeSourceRow where
  nodeRef : String
  sourceRef : String
  sourceKind : NodeKind
  createdAt : Int
  deriving DecidableEq

instance nodeSourceKey_lawful : LawfulBEq (String × String) := inferInstance

def NodeSourceRow.key (row : NodeSourceRow) : String × String := (row.nodeRef, row.sourceRef)

structure ComparisonRow where
  comparisonRef : String
  group : GroupKey
  leftNodeRef : String
  rightNodeRef : String
  status : ComparisonStatus
  resultNodeRef : Option String
  roundIndex : Nat
  createdAt : Int
  updatedAt : Int
  deriving DecidableEq

structure ComponentRow where
  componentRef : String
  group : GroupKey
  representativeNodeRef : String
  active : Bool
  sourceClaimRefs : List String
  supersedesComponentRefs : List String
  createdAt : Int
  updatedAt : Int
  deriving DecidableEq

structure IncompatibilityRow where
  incompatibilityRef : String
  group : GroupKey
  leftComponentRef : String
  rightComponentRef : String
  sourceComparisonRef : Option String
  createdAt : Int
  deriving DecidableEq

structure SeparationEdgeRow where
  separationRef : String
  group : GroupKey
  originRefA : String
  originRefB : String
  establishedByBatchRef : Option String
  establishedByWorkItemId : Option String
  establishedByDispatchAttemptId : Option String
  sourceComparisonRef : Option String
  establishedAt : Int
  deriving DecidableEq

structure ReductionState where
  nodes : Table NodeRow.nodeRef
  nodeSources : Table NodeSourceRow.key
  comparisons : Table ComparisonRow.comparisonRef
  components : Table ComponentRow.componentRef
  incompatibilities : Table IncompatibilityRow.incompatibilityRef
  separationEdges : Table SeparationEdgeRow.separationRef

/-! Statements -/

/-- `_load_nodes_by_ref`: the rows of the group among the given references. -/
def loadNodesByRef (nodes : Table NodeRow.nodeRef) (group : GroupKey)
    (nodeRefs : List String) : List NodeRow :=
  (nodes.rows.filter fun row => row.group = group && nodeRefs.contains row.nodeRef).insertionSort
    fun first second => first.nodeRef ≤ second.nodeRef

/-- `UPDATE … SET active = false … WHERE node_ref = ANY(…) AND active = true`.
The statement names no group. -/
def deactivateNodes (nodes : Table NodeRow.nodeRef) (nodeRefs : List String) (now : Int) :
    Table NodeRow.nodeRef :=
  nodes.updateWhere (fun row => nodeRefs.contains row.nodeRef && row.active)
    (fun row => { row with active := false, updatedAt := now }) fun _ => rfl

/-- An insert with `ON CONFLICT (workflow, group, left, right, round) DO
NOTHING`. The flag says whether a row was written. -/
def insertComparison (state : ReductionState) (row : ComparisonRow) :
    Except Fault (Bool × ReductionState) :=
  if state.comparisons.rows.any fun old =>
      old.group = row.group && old.leftNodeRef = row.leftNodeRef &&
        old.rightNodeRef = row.rightNodeRef && old.roundIndex = row.roundIndex then
    .ok (false, state)
  else if row.comparisonRef ∈ state.comparisons.keys then
    .error (.uniqueViolation "draft_claim_compaction_comparisons_pkey")
  else if row.leftNodeRef ∉ state.nodes.keys ∨ row.rightNodeRef ∉ state.nodes.keys ∨
      ∃ result ∈ row.resultNodeRef, result ∉ state.nodes.keys then
    .error (.foreignKeyViolation "draft_claim_compaction_comparisons")
  else .ok (true, { state with comparisons := state.comparisons.insertOrIgnore row })

def insertMergedComparison (state : ReductionState) (group : GroupKey) (roundIndex : Nat)
    (leftNodeRef rightNodeRef resultNodeRef : String) (createdAt : Int) :
    Except Fault (Bool × ReductionState) := do
  let (left, right) ← orderedPair leftNodeRef rightNodeRef
  insertComparison state
    { comparisonRef := comparisonRef group roundIndex left right
      group := group
      leftNodeRef := left
      rightNodeRef := right
      status := .merged
      resultNodeRef := some resultNodeRef
      roundIndex := roundIndex
      createdAt := createdAt
      updatedAt := createdAt }

def insertNotMergedComparison (state : ReductionState) (group : GroupKey) (roundIndex : Nat)
    (leftNodeRef rightNodeRef : String) (createdAt : Int) :
    Except Fault (Bool × ReductionState) := do
  let (left, right) ← orderedPair leftNodeRef rightNodeRef
  insertComparison state
    { comparisonRef := comparisonRef group roundIndex left right
      group := group
      leftNodeRef := left
      rightNodeRef := right
      status := .notMerged
      resultNodeRef := none
      roundIndex := roundIndex
      createdAt := createdAt
      updatedAt := createdAt }

def insertOriginSeparationEdge (state : ReductionState) (group : GroupKey)
    (originRefA originRefB : String) (establishedByBatchRef establishedByWorkItemId
      establishedByDispatchAttemptId sourceComparisonRef : Option String)
    (establishedAt : Int) : Except Fault (Bool × ReductionState) := do
  let (left, right) ← orderedPair originRefA originRefB
  let row : SeparationEdgeRow :=
    { separationRef := originSeparationRef group left right
      group := group
      originRefA := left
      originRefB := right
      establishedByBatchRef := establishedByBatchRef
      establishedByWorkItemId := establishedByWorkItemId
      establishedByDispatchAttemptId := establishedByDispatchAttemptId
      sourceComparisonRef := sourceComparisonRef
      establishedAt := establishedAt }
  if state.separationEdges.rows.any fun old =>
      old.group = group && old.originRefA = left && old.originRefB = right then
    .ok (false, state)
  else if row.separationRef ∈ state.separationEdges.keys then
    .error (.uniqueViolation "draft_claim_compaction_origin_separation_edges_pkey")
  else if ∃ source ∈ sourceComparisonRef, source ∉ state.comparisons.keys then
    .error (.foreignKeyViolation "draft_claim_compaction_origin_separation_edges")
  else .ok (true, { state with separationEdges := state.separationEdges.insertOrIgnore row })

/-- `ORDER BY updated_at DESC, component_ref`. -/
def ComponentRow.before (first second : ComponentRow) : Prop :=
  second.updatedAt < first.updatedAt ∨
    (first.updatedAt = second.updatedAt ∧ first.componentRef ≤ second.componentRef)

instance : DecidableRel ComponentRow.before := fun _ _ => inferInstanceAs (Decidable (_ ∨ _))

def activeComponentRefForNode (state : ReductionState) (group : GroupKey) (nodeRef : String) :
    String :=
  let rows := state.components.rows.filter fun row =>
    row.group = group && row.representativeNodeRef = nodeRef && row.active
  match (rows.insertionSort ComponentRow.before).head? with
  | none => componentRefForNode nodeRef
  | some row => row.componentRef

def activeComponentRefsForNodes (state : ReductionState) (group : GroupKey)
    (nodeRefs : List String) : List String :=
  sorted (nodeRefs.map (activeComponentRefForNode state group)).eraseDups

/-- The components that are incompatible with one of the given components and
are not among them. -/
def inheritedIncompatibleComponentRefs (state : ReductionState) (group : GroupKey)
    (componentRefs : List String) : List String :=
  let inherited := (state.incompatibilities.rows.filter fun row => row.group = group).flatMap
    fun row =>
      let left := componentRefs.contains row.leftComponentRef
      let right := componentRefs.contains row.rightComponentRef
      (if left && !right then [row.rightComponentRef] else []) ++
        if right && !left then [row.leftComponentRef] else []
  sorted inherited.eraseDups

def insertComponentIncompatibility (state : ReductionState) (group : GroupKey)
    (leftComponentRef rightComponentRef : String) (sourceComparisonRef : Option String)
    (createdAt : Int) : Except Fault ReductionState :=
  if leftComponentRef = rightComponentRef then .ok state
  else do
    let (left, right) ← orderedPair leftComponentRef rightComponentRef
    let row : IncompatibilityRow :=
      { incompatibilityRef := componentIncompatibilityRef group left right
        group := group
        leftComponentRef := left
        rightComponentRef := right
        sourceComparisonRef := sourceComparisonRef
        createdAt := createdAt }
    if state.incompatibilities.rows.any fun old =>
        old.group = group && old.leftComponentRef = left && old.rightComponentRef = right then
      .ok state
    else if row.incompatibilityRef ∈ state.incompatibilities.keys then
      .error (.uniqueViolation "draft_claim_compaction_component_incompatibilities_pkey")
    else if left ∉ state.components.keys ∨ right ∉ state.components.keys then
      .error (.foreignKeyViolation "draft_claim_compaction_component_incompatibilities")
    else
      .ok { state with incompatibilities := state.incompatibilities.insertOrIgnore row }

/-- `INSERT … ON CONFLICT (component_ref) DO UPDATE`: a conflicting row keeps
its group and its creation time. -/
def upsertComponent (components : Table ComponentRow.componentRef) (row : ComponentRow) :
    Table ComponentRow.componentRef :=
  if row.componentRef ∈ components.keys then
    components.updateWhere (fun old => old.componentRef = row.componentRef)
      (fun old =>
        { old with
          active := row.active
          representativeNodeRef := row.representativeNodeRef
          sourceClaimRefs := row.sourceClaimRefs
          supersedesComponentRefs := row.supersedesComponentRefs
          updatedAt := row.updatedAt })
      fun _ => rfl
  else components.insertOrIgnore row

def upsertMergedComponent (state : ReductionState) (group : GroupKey) (resultNodeRef : String)
    (sourceNodeRefs sourceClaimRefs : List String) (createdAt : Int) :
    Except Fault ReductionState := do
  let sourceComponentRefs := activeComponentRefsForNodes state group sourceNodeRefs
  let resultComponentRef := componentRefForNode resultNodeRef
  let inheritedRefs := inheritedIncompatibleComponentRefs state group sourceComponentRefs
  let closed := state.components.updateWhere
    (fun row => row.group = group && sourceComponentRefs.contains row.componentRef && row.active)
    (fun row => { row with active := false, updatedAt := createdAt }) fun _ => rfl
  if resultNodeRef ∉ state.nodes.keys then
    .error (.foreignKeyViolation "draft_claim_compaction_components")
  else
    let merged := upsertComponent closed
      { componentRef := resultComponentRef
        group := group
        representativeNodeRef := resultNodeRef
        active := true
        sourceClaimRefs := sourceClaimRefs
        supersedesComponentRefs := sourceComponentRefs
        createdAt := createdAt
        updatedAt := createdAt }
    (inheritedRefs.filter fun ref => !sourceComponentRefs.contains ref).foldlM
      (fun current inheritedRef =>
        insertComponentIncompatibility current group resultComponentRef inheritedRef none createdAt)
      { state with components := merged }

end CrmBot.Compaction
