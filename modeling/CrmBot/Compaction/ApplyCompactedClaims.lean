import CrmBot.Compaction.ReductionState
import CrmBot.Library.Fold

/-! `apply_compacted_claims_result`: one compaction result applied to the state.

The output claims are processed one after the other: insert the node, insert
its sources, deactivate the matched source nodes, merge the components, record
the merged comparisons. After the last claim every pair of outputs is recorded
as not merged. An exception or a constraint rolls all of it back. -/

namespace CrmBot.Compaction

open Relational CrmBot.Python FailingFold

/-- The arguments of one `COMPACTED_CLAIMS` application. -/
structure ApplyCompactedClaims where
  group : GroupKey
  batchRef : String
  workItemId : String
  roundIndex : Nat
  compactedClaims : List OutputClaim
  comparedNodeRefs : List String
  createdAt : Int

structure ApplyCounts where
  insertedNodes : Nat := 0
  insertedSources : Nat := 0
  insertedComparisons : Nat := 0
  supersededNodes : Nat := 0
  requestedSources : Nat := 0
  requestedComparisons : Nat := 0
  deriving DecidableEq, Repr

/-- `DraftClaimCompactionApplyPersistenceResult`. -/
structure ApplyPersistenceResult where
  insertedNodeCount : Nat
  updatedNodeCount : Nat
  insertedSourceCount : Nat
  insertedComparisonCount : Nat
  supersededNodeCount : Nat
  alreadyExistsCount : Int
  deriving DecidableEq, Repr

/-- `_node_ref_pairs`. -/
def nodeRefPairs (nodeRefs : List String) : List (String × String) :=
  laterPairs (sorted nodeRefs)

/-- `_source_claim_refs_by_node_ref`: the loaded rows have distinct references,
so the dictionary is the list of its items. -/
def sourceClaimRefsByNodeRef (nodes : List NodeRow) : List (String × List String) :=
  nodes.map fun node => (node.nodeRef, sorted node.sourceClaimRefs)

/-- `_matched_source_node_refs_for_claim`: the compared nodes that lie wholly
inside the claim, or the raw nodes of the claim when there is none. -/
def matchedSourceNodeRefsForClaim (claimSourceClaimRefs : List String)
    (comparedSourceSets : List (String × List String)) (fallbackRawNodeRefs : List String) :
    List String :=
  let matchedRefs := ((comparedSourceSets.insertionSort fun first second =>
    first.1 ≤ second.1).filter
    fun item => item.2.all fun ref => claimSourceClaimRefs.contains ref).map Prod.fst
  if matchedRefs = [] then fallbackRawNodeRefs else matchedRefs

/-- `_cross_origin_pairs_for_output_partitions`. -/
def crossOriginPairsForOutputPartitions (outputOriginSets : List (List String))
    (leftOutputRef rightOutputRef : String) (outputNodeRefs : List String) :
    List (String × String) :=
  match outputNodeRefs.idxOf? leftOutputRef, outputNodeRefs.idxOf? rightOutputRef with
  | some leftIndex, some rightIndex =>
    ((outputOriginSets.getD leftIndex []).flatMap fun leftOrigin =>
      ((outputOriginSets.getD rightIndex []).filter fun rightOrigin =>
        leftOrigin != rightOrigin).map
        fun rightOrigin =>
          if leftOrigin ≤ rightOrigin then (leftOrigin, rightOrigin)
          else (rightOrigin, leftOrigin)).eraseDups
  | _, _ => []

def loadComparedNodesForApply (nodes : Table NodeRow.nodeRef) (group : GroupKey)
    (comparedNodeRefs : List String) : List NodeRow :=
  if comparedNodeRefs = [] then [] else loadNodesByRef nodes group comparedNodeRefs

/-- The row written for one output claim. -/
def compactedNodeRow (env : CompactionEnv) (command : ApplyCompactedClaims) (claim : OutputClaim)
    (sourceNodeRefs : List String) : NodeRow :=
  { nodeRef := compactedClaimNodeRef env command.group claim.sourceClaimRefs
    group := command.group
    nodeKind := .compacted
    active := true
    sourceClaimRefs := claim.sourceClaimRefs
    supersedesNodeRefs := sourceNodeRefs
    artifactTokens := env.estimatedCompactedClaimTokens claim
    compacted := some claim
    createdAt := command.createdAt
    updatedAt := command.createdAt }

def claimSourceNodeRefs (command : ApplyCompactedClaims)
    (comparedSourceSets : List (String × List String)) (claim : OutputClaim) : List String :=
  matchedSourceNodeRefsForClaim claim.sourceClaimRefs comparedSourceSets
    (claim.sourceClaimRefs.map (rawClaimNodeRef command.group))

/-- The loop body for one output claim. -/
def applyCompactedClaim (env : CompactionEnv) (command : ApplyCompactedClaims)
    (comparedSourceSets : List (String × List String))
    (progress : ApplyCounts × ReductionState) (claim : OutputClaim) :
    Except Fault (ApplyCounts × ReductionState) := do
  let (counts, state) := progress
  let nodeRef := compactedClaimNodeRef env command.group claim.sourceClaimRefs
  let sourceNodeRefs := claimSourceNodeRefs command comparedSourceSets claim
  let inserted := state.nodes.insertOrIgnore (compactedNodeRow env command claim sourceNodeRefs)
  let sourceRows := claim.sourceClaimRefs.map fun sourceRef =>
    ({ nodeRef := nodeRef, sourceRef := sourceRef, sourceKind := .raw
       createdAt := command.createdAt } : NodeSourceRow)
  let superseded := inserted.countWhere fun row =>
    sourceNodeRefs.contains row.nodeRef && row.active
  let merged ← upsertMergedComponent
    { state with
      nodes := deactivateNodes inserted sourceNodeRefs command.createdAt
      nodeSources := sourceRows.foldl Table.insertOrIgnore state.nodeSources }
    command.group nodeRef sourceNodeRefs claim.sourceClaimRefs command.createdAt
  let pairs := nodeRefPairs sourceNodeRefs
  let (insertedComparisons, compared) ← pairs.foldlM
    (fun (count, current) pair => do
      let (inserted, next) ← insertMergedComparison current command.group command.roundIndex
        pair.1 pair.2 nodeRef command.createdAt
      pure (if inserted then count + 1 else count, next))
    ((0 : Nat), merged)
  pure
    ({ insertedNodes := counts.insertedNodes + if nodeRef ∈ state.nodes.keys then 0 else 1
       insertedSources := counts.insertedSources +
        (sourceRows.filter fun row => row.key ∉ state.nodeSources.keys).length
       insertedComparisons := counts.insertedComparisons + insertedComparisons
       supersededNodes := counts.supersededNodes + superseded
       requestedSources := counts.requestedSources + claim.sourceClaimRefs.length
       requestedComparisons := counts.requestedComparisons + pairs.length },
     compared)

/-- The loop body for one pair of outputs: not merged, and every origin of the
one separated from every origin of the other. -/
def separateOutputPair (command : ApplyCompactedClaims) (outputNodeRefs : List String)
    (progress : ApplyCounts × ReductionState) (pair : String × String) :
    Except Fault (ApplyCounts × ReductionState) := do
  let (counts, state) := progress
  let (left, right) ← orderedPair pair.1 pair.2
  let sourceComparisonRef := comparisonRef command.group command.roundIndex left right
  let (inserted, compared) ← insertNotMergedComparison state command.group command.roundIndex
    pair.1 pair.2 command.createdAt
  let separated ← (crossOriginPairsForOutputPartitions
      (command.compactedClaims.map OutputClaim.sourceClaimRefs) pair.1 pair.2
      outputNodeRefs).foldlM
    (fun current origins => do
      let (_, next) ← insertOriginSeparationEdge current command.group origins.1 origins.2
        (some command.batchRef) (some command.workItemId) none (some sourceComparisonRef)
        command.createdAt
      pure next)
    compared
  pure
    ({ counts with
       insertedComparisons := counts.insertedComparisons + if inserted then 1 else 0
       requestedComparisons := counts.requestedComparisons + 1 },
     separated)

def applyCompactedClaimsResult (env : CompactionEnv) (state : ReductionState)
    (command : ApplyCompactedClaims) : Except Fault (ApplyPersistenceResult × ReductionState) := do
  let comparedNodes := loadComparedNodesForApply state.nodes command.group command.comparedNodeRefs
  let comparedSourceSets := sourceClaimRefsByNodeRef comparedNodes
  let applied ← command.compactedClaims.foldlM (applyCompactedClaim env command comparedSourceSets)
    ({}, state)
  let outputNodeRefs := command.compactedClaims.map fun claim =>
    compactedClaimNodeRef env command.group claim.sourceClaimRefs
  let (counts, final) ← (nodeRefPairs outputNodeRefs).foldlM
    (separateOutputPair command outputNodeRefs) applied
  let requestedTotal : Int :=
    command.compactedClaims.length + counts.requestedSources + counts.requestedComparisons
  let insertedTotal : Int :=
    counts.insertedNodes + counts.insertedSources + counts.insertedComparisons
  pure
    ({ insertedNodeCount := counts.insertedNodes
       updatedNodeCount := counts.supersededNodes
       insertedSourceCount := counts.insertedSources
       insertedComparisonCount := counts.insertedComparisons
       supersededNodeCount := counts.supersededNodes
       alreadyExistsCount := requestedTotal - insertedTotal },
     final)

end CrmBot.Compaction
