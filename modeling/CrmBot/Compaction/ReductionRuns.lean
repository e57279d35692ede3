import CrmBot.Compaction.NodeTable
import CrmBot.Compaction.OutputContract
import CrmBot.Library.Runs
import CrmBot.Python.Text

/-! The three writers of the reduction state: seeding a group with raw nodes,
applying compacted claims, and applying a reduced rewrite. -/

namespace CrmBot.Compaction

open Relational CrmBot.Python FailingFold

/-! Seeding. -/

/-- What the clustering handler knows of a claim of a group. -/
structure RawNodeSeed where
  observationRef : String
  artifactTokens : Nat
  deriving DecidableEq

/-- The row of `build_initial_raw_node`. -/
def initialRawNode (group : GroupKey) (createdAt : Int) (seed : RawNodeSeed) : NodeRow :=
  { nodeRef := rawClaimNodeRef group seed.observationRef
    group := group
    nodeKind := .raw
    active := true
    sourceClaimRefs := [seed.observationRef]
    supersedesNodeRefs := []
    artifactTokens := seed.artifactTokens
    compacted := none
    createdAt := createdAt
    updatedAt := createdAt }

def initialNodeSource (group : GroupKey) (createdAt : Int) (seed : RawNodeSeed) : NodeSourceRow :=
  { nodeRef := rawClaimNodeRef group seed.observationRef
    sourceRef := seed.observationRef
    sourceKind := .raw
    createdAt := createdAt }

/-- The row of `_upsert_initial_component`. -/
def initialComponent (group : GroupKey) (createdAt : Int) (seed : RawNodeSeed) : ComponentRow :=
  { componentRef := componentRefForNode (rawClaimNodeRef group seed.observationRef)
    group := group
    representativeNodeRef := rawClaimNodeRef group seed.observationRef
    active := true
    sourceClaimRefs := [seed.observationRef]
    supersedesComponentRefs := []
    createdAt := createdAt
    updatedAt := createdAt }

/-- `DraftClaimCompactionReductionStatePersistenceResult` of a seeding; it asks
for no comparisons. -/
structure SeedPersistenceResult where
  requestedNodeCount : Nat
  insertedNodeCount : Nat
  requestedSourceCount : Nat
  insertedSourceCount : Nat
  alreadyExistsCount : Int
  deriving DecidableEq, Repr

/-- The loop body: the node, its source and its component, each unless it is
there. -/
def seedRawNode (group : GroupKey) (createdAt : Int)
    (progress : (Nat × Nat) × ReductionState) (seed : RawNodeSeed) :
    (Nat × Nat) × ReductionState :=
  let ((insertedNodes, insertedSources), state) := progress
  let node := initialRawNode group createdAt seed
  let source := initialNodeSource group createdAt seed
  ((insertedNodes + if node.nodeRef ∈ state.nodes.keys then 0 else 1,
    insertedSources + if source.key ∈ state.nodeSources.keys then 0 else 1),
   { state with
     nodes := state.nodes.insertOrIgnore node
     nodeSources := state.nodeSources.insertOrIgnore source
     components := state.components.insertOrIgnore (initialComponent group createdAt seed) })

/-- `seed_initial_planner_state` of the raw nodes of a group. -/
def seedInitialPlannerState (state : ReductionState) (group : GroupKey) (seeds : List RawNodeSeed)
    (createdAt : Int) : SeedPersistenceResult × ReductionState :=
  let ((insertedNodes, insertedSources), seeded) :=
    seeds.foldl (seedRawNode group createdAt) ((0, 0), state)
  ({ requestedNodeCount := seeds.length
     insertedNodeCount := insertedNodes
     requestedSourceCount := seeds.length
     insertedSourceCount := insertedSources
     alreadyExistsCount := (seeds.length + seeds.length : Int) -
       (insertedNodes + insertedSources) },
   seeded)

/-! Reduced rewrites. -/

/-- The arguments of one `REDUCED_REWRITE` application. -/
structure ApplyReducedRewrite where
  group : GroupKey
  batchRef : String
  workItemId : String
  roundIndex : Nat
  sourceNodeRefs : List String
  rewrite : DraftClaimReducedRewriteOutput
  createdAt : Int

/-- `_dedupe_preserving_order` of the repository. -/
def dedupePreservingOrder (values : List String) : List String :=
  ((values.map strip).filter fun stripped => stripped ≠ "").eraseDups

/-- `_node_payload`. -/
def nodePayload (node : NodeRow) : Except Fault OutputClaim :=
  match node.compacted with
  | none => .error (.valueError "source compacted nodes lack compacted_payload")
  | some claim => .ok claim

/-- The questions of `_payload_text_tuple`. -/
def payloadQuestions (claim : OutputClaim) : Except Fault (List String) :=
  if claim.possibleQuestions.any isBlank then
    .error (.valueError "compacted_payload possible_questions must contain non-empty strings")
  else .ok claim.possibleQuestions

def payloadEvidenceBlock (claim : OutputClaim) : Except Fault String :=
  if isBlank claim.evidenceBlock then
    .error (.valueError "compacted_payload evidence_block must be non-empty str")
  else .ok (strip claim.evidenceBlock)

/-- `_inherited_claim_kind`. -/
def inheritedClaimKind (payloads : List OutputClaim) : Except Fault ClaimKind :=
  match (payloads.map OutputClaim.claimKind).eraseDups with
  | [claimKind] => .ok claimKind
  | _ => .error (.valueError "source compacted nodes have conflicting claim_kind")

/-- `_inherited_granularity`. -/
def inheritedGranularity (payloads : List OutputClaim) : Granularity :=
  match (payloads.map OutputClaim.granularity).eraseDups with
  | [granularity] => granularity
  | _ => .composite

/-- The source references that the constructor of an enriched claim accepts. -/
def CheckedRefs (refs : List String) : Prop :=
  refs ≠ [] ∧ refs.Nodup ∧ ∀ ref ∈ refs, isBlank ref = false

instance (refs : List String) : Decidable (CheckedRefs refs) :=
  inferInstanceAs (Decidable (_ ∧ _))

theorem CheckedRefs.ne_nil {refs : List String} (h : CheckedRefs refs) : refs ≠ [] := h.1

theorem CheckedRefs.nodup {refs : List String} (h : CheckedRefs refs) : refs.Nodup := h.2.1

theorem CheckedRefs.text {refs : List String} (h : CheckedRefs refs) :
    ∀ ref ∈ refs, isBlank ref = false := h.2.2

/-- `_inherited_reduced_claim`: what the rewrite does not say comes from the
source nodes. -/
def inheritedReducedClaim (sourceNodes : List NodeRow) (sourceClaimRefs : List String)
    (rewrite : DraftClaimReducedRewriteOutput) : Except Fault OutputClaim := do
  let payloads ← sourceNodes.mapM nodePayload
  let questions ← payloads.mapM payloadQuestions
  let evidence ← payloads.mapM payloadEvidenceBlock
  let claimKind ← inheritedClaimKind payloads
  if hrefs : CheckedRefs sourceClaimRefs then
    pure
      { key := rewrite.key
        claim := rewrite.claim
        claimKind := claimKind
        granularity := inheritedGranularity payloads
        sourceClaimRefs := sourceClaimRefs
        triples := rewrite.triples
        mergeDecision := .merged
        possibleQuestions := dedupePreservingOrder questions.flatten
        exclusionScope := "\n".intercalate
          (dedupePreservingOrder (payloads.map OutputClaim.exclusionScope))
        evidenceBlock := "\n\n".intercalate (dedupePreservingOrder evidence)
        sourceClaimRefs_ne_nil := hrefs.ne_nil
        sourceClaimRefs_nodup := hrefs.nodup
        sourceClaimRefs_text := hrefs.text }
  else .error (.valueError "source_claim_refs must be non-empty")

/-- The row written for a rewrite. -/
def rewrittenNodeRow (env : CompactionEnv) (command : ApplyReducedRewrite) (claim : OutputClaim) :
    NodeRow :=
  { nodeRef := compactedClaimNodeRef env command.group claim.sourceClaimRefs
    group := command.group
    nodeKind := .compacted
    active := true
    sourceClaimRefs := claim.sourceClaimRefs
    supersedesNodeRefs := command.sourceNodeRefs
    artifactTokens := env.estimatedCompactedClaimTokens claim
    compacted := some claim
    createdAt := command.createdAt
    updatedAt := command.createdAt }

/-- The nodes of a rewrite; all of them must be there. -/
def rewriteSourceNodes (state : ReductionState) (command : ApplyReducedRewrite) :
    Except Fault (List NodeRow) :=
  let sourceNodes := loadNodesByRef state.nodes command.group command.sourceNodeRefs
  if command.sourceNodeRefs = [] then .error (.valueError "node_refs must be non-empty")
  else if sourceNodes.length ≠ command.sourceNodeRefs.eraseDups.length then
    .error (.valueError "source compacted nodes are not available")
  else .ok sourceNodes

/-- `apply_reduced_rewrite_result`. -/
def applyReducedRewriteResult (env : CompactionEnv) (state : ReductionState)
    (command : ApplyReducedRewrite) : Except Fault (ApplyPersistenceResult × ReductionState) := do
  let sourceNodes ← rewriteSourceNodes state command
  let claim ← inheritedReducedClaim sourceNodes
    (sorted (sourceNodes.flatMap NodeRow.sourceClaimRefs).eraseDups) command.rewrite
  let row := rewrittenNodeRow env command claim
  let inserted := state.nodes.insertOrIgnore row
  let sourceRows := command.sourceNodeRefs.map fun sourceNodeRef =>
    ({ nodeRef := row.nodeRef, sourceRef := sourceNodeRef, sourceKind := .compacted
       createdAt := command.createdAt } : NodeSourceRow)
  let superseded := inserted.countWhere fun old =>
    command.sourceNodeRefs.contains old.nodeRef && old.active
  let merged ← upsertMergedComponent
    { state with
      nodes := deactivateNodes inserted command.sourceNodeRefs command.createdAt
      nodeSources := sourceRows.foldl Table.insertOrIgnore state.nodeSources }
    command.group row.nodeRef command.sourceNodeRefs claim.sourceClaimRefs command.createdAt
  let pairs := nodeRefPairs command.sourceNodeRefs
  let (insertedComparisons, compared) ← pairs.foldlM
    (fun (count, current) pair => do
      let (inserted, next) ← insertMergedComparison current command.group command.roundIndex
        pair.1 pair.2 row.nodeRef command.createdAt
      pure (if inserted then count + 1 else count, next))
    ((0 : Nat), merged)
  let insertedNodes := if row.nodeRef ∈ state.nodes.keys then 0 else 1
  let insertedSources := (sourceRows.filter fun source =>
    source.key ∉ state.nodeSources.keys).length
  pure
    ({ insertedNodeCount := insertedNodes
       updatedNodeCount := superseded
       insertedSourceCount := insertedSources
       insertedComparisonCount := insertedComparisons
       supersededNodeCount := superseded
       alreadyExistsCount := (1 + command.sourceNodeRefs.length + pairs.length : Int) -
        (insertedNodes + insertedSources + insertedComparisons) },
     compared)

/-! Runs. -/

/-- One successful write. -/
inductive ReductionStep (env : CompactionEnv) : ReductionState → ReductionState → Prop
  | seed {state : ReductionState} (group : GroupKey) (seeds : List RawNodeSeed) (createdAt : Int) :
    ReductionStep env state (seedInitialPlannerState state group seeds createdAt).2
  | compacted {before after : ReductionState} {result : ApplyPersistenceResult}
    (command : ApplyCompactedClaims)
    (happly : applyCompactedClaimsResult env before command = .ok (result, after)) :
    ReductionStep env before after
  | rewrite {before after : ReductionState} {result : ApplyPersistenceResult}
    (command : ApplyReducedRewrite)
    (happly : applyReducedRewriteResult env before command = .ok (result, after)) :
    ReductionStep env before after

def emptyReductionState : ReductionState where
  nodes := .empty
  nodeSources := .empty
  comparisons := .empty
  components := .empty
  incompatibilities := .empty
  separationEdges := .empty

/-- The states that the writers lead to. -/
def Reachable (env : CompactionEnv) : ReductionState → Prop :=
  Relation.ReflTransGen (ReductionStep env) emptyReductionState

/-! The nodes of the three writers. -/

theorem applyReducedRewriteResult_nodes {env : CompactionEnv} {state after : ReductionState}
    {command : ApplyReducedRewrite} {result : ApplyPersistenceResult}
    (h : applyReducedRewriteResult env state command = .ok (result, after)) :
    ∃ claim, after.nodes = deactivateNodes
      (state.nodes.insertOrIgnore (rewrittenNodeRow env command claim)) command.sourceNodeRefs
      command.createdAt := by
  simp only [applyReducedRewriteResult, bind_eq_ok] at h
  obtain ⟨sourceNodes, _, claim, _, merged, hmerged, ⟨count, compared⟩, hcompared, hpure⟩ := h
  simp only [pure, Except.pure, Except.ok.injEq, Prod.mk.injEq] at hpure
  have hkeep : compared.nodes = merged.nodes := by
    refine view_foldlM_eq (fun progress : Nat × ReductionState => progress.2.nodes) ?_ hcompared
    intro pair _ current next hstep
    obtain ⟨inserted, hinserted, hnext⟩ := bind_eq_ok.mp hstep
    simp only [pure, Except.pure, Except.ok.injEq] at hnext
    rw [← hnext]
    exact insertMergedComparison_nodes hinserted
  refine ⟨claim, ?_⟩
  rw [← hpure.2, hkeep, upsertMergedComponent_nodes hmerged]

/-- The reference of a node is built by the builder of its kind, and a raw node
has the claim it is named after. -/
def NodeRow.Named (env : CompactionEnv) (row : NodeRow) : Prop :=
  match row.nodeKind with
  | .raw => ∃ ref, row.nodeRef = rawClaimNodeRef row.group ref ∧ row.sourceClaimRefs = [ref]
  | .compacted => row.nodeRef = compactedClaimNodeRef env row.group row.sourceClaimRefs

def NodesNamed (env : CompactionEnv) (nodes : Table NodeRow.nodeRef) : Prop :=
  ∀ row ∈ nodes.rows, row.Named env

variable {env : CompactionEnv}

theorem nodesNamed_insertOrIgnore {nodes : Table NodeRow.nodeRef} {row : NodeRow}
    (hnamed : NodesNamed env nodes) (hrow : row.Named env) :
    NodesNamed env (nodes.insertOrIgnore row) := by
  intro other hother
  rcases Table.mem_insertOrIgnore.mp hother with hold | ⟨_, rfl⟩
  · exact hnamed other hold
  · exact hrow

theorem nodesNamed_deactivateNodes {nodes : Table NodeRow.nodeRef} {nodeRefs : List String}
    {now : Int} (hnamed : NodesNamed env nodes) :
    NodesNamed env (deactivateNodes nodes nodeRefs now) := by
  intro row hrow
  rw [rows_deactivateNodes] at hrow
  obtain ⟨old, hold, rfl⟩ := List.mem_map.mp hrow
  unfold deactivated
  split
  · exact hnamed old hold
  · exact hnamed old hold

theorem nodesNamed_step {before after : ReductionState} (hnamed : NodesNamed env before.nodes)
    (hstep : ReductionStep env before after) : NodesNamed env after.nodes := by
  cases hstep with
  | seed group seeds createdAt =>
    have hfold : ∀ (progress : (Nat × Nat) × ReductionState), NodesNamed env progress.2.nodes →
        NodesNamed env (seeds.foldl (seedRawNode group createdAt) progress).2.nodes := by
      induction seeds with
      | nil => exact fun _ h => h
      | cons seed rest ih =>
        intro progress h
        apply ih
        exact nodesNamed_insertOrIgnore h ⟨seed.observationRef, rfl, rfl⟩
    exact hfold ((0, 0), before) hnamed
  | compacted command happly =>
    rw [(applyCompactedClaimsResult_nodes happly).2]
    generalize sourceClaimRefsByNodeRef (comparedNodes before.nodes command) = sets
    generalize command.compactedClaims = claims
    generalize before.nodes = nodes at hnamed
    induction claims generalizing nodes with
    | nil => exact hnamed
    | cons claim rest ih =>
      apply ih
      exact nodesNamed_deactivateNodes (nodesNamed_insertOrIgnore hnamed rfl)
  | rewrite command happly =>
    obtain ⟨claim, hnodes⟩ := applyReducedRewriteResult_nodes happly
    rw [hnodes]
    exact nodesNamed_deactivateNodes (nodesNamed_insertOrIgnore hnamed rfl)

theorem nodesNamed_of_reachable {state : ReductionState} (hreach : Reachable env state) :
    NodesNamed env state.nodes := by
  have hempty : NodesNamed env emptyReductionState.nodes := by
    intro row hrow
    simp [emptyReductionState] at hrow
  have hstep : ∀ before after : ReductionState, NodesNamed env before.nodes →
      ReductionStep env before after → NodesNamed env after.nodes := fun _ _ => nodesNamed_step
  exact Runs.invariant hstep hreach hempty

end CrmBot.Compaction
