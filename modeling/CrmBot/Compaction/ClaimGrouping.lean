import CrmBot.Compaction.BatchBudget
import CrmBot.Library.Components

/-! The candidate edges of the draft claims and the groups of the clustering
handler.

The scores of an edge are fractions that only meet comparisons: any type with a
comparison stands for them, and what the edge policy computes of two claims is a
parameter. -/

namespace CrmBot.Compaction

open CrmBot.Python FailingFold Components

/-- What the edge policy and the grouping policy read of a claim besides. -/
structure EmbeddedDraftClaim extends DraftClaimForCompaction where
  embeddingRef : String
  workflowRunId : String
  sourceDocumentRef : String
  sourceUnitRef : String
  embeddingModelId : String
  workflowRunId_text : isBlank workflowRunId = false

/-- `DraftClaimCompactionEdgeCandidate`. Its constructor wants the left reference
first, the grouping does not need this. -/
structure DraftClaimCompactionEdgeCandidate (Score : Type) where
  edgeRef : String
  leftObservationRef : String
  rightObservationRef : String
  combinedScore : Score

/-- `DraftClaimCompactionGroupCandidate` as the grouping makes it. -/
structure DraftClaimCompactionGroupCandidate (Score : Type) extends CompactionGroup where
  sourceDocumentRef : String
  embeddingModelId : String
  groupAlgorithm : String
  groupThreshold : Score
  memberEmbeddingRefs : List String
  memberSourceUnitRefs : List String

/-- `DraftClaimCompactionGroupingPolicy`. -/
structure DraftClaimCompactionGroupingPolicy (Score : Type) where
  groupAlgorithm : String
  groupThreshold : Score

/-! The edges. -/

section Edges

variable {Score : Type}

/-- The check of the edge constructor on its references. -/
def DraftClaimCompactionEdgeCandidate.make (edgeRef left right : String) (combinedScore : Score) :
    Except Fault (DraftClaimCompactionEdgeCandidate Score) :=
  if left < right then .ok ⟨edgeRef, left, right, combinedScore⟩
  else .error (.valueError "left_observation_ref must be < right_observation_ref")

variable (measure : EmbeddedDraftClaim → EmbeddedDraftClaim → Except Fault (Score × Bool))

/-- `_build_edge`: the edge of two claims, and whether the policy admits it. -/
def buildEdge (sha256Hexdigest : String → String)
    (pair : EmbeddedDraftClaim × EmbeddedDraftClaim) :
    Except Fault (DraftClaimCompactionEdgeCandidate Score × Bool) := do
  let (combinedScore, admitted) ← measure pair.1 pair.2
  let edge ← DraftClaimCompactionEdgeCandidate.make
    (hashedRef sha256Hexdigest "draft-claim-compaction-edge"
      [pair.1.workflowRunId, pair.1.observationRef, pair.2.observationRef])
    pair.1.observationRef pair.2.observationRef combinedScore
  pure (edge, admitted)

/-- `key=lambda edge: (-edge.combined_score, edge.edge_ref)`. -/
def edgeBefore [LT Score] (first second : DraftClaimCompactionEdgeCandidate Score) : Prop :=
  second.combinedScore < first.combinedScore ∨
    ¬ first.combinedScore < second.combinedScore ∧ first.edgeRef ≤ second.edgeRef

instance [LT Score] [DecidableLT Score] (first second : DraftClaimCompactionEdgeCandidate Score) :
    Decidable (edgeBefore first second) :=
  inferInstanceAs (Decidable (_ ∨ _))

/-- `build_edges`. -/
def buildEdges [LT Score] [DecidableLT Score] (sha256Hexdigest : String → String)
    (claims : List EmbeddedDraftClaim) :
    Except Fault (List (DraftClaimCompactionEdgeCandidate Score)) := do
  let ordered := claims.insertionSort fun left right => left.observationRef ≤ right.observationRef
  let built ← (laterPairs ordered).mapM (buildEdge measure sha256Hexdigest)
  pure (((built.filter Prod.snd).map Prod.fst).insertionSort edgeBefore)

end Edges

/-! The groups. -/

/-- What `build_groups` may raise; the second of a group without claims. -/
inductive GroupingFault
  | keyError (ref : String)
  | indexError
  deriving DecidableEq, Repr

/-- `dict[str, set[str]]`: the keys, and the set of each key. -/
structure ClaimGraph where
  refs : List String
  neighbours : String → List String

/-- Fewer keys are unfound after a key is found. -/
theorem length_unfound_lt {refs found : List String} {current : String} (hknown : current ∈ refs)
    (hfound : current ∉ found) :
    (refs.filter fun ref => ref ∉ found ++ [current]).length <
      (refs.filter fun ref => ref ∉ found).length := by
  have hfilter : (refs.filter fun ref => ref ∉ found ++ [current]) =
      (refs.filter fun ref => ref ∉ found).filter fun ref => ref ≠ current := by
    rw [List.filter_filter]
    apply List.filter_congr
    intro ref _
    simp [and_comm]
  rw [hfilter, List.length_filter_lt_length_iff_exists]
  exact ⟨current, List.mem_filter.mpr ⟨hknown, decide_eq_true hfound⟩, by simp⟩

namespace ClaimGraph

/-- `graph[ref].add(neighbour)`. -/
def addNeighbour (graph : ClaimGraph) (ref neighbour : String) : Except GroupingFault ClaimGraph :=
  if ref ∈ graph.refs then
    .ok { graph with
      neighbours := Function.update graph.neighbours ref
        ((graph.neighbours ref).insert neighbour) }
  else .error (.keyError ref)

/-- `sorted(graph[current] - found)`. -/
def newNeighbours (graph : ClaimGraph) (current : String) (found : List String) : List String :=
  sorted ((graph.neighbours current).filter fun other => other ∉ found)

/-- The loop of `_component`. The top of the stack is the head here. -/
def componentLoop (graph : ClaimGraph) :
    List String → List String → Except GroupingFault (List String)
  | found, [] => .ok found
  | found, current :: pending =>
    if current ∈ found then graph.componentLoop found pending
    else if current ∈ graph.refs then
      graph.componentLoop (found ++ [current])
        (graph.newNeighbours current (found ++ [current]) ++ pending)
    else .error (.keyError current)
termination_by found pending => ((graph.refs.filter fun ref => ref ∉ found).length, pending.length)
decreasing_by
  · exact Prod.Lex.right _ (Nat.lt_succ_self _)
  · next hfound hknown =>
    apply Prod.Lex.left
    exact length_unfound_lt hknown hfound

/-- `_component`. -/
def component (graph : ClaimGraph) (start : String) : Except GroupingFault (List String) :=
  graph.componentLoop [] [start]

end ClaimGraph

/-- The keys of `by_ref`. -/
def claimRefs (claims : List EmbeddedDraftClaim) : List String :=
  (claims.map fun claim => claim.observationRef).dedup

/-- `by_ref[ref]`: a later claim takes the place of an earlier one. -/
def embeddedClaimByRef (claims : List EmbeddedDraftClaim) (ref : String) :
    Except GroupingFault EmbeddedDraftClaim :=
  match claims.reverse.find? fun claim => claim.observationRef = ref with
  | some claim => .ok claim
  | none => .error (.keyError ref)

theorem isBlank_groupCandidateRef (sha256Hexdigest : String → String) (workflowRunId : String)
    (refs : List String) :
    isBlank (groupCandidateRef sha256Hexdigest workflowRunId refs) = false := by
  unfold isBlank groupCandidateRef hashedRef
  rw [String.toList_append, String.toList_append]
  rfl

namespace DraftClaimCompactionGroupingPolicy

variable {Score : Type} (policy : DraftClaimCompactionGroupingPolicy Score)

section Graph

variable [LT Score] [DecidableLT Score]

/-- The loop body over the edges: an edge under the threshold is passed over. -/
def addEdge (graph : ClaimGraph) (edge : DraftClaimCompactionEdgeCandidate Score) :
    Except GroupingFault ClaimGraph :=
  if edge.combinedScore < policy.groupThreshold then .ok graph
  else do
    let joined ← graph.addNeighbour edge.leftObservationRef edge.rightObservationRef
    joined.addNeighbour edge.rightObservationRef edge.leftObservationRef

def buildGraph (claims : List EmbeddedDraftClaim)
    (edges : List (DraftClaimCompactionEdgeCandidate Score)) : Except GroupingFault ClaimGraph :=
  edges.foldlM policy.addEdge ⟨claimRefs claims, fun _ => []⟩

end Graph

variable (sha256Hexdigest : String → String)

/-- The group of claims of which `first` is the first. -/
def groupCandidate (first : EmbeddedDraftClaim) (claimsInGroup : List EmbeddedDraftClaim) :
    DraftClaimCompactionGroupCandidate Score :=
  let refs := claimsInGroup.map fun claim => claim.observationRef
  { key := {
      workflowRunId := first.workflowRunId
      groupRef := groupCandidateRef sha256Hexdigest first.workflowRunId refs
      workflowRunId_text := first.workflowRunId_text
      groupRef_text := isBlank_groupCandidateRef _ _ _ }
    memberObservationRefs := refs
    artifactTokens := 0
    requiresSplit := false
    sourceDocumentRef := first.sourceDocumentRef
    embeddingModelId := first.embeddingModelId
    groupAlgorithm := policy.groupAlgorithm
    groupThreshold := policy.groupThreshold
    memberEmbeddingRefs := claimsInGroup.map fun claim => claim.embeddingRef
    memberSourceUnitRefs := claimsInGroup.map fun claim => claim.sourceUnitRef }

/-- `claims_in_group[0]` and the constructor. -/
def candidateOfClaims :
    List EmbeddedDraftClaim → Except GroupingFault (DraftClaimCompactionGroupCandidate Score)
  | [] => .error .indexError
  | first :: rest => .ok (policy.groupCandidate sha256Hexdigest first (first :: rest))

/-- The group of the members of a component. -/
def groupOfMembers (claims : List EmbeddedDraftClaim) (members : List String) :
    Except GroupingFault (DraftClaimCompactionGroupCandidate Score) := do
  let claimsInGroup ← (sorted members).mapM (embeddedClaimByRef claims)
  policy.candidateOfClaims sha256Hexdigest claimsInGroup

/-- The loop body over the references, with `seen` and the groups so far. -/
def collectGroup (claims : List EmbeddedDraftClaim) (graph : ClaimGraph)
    (progress : List String × List (DraftClaimCompactionGroupCandidate Score)) (ref : String) :
    Except GroupingFault (List String × List (DraftClaimCompactionGroupCandidate Score)) :=
  if ref ∈ progress.1 then .ok progress
  else do
    let members ← graph.component ref
    let group ← policy.groupOfMembers sha256Hexdigest claims members
    pure (progress.1 ++ members, progress.2 ++ [group])

/-- `build_groups`. -/
def buildGroups [LT Score] [DecidableLT Score] (claims : List EmbeddedDraftClaim)
    (edges : List (DraftClaimCompactionEdgeCandidate Score)) :
    Except GroupingFault (List (DraftClaimCompactionGroupCandidate Score)) := do
  let graph ← policy.buildGraph claims edges
  let (_, groups) ← (sorted (claimRefs claims)).foldlM
    (policy.collectGroup sha256Hexdigest claims graph) ([], [])
  pure (groups.insertionSort fun left right => left.key.groupRef ≤ right.key.groupRef)

end DraftClaimCompactionGroupingPolicy

end CrmBot.Compaction
