import CrmBot.Compaction.NodeRefs
import CrmBot.Compaction.OutputContract
import CrmBot.Compaction.ReductionPlanner

/-! The compaction work items of the clustering and of the apply handler.

Each schedules a payload with the prompt of the work item. What the prompt calls
the id of a claim is the observation of a raw claim and the node of a compacted
one. -/

namespace CrmBot.Compaction

open Relational CrmBot.Python

/-- The prompt files and the JSON writer. -/
structure PromptEnv where
  /-- The stripped text of a prompt file. -/
  promptText : String → String
  /-- `json.dumps` without ASCII escapes, with sorted keys. -/
  dumps : PyValue → String

/-- `build_draft_claim_compaction_provider_messages`. -/
def providerMessages (env : PromptEnv) (promptFileName : String) (payload : PyValue) : PyValue :=
  .list [
    .dict [("content", .str (env.promptText promptFileName)), ("role", .str "system")],
    .dict [("content", .str (env.dumps payload)), ("role", .str "user")]]

/-- `DraftClaimCompactionPromptClaim`. -/
structure PromptClaim where
  claimId : String
  claim : String
  questions : List String
  deriving DecidableEq

def PromptClaim.toJson (claim : PromptClaim) : PyValue :=
  .dict [("claim", .str claim.claim), ("id", .str claim.claimId),
    ("questions", .list (claim.questions.map .str))]

/-- `DraftClaimCompactionPromptPayload.to_json_dict`. -/
def promptPayload (claims : List PromptClaim) : PyValue :=
  .dict [("claims", .list (claims.map PromptClaim.toJson))]

/-- A stored draft claim, as `list_by_observation_refs` reads it. The writer of
the claims builds every reference from a digest. -/
structure DraftClaimObservation where
  observationRef : String
  claim : String
  granularity : String
  possibleQuestions : List String
  exclusionScope : String
  evidenceBlock : String
  observationRef_form : ∃ digest, observationRef = "draft-claim-observation:" ++ digest

abbrev Observations := Table DraftClaimObservation.observationRef

/-- What is handed to the work item scheduler. -/
structure ScheduledPlan where
  workItemId : String
  payload : Payload

/-! The clustering handler. -/

/-- `DraftClaimCompactionBatchCandidate`. Its members are the observations of a
chunk of a group, and no chunk is empty. -/
structure CompactionBatch where
  batchRef : String
  workflowRunId : String
  groupRef : String
  promptVariant : String
  modelId : String
  artifactTokens : Nat
  memberObservationRefs : List String
  batchRef_text : isBlank batchRef = false
  groupRef_text : isBlank groupRef = false
  members_ne_nil : memberObservationRefs ≠ []
  members_text : ∀ ref ∈ memberObservationRefs, isBlank ref = false

/-- `DRAFT_CLAIM_COMPACTION_PROMPT_TOKENS_BY_VARIANT` for the two variants of a
batch. -/
def batchPromptTokens (promptVariant : String) : Nat :=
  if promptVariant = "single_draft_claim_enrichment" then 1100 else 2050

/-- `_batch_capacity_estimate`. -/
def batchCapacityEstimate (batch : CompactionBatch) : PyValue :=
  let artifactTokens := max 1 batch.artifactTokens
  let promptTokens := batchPromptTokens batch.promptVariant
  let inputTokens := promptTokens + artifactTokens
  .dict [
    ("artifact_tokens", .int artifactTokens),
    ("budget_contract_version", .str "v2"),
    ("estimator", .str "draft_claim_compaction_batch_budget_policy"),
    ("input_tokens", .int inputTokens),
    ("model_ref", .str batch.modelId),
    ("prompt_tokens", .int promptTokens),
    ("prompt_variant", .str batch.promptVariant),
    ("required_window_tokens", .int (inputTokens + artifactTokens + requestSafetyGapTokens))]

/-- `_plan`, with the prompt claims of the batch. -/
def clusterPlan (env : PromptEnv) (batch : CompactionBatch) (claims : List PromptClaim) :
    ScheduledPlan where
  workItemId := claimCompactionWorkItemId batch.workflowRunId batch.batchRef
  payload := [
    ("batch_ref", .str batch.batchRef),
    ("group_ref", .str batch.groupRef),
    ("llm_capacity_estimate", batchCapacityEstimate batch),
    ("model_id", .str batch.modelId),
    ("prompt_variant", .str batch.promptVariant),
    ("provider_messages", providerMessages env
      (if batch.promptVariant = "single_draft_claim_enrichment" then
        "single_draft_claim_enrichment.txt" else "draft_claim_compaction.txt")
      (promptPayload claims)),
    ("source_claim_refs", .list (batch.memberObservationRefs.map .str)),
    ("workflow_run_id", .str batch.workflowRunId)]

/-! The apply handler. -/

/-- One node of the next work item: a compacted node is shown by itself, a raw
node by its claims, and a reference without a node by what it seems to name. -/
def collectPromptNode (nodes : List NodeRow) (progress : List PromptClaim × List String)
    (nodeRef : String) : Except Fault (List PromptClaim × List String) :=
  match nodeByRef nodes nodeRef with
  | none => .ok (progress.1, progress.2 ++ [(rawClaimRefFromNodeRef nodeRef).getD nodeRef])
  | some node =>
    if node.active = false then
      .error (.valueError "next compaction work must reference active nodes")
    else match node.nodeKind, node.compacted with
      | .compacted, some claim => .ok (progress.1 ++ [⟨node.nodeRef, claim.claim, []⟩], progress.2)
      | .compacted, none => .error (.valueError "compacted node claim is unavailable")
      | .raw, _ => .ok (progress.1, progress.2 ++ node.sourceClaimRefs)

def observedPromptClaim (observations : Observations) (rawClaimRef : String) :
    Except Fault PromptClaim :=
  match observations.find? rawClaimRef with
  | none => .error (.valueError ("draft claim observation is unavailable: " ++ rawClaimRef))
  | some observation => .ok
    ⟨observation.observationRef, observation.claim, observation.possibleQuestions⟩

/-- The prompt claims of a comparison: compacted nodes first. -/
def comparisonPromptClaims (state : PlannerState) (observations : Observations)
    (item : NextWorkItem) : Except Fault (List PromptClaim) := do
  let (compacted, rawClaimRefs) ← item.nodeRefs.foldlM (collectPromptNode state.nodes) ([], [])
  let raw ← rawClaimRefs.mapM (observedPromptClaim observations)
  pure (compacted ++ raw)

def Triple.toJson (triple : Triple) : PyValue :=
  .dict [("object", .str triple.object), ("predicate", .str triple.predicate),
    ("qualifiers", .list (triple.qualifiers.map .str)), ("subject", .str triple.subject)]

/-- `_required_active_compacted_node` and `_reduced_rewrite_input_claim`. -/
def rewriteInputClaim (nodes : List NodeRow) (nodeRef : String) : Except Fault PyValue :=
  match nodeByRef nodes nodeRef with
  | none => .error (.valueError "reduced rewrite requires active compacted nodes")
  | some node =>
    if node.active = false ∨ node.nodeKind ≠ .compacted then
      .error (.valueError "reduced rewrite requires active compacted nodes")
    else match node.compacted with
      | none => .error (.valueError "compacted node rewrite payload is unavailable")
      | some claim => .ok (.dict [("claim", .str claim.claim), ("key", .str claim.key),
          ("triples", .list (claim.triples.map Triple.toJson))])

/-- `_provider_messages_for_next_work_item`. -/
def nextWorkProviderMessages (env : PromptEnv) (state : PlannerState)
    (observations : Observations) (item : NextWorkItem) : Except Fault PyValue :=
  if item.workType = .reducedRewrite then do
    let claims ← item.nodeRefs.mapM (rewriteInputClaim state.nodes)
    pure (providerMessages env "reduced_claim_rewrite.txt"
      (.dict [("compacted_claims", .list claims)]))
  else do
    let claims ← comparisonPromptClaims state observations item
    pure (providerMessages env
      (if item.workType = .draftVsDraft then "draft_claim_compaction.txt"
        else "enriched_claim_compaction.txt")
      (promptPayload claims))

/-- `_compacted_node_refs`. -/
def compactedNodeRefs (item : NextWorkItem) : List String :=
  match item.workType with
  | .compactedVsCompacted | .reducedRewrite => item.nodeRefs
  | .mixed => item.nodeRefs.filter fun nodeRef => (rawClaimRefFromNodeRef nodeRef).isNone
  | .draftVsDraft | .waitForUserModelChoice | .done => []

/-- `_raw_claim_refs`. -/
def rawClaimRefs (item : NextWorkItem) : List String :=
  match item.workType with
  | .draftVsDraft => item.nodeRefs.map fun nodeRef =>
      (rawClaimRefFromNodeRef nodeRef).getD nodeRef
  | .mixed => item.nodeRefs.filterMap rawClaimRefFromNodeRef
  | .compactedVsCompacted | .reducedRewrite | .waitForUserModelChoice | .done => []

/-- `_next_work_capacity_estimate`. -/
def nextWorkCapacityEstimate (item : NextWorkItem) : PyValue :=
  .dict [
    ("artifact_tokens", .int item.artifactTokens),
    ("budget_contract_version", .str "v2"),
    ("input_tokens", .int item.inputTokens),
    ("model_ref", .str item.primaryModelId),
    ("prompt_tokens", .int item.promptTokens),
    ("prompt_variant", .str item.workType.value),
    ("required_window_tokens", .int item.requiredWindowTokens)]

/-- The payload of `_schedule_next_work`. -/
def nextWorkPayload (group : GroupKey) (item : NextWorkItem) (messages : PyValue) : Payload := [
  ("artifact_tokens", .int item.artifactTokens),
  ("batch_ref", .str (nextBatchRef group.groupRef item.workType.value item.nodeRefs)),
  ("compacted_node_refs", .list ((compactedNodeRefs item).map .str)),
  ("group_ref", .str group.groupRef),
  ("input_tokens", .int item.inputTokens),
  ("llm_capacity_estimate", nextWorkCapacityEstimate item),
  ("model_id", .str item.primaryModelId),
  ("prompt_tokens", .int item.promptTokens),
  ("prompt_variant", .str item.workType.value),
  ("provider_messages", messages),
  ("raw_claim_refs", .list ((rawClaimRefs item).map .str)),
  ("request_count", .int item.requestCount),
  ("required_window_tokens", .int item.requiredWindowTokens),
  ("source_node_refs", .list (item.nodeRefs.map .str)),
  ("workflow_run_id", .str group.workflowRunId)]

/-- `_schedule_next_work` up to the scheduler: `none` where nothing is to be
done. The constructor of the work item refuses blank references. -/
def scheduleNextWork (env : PromptEnv) (state : ReductionState) (observations : Observations)
    (group : GroupKey) (item : NextWorkItem) : Except Fault (Option ScheduledPlan) :=
  if item.nodeRefs.any isBlank then .error (.valueError "node_refs must be non-empty text")
  else if item.workType.isExecutable = false then .ok none
  else if "--".intercalate item.nodeRefs = "" then
    .error (.valueError "next work item node_refs must be non-empty")
  else match loadPlannerState state group with
    | none => .error (.valueError "draft claim compaction planner state is unavailable")
    | some planner => do
      let messages ← nextWorkProviderMessages env planner observations item
      let batchRef := nextBatchRef group.groupRef item.workType.value item.nodeRefs
      pure (some
        { workItemId := claimCompactionWorkItemId group.workflowRunId batchRef
          payload := nextWorkPayload group item messages })

end CrmBot.Compaction
