import CrmBot.Compaction.ReductionRuns
import CrmBot.Compaction.ScheduledWork
import CrmBot.Library.Chunks
import CrmBot.Library.SignificantDigits

/-! The batch plan of the clustering handler, and the nodes it seeds. -/

namespace CrmBot.Compaction

open CrmBot.Python FailingFold Chunks

/-- What the handler and its budget policy read of a stored claim. -/
structure DraftClaimForCompaction where
  observationRef : String
  claim : String
  possibleQuestions : List String
  exclusionScope : List String
  granularity : String
  embeddingText : String
  observationRef_text : isBlank observationRef = false

/-- `DraftClaimCompactionGroupCandidate`. -/
structure CompactionGroup where
  key : GroupKey
  memberObservationRefs : List String
  artifactTokens : ℕ
  requiresSplit : Bool

def CompactionGroup.memberCount (group : CompactionGroup) : ℕ := group.memberObservationRefs.length

/-! The budget profile. -/

/-- `draft_claim_compaction_artifact_tokens`: 3.7 characters a token, divided
with 28 significant digits and rounded up. -/
def draftClaimCompactionArtifactTokens (text : String) : ℕ :=
  if isBlank text then 0
  else ⌈SignificantDigits.toDigits 28 ((text.length : ℚ) / (37 / 10))⌉.toNat

/-- `DRAFT_CLAIM_COMPACTION_PROMPT_TOKENS_BY_VARIANT`. -/
def promptTokensByVariant : List (String × ℕ) :=
  [("draft_vs_draft", 2050), ("single_draft_claim_enrichment", 1100),
    ("compacted_vs_compacted", 2150), ("mixed", 2150), ("reduced_rewrite", 400)]

def draftClaimCompactionPromptTokens (promptVariant : String) : Except Fault ℕ :=
  match promptTokensByVariant.lookup promptVariant with
  | some promptTokens => .ok promptTokens
  | none => .error (.valueError
      ("unknown draft claim compaction prompt variant: " ++ promptVariant))

/-- `draft_claim_compaction_max_batch_tokens`, of 8000 tokens a minute. -/
def draftClaimCompactionMaxBatchTokens (promptVariant : String) : Except Fault ℕ :=
  (draftClaimCompactionPromptTokens promptVariant).map fun promptTokens =>
    (8000 - promptTokens - requestSafetyGapTokens) / 2

/-! The policy. -/

/-- `DraftClaimCompactionBatchBudgetPolicy`. -/
structure BatchBudgetPolicy where
  promptVariant : String
  modelId : String
  maxBatchTokens : Option ℕ
  tokenEstimator : String → ℕ
  promptVariant_text : isBlank promptVariant = false
  modelId_text : isBlank modelId = false
  maxBatchTokens_pos : ∀ limit ∈ maxBatchTokens, 0 < limit

/-- `_claim_budget_text`. -/
def claimBudgetText (claim : DraftClaimForCompaction) : String :=
  "\n".intercalate ((claim.claim :: (claim.possibleQuestions ++ claim.exclusionScope ++
    [claim.granularity, claim.embeddingText])).filter fun part => !isBlank part)

/-- `_prompt_variant_for_batch`. -/
def promptVariantForBatch (group : CompactionGroup) (fallback : String) : String :=
  if group.memberCount = 1 then "single_draft_claim_enrichment" else fallback

/-- `{claim.observation_ref: claim for claim in claims}[ref]`: a later claim
takes the place of an earlier one. -/
def claimByRef (claims : List DraftClaimForCompaction) (ref : String) :
    Except Fault DraftClaimForCompaction :=
  match claims.reverse.find? fun claim => claim.observationRef = ref with
  | some claim => .ok claim
  | none => .error (.keyError ref)

/-- `DraftClaimCompactionBudgetPlan`. -/
structure BudgetPlan where
  groups : List CompactionGroup
  batches : List CompactionBatch

theorem isBlank_batchCandidateRef (sha256Hexdigest : String → String) (groupRef : String)
    (index : ℕ) (refs : List String) :
    isBlank (batchCandidateRef sha256Hexdigest groupRef index refs) = false := by
  unfold isBlank batchCandidateRef hashedRef
  rw [String.toList_append, String.toList_append]
  rfl

namespace BatchBudgetPolicy

variable (policy : BatchBudgetPolicy)

/-- `_max_batch_tokens_for_variant`. -/
def maxBatchTokensForVariant (promptVariant : String) : Except Fault ℕ :=
  match policy.maxBatchTokens with
  | some limit => .ok limit
  | none => draftClaimCompactionMaxBatchTokens promptVariant

/-- `_estimate`. -/
def estimate (claim : DraftClaimForCompaction) : ℕ := policy.tokenEstimator (claimBudgetText claim)

/-- `_estimate_batch`: the texts are joined by blank lines. -/
def estimateBatch (claims : List DraftClaimForCompaction) : ℕ :=
  policy.tokenEstimator ("\n\n".intercalate (claims.map claimBudgetText))

/-- The batch of one scheduled chunk. -/
def batchCandidate (sha256Hexdigest : String → String) (group : CompactionGroup)
    (promptVariant : String) (index : ℕ) (chunk : Chunk DraftClaimForCompaction) :
    CompactionBatch where
  batchRef := batchCandidateRef sha256Hexdigest group.key.groupRef index
    (chunk.val.map DraftClaimForCompaction.observationRef)
  workflowRunId := group.key.workflowRunId
  groupRef := group.key.groupRef
  promptVariant := promptVariant
  modelId := policy.modelId
  artifactTokens := policy.estimateBatch chunk.val
  memberObservationRefs := chunk.val.map DraftClaimForCompaction.observationRef
  batchRef_text := isBlank_batchCandidateRef _ _ _ _
  groupRef_text := group.key.groupRef_text
  members_ne_nil := by
    rw [Ne, List.map_eq_nil_iff]
    exact chunk.property
  members_text := by
    intro ref href
    obtain ⟨claim, _, rfl⟩ := List.mem_map.mp href
    exact claim.observationRef_text

/-- The loop body of `build_batches`. The members are looked up first; the claim
found under a reference has that reference. -/
def planGroup (sha256Hexdigest : String → String) (claims : List DraftClaimForCompaction)
    (group : CompactionGroup) : Except Fault (CompactionGroup × List CompactionBatch) := do
  let promptVariant := promptVariantForBatch group policy.promptVariant
  let limit ← policy.maxBatchTokensForVariant promptVariant
  let members ← group.memberObservationRefs.mapM (claimByRef claims)
  let cut := chunks policy.estimate limit members
  -- a chunk of one claim is left to later comparisons, unless it is the group
  let scheduled := cut.filter fun chunk => group.memberCount = 1 || 1 < chunk.val.length
  pure
    ({ group with
       artifactTokens := total policy.estimate members
       requiresSplit := 1 < cut.length },
     scheduled.mapIdx (policy.batchCandidate sha256Hexdigest group promptVariant))

def buildBatches (sha256Hexdigest : String → String) (claims : List DraftClaimForCompaction)
    (groups : List CompactionGroup) : Except Fault BudgetPlan := do
  let planned ← groups.mapM (policy.planGroup sha256Hexdigest claims)
  pure { groups := planned.map Prod.fst, batches := planned.flatMap Prod.snd }

end BatchBudgetPolicy

/-! The handler. -/

/-- `_raw_nodes_for_group`. -/
def rawNodesForGroup (claims : List DraftClaimForCompaction) (group : CompactionGroup) :
    Except Fault (List RawNodeSeed) :=
  group.memberObservationRefs.mapM fun observationRef =>
    (claimByRef claims observationRef).map fun claim =>
      ⟨observationRef, draftClaimCompactionArtifactTokens (claimBudgetText claim)⟩

/-- One group of the plan is seeded. -/
def seedGroup (claims : List DraftClaimForCompaction) (createdAt : Int) (state : ReductionState)
    (group : CompactionGroup) : Except Fault ReductionState :=
  (rawNodesForGroup claims group).map fun seeds =>
    (seedInitialPlannerState state group.key seeds createdAt).2

/-- The plan and the seeding of `HandleClusterDraftClaimsCommandHandler.execute`.
Every batch of the plan becomes one work item. -/
def clusterDraftClaims (policy : BatchBudgetPolicy) (sha256Hexdigest : String → String)
    (claims : List DraftClaimForCompaction) (groups : List CompactionGroup) (createdAt : Int)
    (state : ReductionState) : Except Fault (BudgetPlan × ReductionState) := do
  let plan ← policy.buildBatches sha256Hexdigest claims groups
  let seeded ← plan.groups.foldlM (seedGroup claims createdAt) state
  pure (plan, seeded)

/-! What the readers return. -/

theorem claimByRef_observationRef {claims : List DraftClaimForCompaction} {ref : String}
    {claim : DraftClaimForCompaction} (h : claimByRef claims ref = .ok claim) :
    claim.observationRef = ref := by
  unfold claimByRef at h
  split at h
  · next found hfind =>
    simp only [Except.ok.injEq] at h
    rw [← h]
    simpa using List.find?_some hfind
  · cases h

/-- A claim of the list is found. -/
theorem exists_claimByRef {claims : List DraftClaimForCompaction} {ref : String}
    (h : ∃ claim ∈ claims, claim.observationRef = ref) :
        ∃ claim, claimByRef claims ref = .ok claim := by
  unfold claimByRef
  cases hfind : claims.reverse.find? fun claim => claim.observationRef = ref with
  | none =>
    obtain ⟨claim, hclaim, href⟩ := h
    have hnone := List.find?_eq_none.mp hfind claim (List.mem_reverse.mpr hclaim)
    simp [href] at hnone
  | some claim => exact ⟨claim, rfl⟩

/-- The members of a group of known claims are found. -/
theorem exists_members {claims : List DraftClaimForCompaction} {group : CompactionGroup}
    (h : ∀ ref ∈ group.memberObservationRefs, ∃ claim ∈ claims, claim.observationRef = ref) :
    ∃ members, group.memberObservationRefs.mapM (claimByRef claims) = .ok members := by
  have hread : ∀ ref ∈ group.memberObservationRefs, ∃ claim,
      claimByRef claims ref = .ok claim ∧ True := by
    intro ref href
    obtain ⟨claim, hclaim⟩ := exists_claimByRef (h ref href)
    exact ⟨claim, hclaim, trivial⟩
  obtain ⟨members, hmembers, _⟩ := exists_mapM_eq_ok hread
  exact ⟨members, hmembers⟩

theorem exists_seedGroup {claims : List DraftClaimForCompaction} {group : CompactionGroup}
    (h : ∀ ref ∈ group.memberObservationRefs, ∃ claim ∈ claims, claim.observationRef = ref)
    (createdAt : Int) (state : ReductionState) :
    ∃ seeded, seedGroup claims createdAt state group = .ok seeded := by
  have hread : ∀ ref ∈ group.memberObservationRefs, ∃ seed : RawNodeSeed,
      (claimByRef claims ref).map (fun claim =>
        ⟨ref, draftClaimCompactionArtifactTokens (claimBudgetText claim)⟩) = .ok seed ∧ True := by
    intro ref href
    obtain ⟨claim, hclaim⟩ := exists_claimByRef (h ref href)
    exact ⟨_, map_eq_ok.mpr ⟨claim, hclaim, rfl⟩, trivial⟩
  obtain ⟨seeds, hseeds, _⟩ := exists_mapM_eq_ok hread
  exact ⟨_, map_eq_ok.mpr ⟨seeds, hseeds, rfl⟩⟩

theorem exists_seedGroups {claims : List DraftClaimForCompaction} {groups : List CompactionGroup}
    (h : ∀ group ∈ groups, ∀ ref ∈ group.memberObservationRefs,
      ∃ claim ∈ claims, claim.observationRef = ref) (createdAt : Int) (state : ReductionState) :
    ∃ seeded, groups.foldlM (seedGroup claims createdAt) state = .ok seeded := by
  induction groups generalizing state with
  | nil => exact ⟨state, rfl⟩
  | cons group rest ih =>
    rw [List.forall_mem_cons] at h
    obtain ⟨middle, hmiddle⟩ := exists_seedGroup h.1 createdAt state
    obtain ⟨seeded, hseeded⟩ := ih h.2 middle
    refine ⟨seeded, ?_⟩
    rw [List.foldlM_cons, bind_eq_ok]
    exact ⟨middle, hmiddle, hseeded⟩

theorem rawNodesForGroup_refs {claims : List DraftClaimForCompaction} {group : CompactionGroup}
    {seeds : List RawNodeSeed} (h : rawNodesForGroup claims group = .ok seeds) :
    seeds.map RawNodeSeed.observationRef = group.memberObservationRefs := by
  have hmap := map_eq_of_mapM id RawNodeSeed.observationRef ?_ h
  · rwa [List.map_id] at hmap
  · intro ref seed hread
    obtain ⟨claim, _, rfl⟩ := map_eq_ok.mp hread
    rfl

namespace BatchBudgetPolicy

variable {policy : BatchBudgetPolicy} {sha256Hexdigest : String → String}
  {claims : List DraftClaimForCompaction}

/-- The plan of a group keeps its name and its members. -/
theorem planGroup_keeps {group : CompactionGroup} {planned : CompactionGroup × List CompactionBatch}
    (h : policy.planGroup sha256Hexdigest claims group = .ok planned) :
    (planned.1.key, planned.1.memberObservationRefs) =
        (group.key, group.memberObservationRefs) := by
  simp only [planGroup, bind_eq_ok] at h
  obtain ⟨limit, _, members, _, hpure⟩ := h
  simp only [pure, Except.pure, Except.ok.injEq] at hpure
  rw [← hpure]

/-- The groups of a plan have the names and the members of the groups it is made
of. -/
theorem exists_mem_plan_iff {groups : List CompactionGroup} {plan : BudgetPlan}
    (h : policy.buildBatches sha256Hexdigest claims groups = .ok plan) {key : GroupKey}
    {refs : List String} :
    (∃ planned ∈ plan.groups, planned.key = key ∧ planned.memberObservationRefs = refs) ↔
      ∃ group ∈ groups, group.key = key ∧ group.memberObservationRefs = refs := by
  obtain ⟨planned, hplanned, hpure⟩ := bind_eq_ok.mp h
  simp only [pure, Except.pure, Except.ok.injEq] at hpure
  have hsame := map_eq_of_mapM
    (fun group : CompactionGroup => (group.key, group.memberObservationRefs))
    (fun planned : CompactionGroup × List CompactionBatch =>
      (planned.1.key, planned.1.memberObservationRefs)) (fun _ _ => planGroup_keeps) hplanned
  have hmem : (key, refs) ∈ planned.map (fun planned =>
        (planned.1.key, planned.1.memberObservationRefs)) ↔
      (key, refs) ∈ groups.map fun group => (group.key, group.memberObservationRefs) := by
    rw [hsame]
  rw [← hpure]
  simpa using hmem

end BatchBudgetPolicy

end CrmBot.Compaction
