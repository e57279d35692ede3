import CrmBot.Compaction.PipelineRuns

/-! Which claims the batch plan reaches.

A chunk of a larger group that holds one claim is not scheduled: the claim is
left to the comparisons of its raw node. So a group of claims none of which fits
together with its neighbour has no batch at all. -/

namespace CrmBot.Compaction

open CrmBot.Python FailingFold Chunks

/-- What a member costs by itself. -/
def BatchBudgetPolicy.costOf (policy : BatchBudgetPolicy) (claims : List DraftClaimForCompaction)
    (ref : String) : ℕ :=
  match claimByRef claims ref with
  | .ok claim => policy.estimate claim
  | .error _ => 0

/-- What the batches of one group are. -/
structure GroupScheduled (policy : BatchBudgetPolicy) (claims : List DraftClaimForCompaction)
    (limit : ℕ) (group : CompactionGroup) (batches : List CompactionBatch) : Prop where
  own : ∀ batch ∈ batches, batch.workflowRunId = group.key.workflowRunId ∧
    batch.groupRef = group.key.groupRef ∧ batch.memberObservationRefs ⊆ group.memberObservationRefs
  /-- A claim outside of all batches is alone in its chunk of a larger group. -/
  assigned : ∀ ref ∈ group.memberObservationRefs,
    (∃ batch ∈ batches, ref ∈ batch.memberObservationRefs) ∨
      1 < group.memberCount ∧
        ∃ chunk ∈ chunks (policy.costOf claims) limit group.memberObservationRefs,
          chunk.val = [ref]
  /-- There is a batch for a single claim and for two neighbours that fit together. -/
  scheduled_iff : batches ≠ [] ↔ group.memberCount = 1 ∨
    ∃ front first second back, group.memberObservationRefs = front ++ first :: second :: back ∧
      policy.costOf claims first + policy.costOf claims second ≤ limit
  withinBudget : ∀ batch ∈ batches, 1 < batch.memberObservationRefs.length →
    total (policy.costOf claims) batch.memberObservationRefs ≤ limit

/-- The batches of a group under the budget of its prompt variant. -/
def ScheduledWithinBudget (policy : BatchBudgetPolicy) (claims : List DraftClaimForCompaction)
    (group : CompactionGroup) (batches : List CompactionBatch) : Prop :=
  ∃ limit, policy.maxBatchTokensForVariant (promptVariantForBatch group policy.promptVariant) =
    .ok limit ∧ GroupScheduled policy claims limit group batches

section Group

variable {policy : BatchBudgetPolicy} {sha256Hexdigest : String → String}
  {claims : List DraftClaimForCompaction} {group : CompactionGroup}

/-- The chunks of the references are those of the claims found under them. -/
theorem chunks_costOf {members : List DraftClaimForCompaction}
    (h : group.memberObservationRefs.mapM (claimByRef claims) = .ok members) (limit : ℕ) :
    chunks (policy.costOf claims) limit group.memberObservationRefs =
      (chunks policy.estimate limit members).map
        (Chunk.map DraftClaimForCompaction.observationRef) := by
  have hrefs : members.map DraftClaimForCompaction.observationRef =
      group.memberObservationRefs := by
    have hmap := map_eq_of_mapM id DraftClaimForCompaction.observationRef
      (fun _ _ => claimByRef_observationRef) h
    rwa [List.map_id] at hmap
  have hfound : ∀ claim ∈ members, claimByRef claims claim.observationRef = .ok claim := by
    intro claim hclaim
    obtain ⟨ref, _, href⟩ := exists_of_mem_forall₂ (forall₂_of_mapM h).flip hclaim
    rwa [claimByRef_observationRef href]
  rw [← hrefs]
  apply chunks_map
  intro claim hclaim
  rw [BatchBudgetPolicy.costOf, hfound claim hclaim]

/-- Every batch is a scheduled chunk, and every such chunk has its batch. -/
theorem planGroup_batches {planned : CompactionGroup × List CompactionBatch}
    (h : policy.planGroup sha256Hexdigest claims group = .ok planned) :
    ∃ limit, policy.maxBatchTokensForVariant
        (promptVariantForBatch group policy.promptVariant) = .ok limit ∧
      (∀ batch ∈ planned.2, batch.workflowRunId = group.key.workflowRunId ∧
        batch.groupRef = group.key.groupRef ∧
        ∃ chunk ∈ chunks (policy.costOf claims) limit group.memberObservationRefs,
          (group.memberCount = 1 ∨ 1 < chunk.val.length) ∧
            batch.memberObservationRefs = chunk.val) ∧
      ∀ chunk ∈ chunks (policy.costOf claims) limit group.memberObservationRefs,
        group.memberCount = 1 ∨ 1 < chunk.val.length →
          ∃ batch ∈ planned.2, batch.memberObservationRefs = chunk.val := by
  simp only [BatchBudgetPolicy.planGroup, bind_eq_ok] at h
  obtain ⟨limit, hlimit, members, hmembers, hpure⟩ := h
  simp only [pure, Except.pure, Except.ok.injEq] at hpure
  refine ⟨limit, hlimit, ?_, ?_⟩
  · intro batch hbatch
    rw [← hpure] at hbatch
    obtain ⟨index, hindex, rfl⟩ := List.mem_mapIdx.mp hbatch
    have hchunk := List.getElem_mem hindex
    rw [List.mem_filter, Bool.or_eq_true, decide_eq_true_eq, decide_eq_true_eq] at hchunk
    refine ⟨rfl, rfl, Chunk.map DraftClaimForCompaction.observationRef _, ?_, ?_, rfl⟩
    · rw [chunks_costOf hmembers]
      exact List.mem_map_of_mem hchunk.1
    · rw [Chunk.map, List.length_map]
      exact hchunk.2
  · intro chunk hchunk hscheduled
    rw [chunks_costOf hmembers] at hchunk
    obtain ⟨cut, hcut, rfl⟩ := List.mem_map.mp hchunk
    rw [Chunk.map, List.length_map] at hscheduled
    have hmem : cut ∈ (chunks policy.estimate limit members).filter fun chunk =>
        group.memberCount = 1 || 1 < chunk.val.length := by
      rw [List.mem_filter, Bool.or_eq_true, decide_eq_true_eq, decide_eq_true_eq]
      exact ⟨hcut, hscheduled⟩
    obtain ⟨index, hindex, hget⟩ := List.getElem_of_mem hmem
    refine ⟨policy.batchCandidate sha256Hexdigest group
      (promptVariantForBatch group policy.promptVariant) index cut, ?_, rfl⟩
    rw [← hpure]
    exact List.mem_mapIdx.mpr ⟨index, hindex, by rw [hget]⟩

/-- The plan of a group. -/
theorem planGroup_scheduled {planned : CompactionGroup × List CompactionBatch}
    (h : policy.planGroup sha256Hexdigest claims group = .ok planned) :
    ScheduledWithinBudget policy claims group planned.2 := by
  obtain ⟨limit, hlimit, hbatches, hchunks⟩ := planGroup_batches h
  refine ⟨limit, hlimit, ?_, ?_, ?_, ?_⟩
  · intro batch hbatch
    obtain ⟨hrun, hgroup, chunk, hchunk, _, hmembers⟩ := hbatches batch hbatch
    refine ⟨hrun, hgroup, fun ref href => ?_⟩
    rw [hmembers] at href
    exact mem_of_mem_chunk hchunk href
  · intro ref href
    obtain ⟨chunk, hchunk, hmem⟩ := exists_chunk_of_mem (policy.costOf claims) limit href
    by_cases hscheduled : group.memberCount = 1 ∨ 1 < chunk.val.length
    · obtain ⟨batch, hbatch, hmembers⟩ := hchunks chunk hchunk hscheduled
      rw [← hmembers] at hmem
      exact .inl ⟨batch, hbatch, hmem⟩
    · rw [not_or] at hscheduled
      have hpos := List.length_pos_of_mem hmem
      have hcount : 0 < group.memberCount := List.length_pos_of_mem href
      have hsingle : chunk.val.length = 1 := by omega
      obtain ⟨only, honly⟩ := List.length_eq_one_iff.mp hsingle
      rw [honly, List.mem_singleton] at hmem
      refine .inr ⟨by omega, chunk, hchunk, ?_⟩
      rw [honly, hmem]
  · rw [← @exists_long_chunk_iff _ (policy.costOf claims)]
    constructor
    · intro hne
      obtain ⟨batch, hbatch⟩ := List.exists_mem_of_ne_nil _ hne
      obtain ⟨_, _, chunk, hchunk, hscheduled, _⟩ := hbatches batch hbatch
      exact hscheduled.imp_right fun hlong => ⟨chunk, hchunk, hlong⟩
    · rintro (hone | ⟨chunk, hchunk, hlong⟩)
      · obtain ⟨ref, hrefs⟩ := List.length_eq_one_iff.mp hone
        have href : ref ∈ group.memberObservationRefs := by
          rw [hrefs]
          exact List.mem_singleton_self ref
        obtain ⟨chunk, hchunk, _⟩ := exists_chunk_of_mem (policy.costOf claims) limit href
        obtain ⟨batch, hbatch, _⟩ := hchunks chunk hchunk (.inl hone)
        exact List.ne_nil_of_mem hbatch
      · obtain ⟨batch, hbatch, _⟩ := hchunks chunk hchunk (.inr hlong)
        exact List.ne_nil_of_mem hbatch
  · intro batch hbatch hlong
    obtain ⟨_, _, chunk, hchunk, _, hmembers⟩ := hbatches batch hbatch
    rw [hmembers] at hlong ⊢
    exact total_le_of_mem_chunks hchunk hlong

end Group

/-! The plan of all groups. -/

section Plan

variable {policy : BatchBudgetPolicy} {claims : List DraftClaimForCompaction}
  {groups : List CompactionGroup}

/-- Without a limit of its own the policy needs a prompt variant that has one. -/
def BatchBudgetPolicy.HasBudget (policy : BatchBudgetPolicy) : Prop :=
  policy.maxBatchTokens = none → policy.promptVariant ∈ promptTokensByVariant.map Prod.fst

theorem exists_maxBatchTokens (hbudget : policy.HasBudget) (group : CompactionGroup) :
    ∃ limit, policy.maxBatchTokensForVariant
      (promptVariantForBatch group policy.promptVariant) = .ok limit := by
  unfold BatchBudgetPolicy.maxBatchTokensForVariant
  cases hlimit : policy.maxBatchTokens with
  | some limit => exact ⟨limit, rfl⟩
  | none =>
    have hknown : promptVariantForBatch group policy.promptVariant ∈
        promptTokensByVariant.map Prod.fst := by
      unfold promptVariantForBatch
      split
      · decide
      · exact hbudget hlimit
    have hlookup : ∀ promptVariant ∈ promptTokensByVariant.map Prod.fst,
        ∃ limit, draftClaimCompactionMaxBatchTokens promptVariant = .ok limit := by
      intro promptVariant hmem
      simp only [promptTokensByVariant, List.map_cons, List.map_nil, List.mem_cons,
        List.not_mem_nil, or_false] at hmem
      rcases hmem with rfl | rfl | rfl | rfl | rfl <;> exact ⟨_, rfl⟩
    exact hlookup _ hknown

theorem exists_buildBatches (sha256Hexdigest : String → String)
    (hmembers : ∀ group ∈ groups, ∀ ref ∈ group.memberObservationRefs,
      ∃ claim ∈ claims, claim.observationRef = ref) (hbudget : policy.HasBudget) :
    ∃ plan scheduled, policy.buildBatches sha256Hexdigest claims groups = .ok plan ∧
      plan.batches = List.flatten scheduled ∧
      List.Forall₂ (ScheduledWithinBudget policy claims) groups scheduled := by
  have hplan : ∀ group ∈ groups, ∃ planned,
      policy.planGroup sha256Hexdigest claims group = .ok planned ∧
        ScheduledWithinBudget policy claims group planned.2 := by
    intro group hgroup
    obtain ⟨limit, hlimit⟩ := exists_maxBatchTokens hbudget group
    obtain ⟨members, hfound⟩ := exists_members (hmembers group hgroup)
    have hok : ∃ planned, policy.planGroup sha256Hexdigest claims group = .ok planned := by
      simp only [BatchBudgetPolicy.planGroup, bind_eq_ok]
      exact ⟨_, limit, hlimit, members, hfound, rfl⟩
    obtain ⟨planned, hplanned⟩ := hok
    exact ⟨planned, hplanned, planGroup_scheduled hplanned⟩
  obtain ⟨planned, hplanned, hall⟩ := exists_mapM_eq_ok hplan
  refine ⟨_, planned.map Prod.snd, bind_eq_ok.mpr ⟨planned, hplanned, rfl⟩, rfl, ?_⟩
  rw [List.forall₂_map_right_iff]
  exact hall

end Plan

/-- The clustering handler plans every group within the budget of single claims,
and leaves every claim planned until it is decided. -/
theorem clusterDraftClaims_covers (env : CompactionEnv) (policy : BatchBudgetPolicy)
    (claims : List DraftClaimForCompaction) (groups : List CompactionGroup) (createdAt : Int)
    (state : ReductionState) (hstate : PipelineReachable env state)
    (hmembers : ∀ group ∈ groups, ∀ ref ∈ group.memberObservationRefs,
      ∃ claim ∈ claims, claim.observationRef = ref) (hbudget : policy.HasBudget) :
    ∃ plan seeded, clusterDraftClaims policy env.sha256Hexdigest claims groups createdAt state =
        .ok (plan, seeded) ∧
      (∃ scheduled, plan.batches = List.flatten scheduled ∧
        List.Forall₂ (ScheduledWithinBudget policy claims) groups scheduled) ∧
      ((∀ group ∈ groups, group.Built) → ∀ group ∈ groups, ∀ ref ∈ group.memberObservationRefs,
        StaysPlanned env seeded group.key ref) := by
  obtain ⟨plan, scheduled, hplan, hbatches, hscheduled⟩ :=
    exists_buildBatches env.sha256Hexdigest hmembers hbudget
  have hplanMembers : ∀ planned ∈ plan.groups, ∀ ref ∈ planned.memberObservationRefs,
      ∃ claim ∈ claims, claim.observationRef = ref := by
    intro planned hplanned ref href
    obtain ⟨group, hgroup, _, hrefs⟩ :=
      (BatchBudgetPolicy.exists_mem_plan_iff hplan).mp ⟨planned, hplanned, rfl, rfl⟩
    rw [← hrefs] at href
    exact hmembers group hgroup ref href
  obtain ⟨seeded, hseeded⟩ := exists_seedGroups hplanMembers createdAt state
  have hcluster : clusterDraftClaims policy env.sha256Hexdigest claims groups createdAt state =
      .ok (plan, seeded) := bind_eq_ok.mpr ⟨plan, hplan, bind_eq_ok.mpr ⟨seeded, hseeded, rfl⟩⟩
  refine ⟨plan, seeded, hcluster, ⟨scheduled, hbatches, hscheduled⟩, ?_⟩
  intro hbuilt group hgroup ref href
  have hinvariant : PipelineInvariant env seeded :=
    pipelineInvariant_step (pipelineInvariant_of_reachable hstate)
      (.cluster policy claims groups createdAt hbuilt hcluster)
  apply staysPlanned_of_mem_keys hinvariant (hbuilt group hgroup ref href)
  obtain ⟨planned, hplanned, hkey, hrefs⟩ :=
    (BatchBudgetPolicy.exists_mem_plan_iff hplan).mpr ⟨group, hgroup, rfl, rfl⟩
  rw [← hrefs] at href
  rw [← hkey]
  exact (mem_keys_seedGroups hseeded).mpr (.inr ⟨planned, hplanned, ref, href, rfl⟩)

/-! Two claims of thirty characters each. -/

def shortClaim (ref text : String) (htext : isBlank ref = false) : DraftClaimForCompaction where
  observationRef := ref
  claim := text
  possibleQuestions := ["What is it?"]
  exclusionScope := []
  granularity := "atomic"
  embeddingText := text
  observationRef_text := htext

def shortClaims : List DraftClaimForCompaction :=
  [shortClaim "draft-claim-observation:a1" "alpha" (by decide),
    shortClaim "draft-claim-observation:b2" "gamma" (by decide)]

def shortGroup : CompactionGroup where
  key := ⟨"workflow-1", "draft-claim-compaction-group:c3", by decide, by decide⟩
  memberObservationRefs := ["draft-claim-observation:a1", "draft-claim-observation:b2"]
  artifactTokens := 0
  requiresSplit := false

/-- A character counts as a token. -/
def charPolicy (limit : ℕ) (hlimit : 0 < limit) : BatchBudgetPolicy where
  promptVariant := "draft_vs_draft"
  modelId := primaryDraftClaimCompactionModelId
  maxBatchTokens := some limit
  tokenEstimator := String.length
  promptVariant_text := by decide
  modelId_text := by decide
  maxBatchTokens_pos := by simpa using hlimit

theorem charPolicy_hasBudget (limit : ℕ) (hlimit : 0 < limit) :
    (charPolicy limit hlimit).HasBudget := fun hnone => nomatch hnone

theorem shortGroup_members : ∀ group ∈ [shortGroup], ∀ ref ∈ group.memberObservationRefs,
    ∃ claim ∈ shortClaims, claim.observationRef = ref := by
  simp [shortGroup, shortClaims, shortClaim]

theorem clusterDraftClaims_covers_shortClaims :
    ∃ plan seeded, clusterDraftClaims (charPolicy 60 (by decide)) plainEnv.sha256Hexdigest
        shortClaims [shortGroup] 0 emptyReductionState = .ok (plan, seeded) ∧
      (∃ scheduled, plan.batches = List.flatten scheduled ∧
        List.Forall₂ (ScheduledWithinBudget (charPolicy 60 (by decide)) shortClaims) [shortGroup]
          scheduled) ∧
      ((∀ group ∈ [shortGroup], group.Built) → ∀ group ∈ [shortGroup],
        ∀ ref ∈ group.memberObservationRefs, StaysPlanned plainEnv seeded group.key ref) :=
  clusterDraftClaims_covers plainEnv (charPolicy 60 (by decide)) shortClaims [shortGroup] 0
    emptyReductionState Relation.ReflTransGen.refl shortGroup_members
    (charPolicy_hasBudget 60 (by decide))

/-- The sizes of the planned batches of the two claims, and the seeded nodes. -/
def shortOutcome (limit : ℕ) (hlimit : 0 < limit) : Option (List (ℕ × ℕ) × List (String × Bool)) :=
  (clusterDraftClaims (charPolicy limit hlimit) plainEnv.sha256Hexdigest shortClaims [shortGroup] 0
    emptyReductionState).toOption.map fun outcome =>
      (outcome.1.batches.map fun batch =>
          (batch.memberObservationRefs.length, batch.artifactTokens),
        outcome.2.nodes.rows.map fun row => (row.nodeRef, row.active))

theorem exists_of_shortOutcome {limit : ℕ} {hlimit : 0 < limit} {batches : List (ℕ × ℕ)}
    {nodes : List (String × Bool)} (h : shortOutcome limit hlimit = some (batches, nodes)) :
    ∃ plan seeded, clusterDraftClaims (charPolicy limit hlimit) plainEnv.sha256Hexdigest
        shortClaims [shortGroup] 0 emptyReductionState = .ok (plan, seeded) ∧
      plan.batches.map (fun batch =>
        (batch.memberObservationRefs.length, batch.artifactTokens)) = batches ∧
      seeded.nodes.rows.map (fun row => (row.nodeRef, row.active)) = nodes := by
  obtain ⟨⟨plan, seeded⟩, houtcome, hview⟩ := Option.map_eq_some_iff.mp h
  rw [Prod.mk.injEq] at hview
  refine ⟨plan, seeded, ?_, hview⟩
  cases hcluster : clusterDraftClaims (charPolicy limit hlimit) plainEnv.sha256Hexdigest
      shortClaims [shortGroup] 0 emptyReductionState with
  | error fault =>
    rw [hcluster] at houtcome
    cases houtcome
  | ok outcome =>
    rw [hcluster] at houtcome
    rw [Option.some.inj houtcome]

/-- Claims that do not fit together have active nodes and no batch, and claims
that fit by their single costs are over the limit once they are joined. -/
theorem shortClaims_not_covered :
    (∃ plan seeded, clusterDraftClaims (charPolicy 2 (by decide)) plainEnv.sha256Hexdigest
        shortClaims [shortGroup] 0 emptyReductionState = .ok (plan, seeded) ∧
      plan.batches = [] ∧ ∀ ref ∈ shortGroup.memberObservationRefs,
        ∃ node ∈ seeded.nodes.rows, node.nodeRef = rawClaimNodeRef shortGroup.key ref ∧
          node.active = true) ∧
    ∃ plan seeded, clusterDraftClaims (charPolicy 60 (by decide)) plainEnv.sha256Hexdigest
        shortClaims [shortGroup] 0 emptyReductionState = .ok (plan, seeded) ∧
      ∃ batch ∈ plan.batches, 1 < batch.memberObservationRefs.length ∧
        60 < batch.artifactTokens := by
  constructor
  · have hapart : shortOutcome 2 (by decide) = some ([],
        [(rawClaimNodeRef shortGroup.key "draft-claim-observation:a1", true),
          (rawClaimNodeRef shortGroup.key "draft-claim-observation:b2", true)]) := by
      decide +kernel
    obtain ⟨plan, seeded, hcluster, hbatches, hnodes⟩ := exists_of_shortOutcome hapart
    refine ⟨plan, seeded, hcluster, List.map_eq_nil_iff.mp hbatches, fun ref href => ?_⟩
    have hmem : (rawClaimNodeRef shortGroup.key ref, true) ∈
        seeded.nodes.rows.map fun row => (row.nodeRef, row.active) := by
      rw [hnodes]
      simp only [shortGroup, List.mem_cons, List.not_mem_nil, or_false] at href
      rcases href with rfl | rfl
      · exact List.mem_cons_self
      · exact List.mem_cons_of_mem _ List.mem_cons_self
    obtain ⟨node, hnode, hview⟩ := List.mem_map.mp hmem
    rw [Prod.mk.injEq] at hview
    exact ⟨node, hnode, hview⟩
  · have hjoined : shortOutcome 60 (by decide) = some ([(2, 62)],
        [(rawClaimNodeRef shortGroup.key "draft-claim-observation:a1", true),
          (rawClaimNodeRef shortGroup.key "draft-claim-observation:b2", true)]) := by
      decide +kernel
    obtain ⟨plan, seeded, hcluster, hbatches, _⟩ := exists_of_shortOutcome hjoined
    have hmem : (2, 62) ∈ plan.batches.map fun batch =>
        (batch.memberObservationRefs.length, batch.artifactTokens) := by
      rw [hbatches]
      exact List.mem_singleton_self _
    obtain ⟨batch, hbatch, hview⟩ := List.mem_map.mp hmem
    rw [Prod.mk.injEq] at hview
    refine ⟨plan, seeded, hcluster, batch, hbatch, ?_, ?_⟩
    · rw [hview.1]
      omega
    · rw [hview.2]
      omega

end CrmBot.Compaction
