import CrmBot.Compaction.ExecuteCompaction

/-! When an accepted compaction output covers the scheduled input.

The payload of a reduction work item has neither the claims of its prompt nor an
output kind, so its output is validated as compacted claims against the claims it
names itself. -/

namespace CrmBot.Compaction

open Relational CrmBot.Python FailingFold

variable {loads : String → Option PyValue} {attempt : StartedAttempt}

/-! The shortest output: one claim with one reference. -/

def oneClaimFields (ref : String) : Payload := [
  ("claim", .str "One draft claim."),
  ("claim_kind", .str "other"),
  ("key", .str "one"),
  ("merge_decision", .str "unmerged"),
  ("source_claim_refs", .list [.str ref]),
  ("triples", .list [])]

def oneClaimOutput (ref : String) : Payload :=
  [("compacted_claims", .list [.dict (oneClaimFields ref)])]

def oneClaim (ref : String) (href : isBlank ref = false) : DraftClaimCompactionOutputClaim where
  key := "one"
  claim := "One draft claim."
  claimKind := .other
  sourceClaimRefs := [ref]
  triples := []
  mergeDecision := .unmerged
  key_text := by decide
  claim_text := by decide
  sourceClaimRefs_text := nonblank_singleton href
  sourceClaimRefs_ne_nil := List.cons_ne_nil _ _
  sourceClaimRefs_nodup := List.nodup_singleton _

theorem validateCompactedClaim_oneClaim {allowed seen : List String} {ref : String}
    (href : isBlank ref = false) (hallowed : ref ∈ allowed) (hfresh : ref ∉ seen) (index : Nat) :
    validateCompactedClaim allowed seen index (.dict (oneClaimFields ref)) =
      .ok (seen ++ [ref], oneClaim ref href) := by
  have hforbidden : ∀ location, rejectForbiddenFields (oneClaimFields ref) location = .ok () :=
    fun _ => rfl
  have hfields : fieldsAre
      ["key", "claim", "claim_kind", "source_claim_refs", "triples", "merge_decision"]
      (oneClaimFields ref) = true := rfl
  have hrefs : ∀ field, stringList (Payload.get (oneClaimFields ref) "source_claim_refs") field =
      .ok [ref] := by
    intro field
    simp [stringList, stringItem, oneClaimFields, Payload.get, href, bind, Except.bind, pure,
      Except.pure]
  have hseen : [ref].foldlM (takeSourceRef allowed) seen = .ok (seen ++ [ref]) := by
    simp [takeSourceRef, hallowed, hfresh, bind, Except.bind, pure, Except.pure]
  have hdecision : ∀ field, mergeDecisionValue (Payload.get (oneClaimFields ref) "merge_decision")
      field = .ok .unmerged := fun _ => rfl
  have hcheck : checkMergeDecision [ref] .unmerged = .ok () := rfl
  have hkey : ∀ field, nonEmptyString (Payload.get (oneClaimFields ref) "key") field =
      .ok "one" := fun _ => rfl
  have hclaim : ∀ field, nonEmptyString (Payload.get (oneClaimFields ref) "claim") field =
      .ok "One draft claim." := fun _ => rfl
  have hkind : ∀ field, claimKindValue (Payload.get (oneClaimFields ref) "claim_kind") field =
      .ok .other := fun _ => rfl
  have htriples : ∀ field, triplesValue (Payload.get (oneClaimFields ref) "triples") field =
      .ok [] := fun _ => rfl
  have hmake : DraftClaimCompactionOutputClaim.make "one" "One draft claim." .other
      [ref] [] .unmerged = .ok (oneClaim ref href) := by
    have hkeyText : isBlank "one" = false := by decide
    have hclaimText : isBlank "One draft claim." = false := by decide
    simp [DraftClaimCompactionOutputClaim.make, hkeyText, hclaimText, href, oneClaim]
  simp only [validateCompactedClaim, hforbidden, hfields, hrefs, hseen, hdecision, hcheck, hkey,
    hclaim, hkind, htriples, hmake, requireThat, List.isEmpty_cons, Bool.not_false, if_true, bind,
    Except.bind, pure, Except.pure]

theorem validateCompactionOutput_oneClaim {ref : String} (href : isBlank ref = false) :
    validateCompactionOutput (oneClaimOutput ref) [ref] = .ok [oneClaim ref href] := by
  have hinput : validateInputRefs [ref] = .ok () := by
    simp [validateInputRefs, requireThat, href, bind, Except.bind]
  have hforbidden : rejectForbiddenFields (oneClaimOutput ref) "top-level output" = .ok () := rfl
  have hfields : fieldsAre ["compacted_claims"] (oneClaimOutput ref) = true := rfl
  have hitems : compactedClaimItems (Payload.get (oneClaimOutput ref) "compacted_claims") =
      .ok [.dict (oneClaimFields ref)] := rfl
  have hloop : [PyValue.dict (oneClaimFields ref)].zipIdx.foldlM (validateClaimStep [ref])
      ([], []) = .ok ([ref], [oneClaim ref href]) := by
    have hclaim := validateCompactedClaim_oneClaim href (List.mem_singleton_self ref)
      List.not_mem_nil 0
    simp [validateClaimStep, hclaim, bind, Except.bind, pure, Except.pure]
  simp only [validateCompactionOutput, hinput, hforbidden, hfields, hitems, hloop, requireThat,
    if_true, List.all_cons, List.all_nil, List.contains_cons, List.contains_nil, beq_self_eq_true,
    Bool.true_or, Bool.and_true, bind, Except.bind, pure, Except.pure]

/-- Without claims in the command and in the schedule payload an output is
checked against itself. -/
theorem validateDispatchOutput_own {schedulePayload decoded : Payload} {output : Option Payload}
    {claims : List DraftClaimCompactionOutputClaim}
    (hclaims : schedulePayload.get "source_claim_refs" = none)
    (hpayload : schedulePayload.get "payload" = none)
    (hdecoded : decodedOutputPayload loads output = .ok decoded)
    (hown : sourceRefsFromCompactedOutput decoded ≠ [])
    (hvalid : validateCompactionOutput decoded (sourceRefsFromCompactedOutput decoded) =
      .ok claims) :
    validateDispatchOutput loads ⟨.compactedClaims, []⟩ schedulePayload output =
      .ok (.compactedClaims claims) := by
  have hrefs : inputClaimRefs schedulePayload decoded =
      .ok (sourceRefsFromCompactedOutput decoded) := by
    cases hrefs : sourceRefsFromCompactedOutput decoded with
    | nil => exact absurd hrefs hown
    | cons first rest =>
      simp [inputClaimRefs, mappingTextTuple, hclaims, hpayload, hrefs, bind, Except.bind]
  simp only [validateDispatchOutput, hdecoded, checkedAgainst, if_true, hrefs, hvalid, bind,
    Except.bind, pure, Except.pure]

/-! A reduction work item. -/

/-- A scheduled work item has the payload of its prompt, and its nodes have
references. -/
theorem scheduleNextWork_eq_some {env : PromptEnv} {state : ReductionState}
    {observations : Observations} {group : GroupKey} {item : NextWorkItem} {plan : ScheduledPlan}
    (h : scheduleNextWork env state observations group item = .ok (some plan)) :
    (∀ nodeRef ∈ item.nodeRefs, isBlank nodeRef = false) ∧
      ∃ messages, plan.payload = nextWorkPayload group item messages := by
  unfold scheduleNextWork at h
  split at h
  · cases h
  next hblank =>
  have htext : ∀ nodeRef ∈ item.nodeRefs, isBlank nodeRef = false := by
    intro nodeRef hmem
    by_contra hne
    exact hblank (List.any_eq_true.mpr ⟨nodeRef, hmem, Bool.not_eq_false _ ▸ hne⟩)
  split at h
  · cases h
  split at h
  · cases h
  split at h
  · cases h
  · simp only [bind_eq_ok] at h
    obtain ⟨messages, _, hpure⟩ := h
    simp only [pure, Except.pure, Except.ok.injEq, Option.some.injEq] at hpure
    exact ⟨htext, messages, by rw [← hpure]⟩

theorem nextBatchRef_text {groupRef : String} (hgroup : isBlank groupRef = false)
    (workType : String) (nodeRefs : List String) :
    isBlank (nextBatchRef groupRef workType nodeRefs) = false := by
  unfold isBlank at hgroup ⊢
  simp [nextBatchRef, String.toList_append, List.all_append, hgroup]

section Reduction

variable (group : GroupKey) (item : NextWorkItem) (messages : PyValue)

/-- The command of a reduction work item asks for compacted claims, of whatever
type the work is, and names no claims. -/
theorem startedAttemptPayload_nextWorkPayload
    (htext : ∀ nodeRef ∈ item.nodeRefs, isBlank nodeRef = false) :
    startedAttemptPayload attempt (nextWorkPayload group item messages) =
      .ok (executeCommandPayload attempt group.groupRef
        (nextBatchRef group.groupRef item.workType.value item.nodeRefs) "compacted_claims" (.int 0)
        [("source_node_refs", .list (item.nodeRefs.map .str))]) := by
  have hgroup : (nextWorkPayload group item messages).get "group_ref" =
      some (.str group.groupRef) := by
    simp [nextWorkPayload, Payload.get]
  have hbatch : (nextWorkPayload group item messages).get "batch_ref" =
      some (.str (nextBatchRef group.groupRef item.workType.value item.nodeRefs)) := by
    simp [nextWorkPayload, Payload.get]
  have hround : (nextWorkPayload group item messages).get "round_index" = none := by
    simp [nextWorkPayload, Payload.get]
  have hkind : (nextWorkPayload group item messages).get "expected_output_kind" = none := by
    simp [nextWorkPayload, Payload.get]
  have hleft : (nextWorkPayload group item messages).get "left_node_ref" = none := by
    simp [nextWorkPayload, Payload.get]
  have hright : (nextWorkPayload group item messages).get "right_node_ref" = none := by
    simp [nextWorkPayload, Payload.get]
  have hclaims : copiedTextList (nextWorkPayload group item messages) "source_claim_refs" =
      .ok [] := by
    simp [copiedTextList, payloadGet, nextWorkPayload, Payload.get]
  have hmembers : (nextWorkPayload group item messages).get "source_node_refs" =
      some (.list (item.nodeRefs.map .str)) := by
    simp [nextWorkPayload, Payload.get]
  have hnodes := copiedTextList_of_list hmembers htext
  rw [startedAttemptPayload_eq hgroup group.groupRef_text hbatch
    (nextBatchRef_text group.groupRef_text _ _) hround hkind hleft hright hclaims hnodes,
    List.nil_append]

/-- A reduction work item is executed against no claims in particular. -/
theorem executeCompaction_reduction {plan : ScheduledPlan}
    (hplan : plan.payload = nextWorkPayload group item messages)
    (htext : ∀ nodeRef ∈ item.nodeRefs, isBlank nodeRef = false) (output : Option Payload) :
    executeCompaction loads .startedAttempts attempt plan output =
      .ok (validateDispatchOutput loads ⟨.compactedClaims, []⟩ plan.payload output) := by
  have hclaims : payloadTextTuple (executeCommandPayload attempt group.groupRef
      (nextBatchRef group.groupRef item.workType.value item.nodeRefs) "compacted_claims" (.int 0)
      [("source_node_refs", .list (item.nodeRefs.map .str))]) "source_claim_refs" = .ok [] := by
    simp [payloadTextTuple, payloadGet, executeCommandPayload, executeCommandFields,
      Payload.update, Payload.get_ofEntries]
  have hread := readExecuteCompaction_executeCommandPayload group.groupRef_text
    (nextBatchRef_text group.groupRef_text item.workType.value item.nodeRefs) 0 (by simp) hclaims
  simp only [executeCompaction, ExecuteCommandBuilder.payload, hplan,
    startedAttemptPayload_nextWorkPayload group item messages htext, hread, bind, Except.bind,
    pure, Except.pure]

/-- A reduction work item accepts every output that is valid against its own
references. -/
theorem accepts_own {plan : ScheduledPlan}
    (hplan : plan.payload = nextWorkPayload group item messages)
    (htext : ∀ nodeRef ∈ item.nodeRefs, isBlank nodeRef = false) {decoded : Payload}
    {output : Option Payload} {claims : List DraftClaimCompactionOutputClaim}
    (hdecoded : decodedOutputPayload loads output = .ok decoded)
    (hown : sourceRefsFromCompactedOutput decoded ≠ [])
    (hvalid : validateCompactionOutput decoded (sourceRefsFromCompactedOutput decoded) =
      .ok claims) :
    Accepts loads .startedAttempts attempt plan output (.compactedClaims claims) := by
  unfold Accepts
  rw [executeCompaction_reduction group item messages hplan htext, hplan]
  have hclaims : (nextWorkPayload group item messages).get "source_claim_refs" = none := by
    simp [nextWorkPayload, Payload.get]
  have hpayload : (nextWorkPayload group item messages).get "payload" = none := by
    simp [nextWorkPayload, Payload.get]
  rw [validateDispatchOutput_own hclaims hpayload hdecoded hown hvalid]

/-- Whatever claim an output names alone, a reduction work item accepts it. -/
theorem accepts_oneClaim {plan : ScheduledPlan}
    (hplan : plan.payload = nextWorkPayload group item messages)
    (htext : ∀ nodeRef ∈ item.nodeRefs, isBlank nodeRef = false) {output : Option Payload}
    {ref : String} (href : isBlank ref = false)
    (hdecoded : decodedOutputPayload loads output = .ok (oneClaimOutput ref)) :
    Accepts loads .startedAttempts attempt plan output
      (.compactedClaims [oneClaim ref href]) := by
  have hown : sourceRefsFromCompactedOutput (oneClaimOutput ref) = [ref] := by
    simp [sourceRefsFromCompactedOutput, oneClaimOutput, oneClaimFields, outputClaimRefs,
      nonBlankText?, Payload.get, href]
  refine accepts_own group item messages hplan htext hdecoded ?_ ?_
  · rw [hown]
    exact List.cons_ne_nil _ _
  · rw [hown]
    exact validateCompactionOutput_oneClaim href

end Reduction

/-- An output that is accepted and names a claim outside the scheduled input. -/
theorem exists_accepted_not_coversInput {env : PromptEnv} {state : ReductionState}
    {observations : Observations} {group : GroupKey} {item : NextWorkItem} {plan : ScheduledPlan}
    (hplan : scheduleNextWork env state observations group item = .ok (some plan)) :
    ∃ output accepted, Accepts loads .startedAttempts attempt plan output accepted ∧
      ¬CoversInput (.reduction state observations group item) accepted := by
  obtain ⟨htext, messages, hpayload⟩ := scheduleNextWork_eq_some hplan
  obtain ⟨ref, href, hne⟩ : ∃ ref, isBlank ref = false ∧
      (CompactionWork.reduction state observations group item).inputClaims ≠ [ref] := by
    by_cases hfirst : (CompactionWork.reduction state observations group item).inputClaims =
        ["first"]
    · refine ⟨"second", by decide, ?_⟩
      rw [hfirst]
      simp
    · exact ⟨"first", by decide, hfirst⟩
  have hdecoded : decodedOutputPayload loads (some (oneClaimOutput ref)) =
      .ok (oneClaimOutput ref) := rfl
  refine ⟨_, _, accepts_oneClaim group item messages hpayload htext href hdecoded, ?_⟩
  rintro ⟨_, hperm⟩
  have hsingle : [ref].Perm (CompactionWork.reduction state observations group item).inputClaims :=
    hperm
  exact hne (List.perm_singleton.mp hsingle.symm)

/-- Every accepted output of a scheduled work item covers its input exactly when
the clustering handler scheduled it, or no execute command can be built for it. -/
theorem accepted_coversInput_iff (env : PromptEnv) (loads : String → Option PyValue)
    (builder : ExecuteCommandBuilder) (attempt : StartedAttempt) (work : CompactionWork)
    (plan : ScheduledPlan) (hplan : work.plan env = .ok (some plan)) :
    (∀ output accepted, Accepts loads builder attempt plan output accepted →
      CoversInput work accepted) ↔
    work.IsClustering ∨ builder = .planApplier := by
  cases builder with
  | planApplier =>
    have hkind : plan.payload.get "expected_output_kind" = none := by
      cases work with
      | clustering batch claims =>
        simp only [CompactionWork.plan, Except.ok.injEq, Option.some.injEq] at hplan
        rw [← hplan]
        simp [clusterPlan, Payload.get]
      | reduction state observations group item =>
        obtain ⟨_, messages, hpayload⟩ := scheduleNextWork_eq_some hplan
        rw [hpayload]
        simp [nextWorkPayload, Payload.get]
    refine ⟨fun _ => .inr rfl, fun _ output accepted haccepts => ?_⟩
    simp only [Accepts, executeCompaction, bind_eq_ok] at haccepts
    obtain ⟨payload, hbuilt, _⟩ := haccepts
    exact absurd hbuilt (admittedItemPayload_ne_ok hkind)
  | startedAttempts =>
    cases work with
    | clustering batch claims =>
      refine ⟨fun _ => .inl trivial, fun _ output accepted haccepts => ?_⟩
      simp only [CompactionWork.plan, Except.ok.injEq, Option.some.injEq] at hplan
      rw [← hplan] at haccepts
      exact coversInput_of_clustering env haccepts
    | reduction state observations group item =>
      refine ⟨fun hcovers => ?_, fun h => ?_⟩
      · obtain ⟨output, accepted, haccepts, hnot⟩ : ∃ output accepted,
            Accepts loads .startedAttempts attempt plan output accepted ∧
              ¬CoversInput (.reduction state observations group item) accepted :=
          exists_accepted_not_coversInput hplan
        exact absurd (hcovers output accepted haccepts) hnot
      · rcases h with hclustering | hbuilder
        · exact hclustering.elim
        · cases hbuilder

/-! A group of two drafts. -/

def draftGroup : GroupKey := ⟨"w", "g", Eq.refl false, Eq.refl false⟩

def draftRef (digest : String) : String := "draft-claim-observation:" ++ digest

def draftNode (digest : String) : NodeRow :=
  { nodeRef := rawClaimNodeRef draftGroup (draftRef digest), group := draftGroup, nodeKind := .raw
    active := true, sourceClaimRefs := [draftRef digest], supersedesNodeRefs := []
    artifactTokens := 40, compacted := none, createdAt := 0, updatedAt := 0 }

def twoDrafts : ReductionState where
  nodes := ⟨[draftNode "1", draftNode "2"], by decide⟩
  nodeSources := .empty
  comparisons := .empty
  components := .empty
  incompatibilities := .empty
  separationEdges := .empty

def draftObservation (digest : String) : DraftClaimObservation :=
  { observationRef := draftRef digest, claim := "One draft claim.", granularity := "atomic"
    possibleQuestions := [], exclusionScope := "", evidenceBlock := "evidence"
    observationRef_form := ⟨digest, rfl⟩ }

def draftObservations : Observations := ⟨[draftObservation "1", draftObservation "2"], by decide⟩

def compareDrafts : NextWorkItem :=
  { workType := .draftVsDraft, nodeRefs := [(draftNode "1").nodeRef, (draftNode "2").nodeRef]
    promptTokens := 2050, artifactTokens := 80, inputTokens := 2130, requiredWindowTokens := 2510 }

def plainPrompts : PromptEnv := ⟨id, fun _ => "payload"⟩

def draftAttempt : StartedAttempt :=
  ⟨"w", "attempt", "item", Eq.refl false, Eq.refl false, Eq.refl false⟩

/-- The reader of a provider that answers with one claim of the first draft. -/
def loadsOneClaim (_rawText : String) : Option PyValue :=
  some (.dict (oneClaimOutput (draftRef "1")))

def draftBatch : CompactionBatch :=
  { batchRef := "batch", workflowRunId := "w", groupRef := "g"
    promptVariant := "single_draft_claim_enrichment", modelId := primaryDraftClaimCompactionModelId
    artifactTokens := 40, memberObservationRefs := [draftRef "1"]
    batchRef_text := Eq.refl false, groupRef_text := Eq.refl false
    members_ne_nil := List.cons_ne_nil _ _, members_text := by decide }

theorem accepted_coversInput_iff_batch :
    ∃ plan, (CompactionWork.clustering draftBatch []).plan plainPrompts = .ok (some plan) ∧
      ((∀ output accepted,
        Accepts loadsOneClaim .startedAttempts draftAttempt plan output accepted →
        CoversInput (.clustering draftBatch []) accepted) ↔
      (CompactionWork.clustering draftBatch []).IsClustering ∨
        ExecuteCommandBuilder.startedAttempts = .planApplier) :=
  ⟨_, rfl, accepted_coversInput_iff plainPrompts loadsOneClaim .startedAttempts draftAttempt
    (.clustering draftBatch []) _ rfl⟩

/-- The planner compares the two drafts, and an output with the first of them
alone is accepted. -/
theorem compareDrafts_accepts_omission :
    (loadPlannerState twoDrafts draftGroup).map
      (fun planner => (planNextStep planner).nextWorkItem) =
        some compareDrafts ∧
      (CompactionWork.reduction twoDrafts draftObservations draftGroup compareDrafts).inputClaims =
        [draftRef "1", draftRef "2"] ∧
      ∃ plan accepted,
        (CompactionWork.reduction twoDrafts draftObservations draftGroup compareDrafts).plan
          plainPrompts = .ok (some plan) ∧
        Accepts loadsOneClaim .startedAttempts draftAttempt plan
          (some [("raw_text", .str "one claim")]) accepted ∧
        ¬CoversInput (.reduction twoDrafts draftObservations draftGroup compareDrafts)
          accepted := by
  refine ⟨by decide +kernel, by decide +kernel, ?_⟩
  have href : isBlank (draftRef "1") = false := by decide
  refine ⟨_, _, rfl, accepts_oneClaim draftGroup compareDrafts _ rfl (by decide) href rfl, ?_⟩
  rintro ⟨_, hperm⟩
  have hinput : (CompactionWork.reduction twoDrafts draftObservations draftGroup
      compareDrafts).inputClaims = [draftRef "1", draftRef "2"] := by decide +kernel
  have hlength := hperm.length_eq
  rw [hinput] at hlength
  cases hlength

end CrmBot.Compaction
