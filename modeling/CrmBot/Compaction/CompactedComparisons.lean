import CrmBot.Compaction.InputCoverage
import CrmBot.Compaction.OutputEnricher
import CrmBot.Compaction.ReductionRuns

/-! Comparisons that involve compacted nodes.

The prompt names a compacted node by its reference, while the apply step takes
every reference of an output for an observation. No observation is called like a
compacted node, so no such comparison is ever applied. -/

namespace CrmBot.Compaction

open Relational CrmBot.Python FailingFold

/-! The prompt of a comparison. -/

/-- A loaded node is found under its own reference. -/
theorem nodeByRef_loadedNodes {state : ReductionState} {group : GroupKey} {planner : PlannerState}
    (h : loadPlannerState state group = some planner) {row : NodeRow} (hrow : row ∈ planner.nodes) :
    nodeByRef planner.nodes row.nodeRef = some row := by
  unfold nodeByRef
  cases hfind : planner.nodes.find? fun node => node.nodeRef = row.nodeRef with
  | none => simpa using List.find?_eq_none.mp hfind row hrow
  | some found =>
    have hfound := (mem_loadedNodes h).mp (List.mem_of_find?_eq_some hfind)
    have href : found.nodeRef = row.nodeRef := by simpa using List.find?_some hfind
    rw [Table.eq_of_key_eq state.nodes hfound.1 ((mem_loadedNodes h).mp hrow).1 href]

section Prompt

variable {nodes : List NodeRow} {before after : List PromptClaim × List String} {nodeRef : String}

/-- What a node adds goes behind what is there. -/
theorem collectPromptNode_keeps (h : collectPromptNode nodes before nodeRef = .ok after)
    {claim : PromptClaim} (hclaim : claim ∈ before.1) : claim ∈ after.1 := by
  unfold collectPromptNode at h
  split at h
  · simp only [Except.ok.injEq] at h
    rw [← h]
    exact hclaim
  · split at h
    · cases h
    · split at h
      · simp only [Except.ok.injEq] at h
        rw [← h]
        exact List.mem_append_left _ hclaim
      · cases h
      · simp only [Except.ok.injEq] at h
        rw [← h]
        exact hclaim

/-- A compacted node is shown under its own reference. -/
theorem collectPromptNode_compacted (h : collectPromptNode nodes before nodeRef = .ok after)
    {node : NodeRow} (hnode : nodeByRef nodes nodeRef = some node)
    (hkind : node.nodeKind = .compacted) : node.nodeRef ∈ after.1.map PromptClaim.claimId := by
  simp only [collectPromptNode, hnode, hkind] at h
  split at h
  · cases h
  · cases hclaim : node.compacted with
    | none => simp [hclaim] at h
    | some claim =>
      simp only [hclaim, Except.ok.injEq] at h
      rw [← h]
      simp

/-- After all nodes every compacted one of them is shown. -/
theorem collectPromptNodes_compacted {nodeRefs : List String}
    (h : nodeRefs.foldlM (collectPromptNode nodes) before = .ok after) (href : nodeRef ∈ nodeRefs)
    {node : NodeRow} (hnode : nodeByRef nodes nodeRef = some node)
    (hkind : node.nodeKind = .compacted) : node.nodeRef ∈ after.1.map PromptClaim.claimId := by
  have hkeeps : ∀ {refs : List String} {first : List PromptClaim × List String},
      refs.foldlM (collectPromptNode nodes) first = .ok after →
      node.nodeRef ∈ first.1.map PromptClaim.claimId →
      node.nodeRef ∈ after.1.map PromptClaim.claimId := by
    intro refs
    induction refs with
    | nil =>
      intro first hrun hmem
      simp only [List.foldlM_nil, pure, Except.pure, Except.ok.injEq] at hrun
      rwa [← hrun]
    | cons ref rest ih =>
      intro first hrun hmem
      rw [List.foldlM_cons, bind_eq_ok] at hrun
      obtain ⟨middle, hstep, hrest⟩ := hrun
      obtain ⟨claim, hclaim, hid⟩ := List.mem_map.mp hmem
      exact ih hrest (List.mem_map.mpr ⟨claim, collectPromptNode_keeps hstep hclaim, hid⟩)
  induction nodeRefs generalizing before with
  | nil => cases href
  | cons ref rest ih =>
    rw [List.foldlM_cons, bind_eq_ok] at h
    obtain ⟨middle, hstep, hrest⟩ := h
    rcases List.mem_cons.mp href with rfl | hmem
    · exact hkeeps hrest (collectPromptNode_compacted hstep hnode hkind)
    · exact ih hrest hmem

end Prompt

/-- The work types of comparisons with a compacted node. -/
def ComparesCompacted (workType : NextWorkItemType) : Prop :=
  workType = .mixed ∨ workType = .compactedVsCompacted

/-- One of the two nodes of such a comparison is compacted. -/
theorem exists_compacted_of_proposes {planner : PlannerState} {item : NextWorkItem}
    {left right : NodeRow} (hproposes : ProposesComparison planner item left right)
    (htype : ComparesCompacted item.workType) :
    ∃ node ∈ planner.nodes, node.nodeKind = .compacted ∧ node.nodeRef ∈ item.nodeRefs := by
  rw [hproposes.nodeRefs_eq]
  have hpair := hproposes.workType_eq
  cases hleft : left.nodeKind with
  | compacted => exact ⟨left, hproposes.left_mem, hleft, by simp⟩
  | raw =>
    cases hright : right.nodeKind with
    | compacted => exact ⟨right, hproposes.right_mem, hright, by simp⟩
    | raw =>
      simp only [pairWorkType, hleft, hright] at hpair
      rcases htype with hmixed | hcompacted
      · cases hmixed.symm.trans hpair
      · cases hcompacted.symm.trans hpair

/-- The prompt of a planned comparison with a compacted node shows the reference
of a compacted node of the group. -/
theorem exists_compacted_inputClaim {promptEnv : PromptEnv} {state : ReductionState}
    {observations : Observations} {group : GroupKey} {planner : PlannerState} {plan : ScheduledPlan}
    (hplanner : loadPlannerState state group = some planner)
    (htype : ComparesCompacted (planNextStep planner).nextWorkItem.workType)
    (hplan : scheduleNextWork promptEnv state observations group
      (planNextStep planner).nextWorkItem = .ok (some plan)) :
    ∃ node ∈ state.nodes.rows, node.nodeKind = .compacted ∧
      node.nodeRef ∈ (CompactionWork.reduction state observations group
        (planNextStep planner).nextWorkItem).inputClaims := by
  generalize hitem : (planNextStep planner).nextWorkItem = item at htype hplan
  have hrewrite : item.workType ≠ .reducedRewrite := by
    rcases htype with h | h
    · rw [h]
      decide
    · rw [h]
      decide
  obtain ⟨left, right, hproposes⟩ : ∃ left right, ProposesComparison planner item left right := by
    have hcases := planNextStep_cases planner
    rw [hitem] at hcases
    rcases hcases with hdone | hwait | hrewrites | hcompares
    · rcases htype with h | h <;> cases h.symm.trans hdone
    · rcases htype with h | h <;> cases h.symm.trans hwait
    · exact absurd hrewrites.1 hrewrite
    · exact hcompares
  obtain ⟨node, hnode, hkind, href⟩ := exists_compacted_of_proposes hproposes htype
  refine ⟨node, ((mem_loadedNodes hplanner).mp hnode).1, hkind, ?_⟩
  have hmessages : ∃ claims, comparisonPromptClaims planner observations item = .ok claims := by
    unfold scheduleNextWork at hplan
    split at hplan
    · cases hplan
    split at hplan
    · cases hplan
    split at hplan
    · cases hplan
    rw [hplanner] at hplan
    simp only [nextWorkProviderMessages, if_neg hrewrite, bind_eq_ok] at hplan
    obtain ⟨_, ⟨claims, hclaims, _⟩, _⟩ := hplan
    exact ⟨claims, hclaims⟩
  obtain ⟨claims, hclaims⟩ := hmessages
  simp only [CompactionWork.inputClaims, if_neg hrewrite, hplanner, hclaims]
  simp only [comparisonPromptClaims, bind_eq_ok] at hclaims
  obtain ⟨⟨shown, refs⟩, hcollect, raw, _, hpure⟩ := hclaims
  simp only [pure, Except.pure, Except.ok.injEq] at hpure
  rw [← hpure, List.map_append, List.mem_append]
  exact .inl (collectPromptNodes_compacted hcollect href
    (nodeByRef_loadedNodes hplanner hnode) hkind)

/-! The apply step. -/

/-- No observation is called like a compacted node. -/
theorem compactedClaimNodeRef_notMem_keys (env : CompactionEnv) (group : GroupKey)
    (sourceClaimRefs : List String) (observations : Observations) :
    compactedClaimNodeRef env group sourceClaimRefs ∉ observations.keys := by
  intro hmem
  obtain ⟨observation, _, href⟩ := Table.mem_keys.mp hmem
  obtain ⟨digest, hform⟩ := observation.observationRef_form
  have hchars := congrArg String.toList (hform.symm.trans href)
  simp [compactedClaimNodeRef, String.toList_append] at hchars

/-- No output of a planned comparison with a compacted node, partitioning the
claims of its prompt, is accepted and then applied, to whatever state the group
has come to by then. -/
theorem compactedComparison_never_applied (env : CompactionEnv) (promptEnv : PromptEnv)
    (loads : String → Option PyValue) (builder : ExecuteCommandBuilder) (attempt : StartedAttempt)
    (ids : ApplyIds) (state later : ReductionState) (observations laterObservations : Observations)
    (group : GroupKey) (planner : PlannerState) (plan : ScheduledPlan) (executePayload : Payload)
    (output : Option Payload) (hreach : Reachable env state)
    (hplanner : loadPlannerState state group = some planner)
    (htype : ComparesCompacted (planNextStep planner).nextWorkItem.workType)
    (hplan : scheduleNextWork promptEnv state observations group
      (planNextStep planner).nextWorkItem = .ok (some plan)) :
    ¬∃ accepted applied,
      Accepts loads builder attempt plan output (.compactedClaims accepted) ∧
      (accepted.flatMap (·.sourceClaimRefs)).Perm (CompactionWork.reduction state observations group
        (planNextStep planner).nextWorkItem).inputClaims ∧
      applyAccepted env later laterObservations group ids executePayload plan.payload accepted =
        .ok applied := by
  rintro ⟨accepted, ⟨after, decision⟩, _, hperm, happlied⟩
  obtain ⟨node, hnode, hkind, hshown⟩ := exists_compacted_inputClaim hplanner htype hplan
  have hobserved := observed_of_applyAccepted happlied (hperm.mem_iff.mpr hshown)
  have hnamed := nodesNamed_of_reachable hreach node hnode
  unfold NodeRow.Named at hnamed
  simp only [hkind] at hnamed
  rw [hnamed] at hobserved
  exact compactedClaimNodeRef_notMem_keys env node.group node.sourceClaimRefs laterObservations
    hobserved

/-! Two of three drafts were merged. -/

/-- SHA-256 on the one text that the state below hashes. -/
def draftEnv : CompactionEnv where
  sha256Hexdigest _ := "65e15613d2fddb7fe322f6393986a5b418395f0184afccb4deab479b83bf5d55"
  estimatedCompactedClaimTokens _ := 90

def threeDrafts : ReductionState :=
  (seedInitialPlannerState emptyReductionState draftGroup
    [⟨draftRef "1", 40⟩, ⟨draftRef "2", 40⟩, ⟨draftRef "3", 40⟩] 0).2

/-- The first two of three drafts are one claim. -/
def mergeTwoDrafts : ApplyCompactedClaims :=
  { group := draftGroup, batchRef := "batch", workItemId := "item", roundIndex := 0
    comparedNodeRefs := [(draftNode "1").nodeRef, (draftNode "2").nodeRef], createdAt := 1
    compactedClaims := [
      { key := "one", claim := "One draft claim.", claimKind := .other, granularity := .atomic
        sourceClaimRefs := [draftRef "1", draftRef "2"], triples := [], mergeDecision := .merged
        possibleQuestions := [], exclusionScope := "", evidenceBlock := "evidence"
        sourceClaimRefs_ne_nil := by decide, sourceClaimRefs_nodup := by decide
        sourceClaimRefs_text := by decide }] }

def mergedDrafts : ReductionState :=
  match applyCompactedClaimsResult draftEnv threeDrafts mergeTwoDrafts with
  | .ok applied => applied.2
  | .error _ => emptyReductionState

theorem mergedDrafts_reachable : Reachable draftEnv mergedDrafts := by
  have hsome : (applyCompactedClaimsResult draftEnv threeDrafts
      mergeTwoDrafts).toOption.isSome = true := by decide +kernel
  cases happly : applyCompactedClaimsResult draftEnv threeDrafts mergeTwoDrafts with
  | error fault => simp [happly, Except.toOption] at hsome
  | ok applied =>
    have hmerged : mergedDrafts = applied.2 := by
      simp only [mergedDrafts, happly]
    rw [hmerged]
    exact .tail (.tail .refl (.seed draftGroup _ 0)) (.compacted mergeTwoDrafts happly)

def threeObservations : Observations :=
  ⟨[draftObservation "1", draftObservation "2", draftObservation "3"], by decide⟩

def mergedDraftRef : String :=
    compactedClaimNodeRef draftEnv draftGroup [draftRef "1", draftRef "2"]

def compareMerged : NextWorkItem :=
  { workType := .mixed, nodeRefs := [mergedDraftRef, (draftNode "3").nodeRef]
    promptTokens := 2150, artifactTokens := 130, inputTokens := 2280, requiredWindowTokens := 2710 }

/-- The planner compares the merged node with the third draft. -/
theorem planNextStep_mergedDrafts :
    ∃ planner, loadPlannerState mergedDrafts draftGroup = some planner ∧
      (planNextStep planner).nextWorkItem = compareMerged := by
  have hmap : (loadPlannerState mergedDrafts draftGroup).map
      (fun planner => (planNextStep planner).nextWorkItem) = some compareMerged := by
    decide +kernel
  exact Option.map_eq_some_iff.mp hmap

theorem scheduleNextWork_compareMerged :
    ∃ plan, scheduleNextWork plainPrompts mergedDrafts threeObservations draftGroup compareMerged =
      .ok (some plan) := by
  have hsome : ((scheduleNextWork plainPrompts mergedDrafts threeObservations draftGroup
      compareMerged).toOption.join).isSome = true := by decide +kernel
  cases hplan : scheduleNextWork plainPrompts mergedDrafts threeObservations draftGroup
      compareMerged with
  | error fault => simp [hplan, Except.toOption] at hsome
  | ok plan =>
    cases plan with
    | none => simp [hplan, Except.toOption] at hsome
    | some plan => exact ⟨plan, rfl⟩

def draftIds : ApplyIds := ⟨"batch", "item", 0, 2⟩

theorem compactedComparison_never_applied_merged :
    ∃ planner plan, loadPlannerState mergedDrafts draftGroup = some planner ∧
      ∀ executePayload output, ¬∃ accepted applied,
        Accepts loadsOneClaim .startedAttempts draftAttempt plan output
          (.compactedClaims accepted) ∧
        (accepted.flatMap (·.sourceClaimRefs)).Perm (CompactionWork.reduction mergedDrafts
          threeObservations draftGroup (planNextStep planner).nextWorkItem).inputClaims ∧
        applyAccepted draftEnv mergedDrafts threeObservations draftGroup draftIds executePayload
          plan.payload accepted = .ok applied := by
  obtain ⟨planner, hplanner, hitem⟩ := planNextStep_mergedDrafts
  obtain ⟨plan, hplan⟩ := scheduleNextWork_compareMerged
  refine ⟨planner, plan, hplanner, fun executePayload output => ?_⟩
  exact compactedComparison_never_applied draftEnv plainPrompts loadsOneClaim .startedAttempts
    draftAttempt draftIds mergedDrafts mergedDrafts threeObservations threeObservations draftGroup
    planner plan executePayload output mergedDrafts_reachable hplanner
    (by rw [hitem]; exact .inl rfl) (by rw [hitem]; exact hplan)

/-- An output that keeps the claims of two references apart. -/
def apartOutput (first second : String) : Payload :=
  [("compacted_claims", .list [.dict (oneClaimFields first), .dict (oneClaimFields second)])]

theorem validateCompactionOutput_apartOutput {first second : String}
    (hfirst : isBlank first = false) (hsecond : isBlank second = false) (hne : first ≠ second) :
    validateCompactionOutput (apartOutput first second) [first, second] =
      .ok [oneClaim first hfirst, oneClaim second hsecond] := by
  have hinput : validateInputRefs [first, second] = .ok () := by
    simp [validateInputRefs, requireThat, hfirst, hsecond, hne, bind, Except.bind]
  have hforbidden : rejectForbiddenFields (apartOutput first second) "top-level output" =
      .ok () := rfl
  have hfields : fieldsAre ["compacted_claims"] (apartOutput first second) = true := rfl
  have hitems : compactedClaimItems (Payload.get (apartOutput first second) "compacted_claims") =
      .ok [.dict (oneClaimFields first), .dict (oneClaimFields second)] := rfl
  have hloop : [PyValue.dict (oneClaimFields first),
      PyValue.dict (oneClaimFields second)].zipIdx.foldlM (validateClaimStep [first, second])
      ([], []) = .ok ([first, second], [oneClaim first hfirst, oneClaim second hsecond]) := by
    have hone : validateCompactedClaim [first, second] [] 0 (.dict (oneClaimFields first)) = _ :=
      validateCompactedClaim_oneClaim hfirst (by simp) List.not_mem_nil 0
    have htwo : validateCompactedClaim [first, second] [first] 1 (.dict (oneClaimFields second)) =
        _ := validateCompactedClaim_oneClaim hsecond (by simp) (by simpa using hne.symm) 1
    simp [validateClaimStep, hone, htwo, bind, Except.bind, pure, Except.pure]
  simp only [validateCompactionOutput, hinput, hforbidden, hfields, hitems, hloop, requireThat,
    if_true, List.all_cons, List.all_nil, List.contains_cons, List.contains_nil, beq_self_eq_true,
    Bool.true_or, Bool.or_true, Bool.and_true, bind, Except.bind, pure, Except.pure]

/-- The execute command names the compared nodes, so they reach the apply step. -/
theorem derivedComparedNodeRefs_executeCommandPayload {attempt : StartedAttempt} (group : GroupKey)
    {groupRef batchRef kind : String} {round : PyValue} {nodeRefs : List String}
    (hne : nodeRefs ≠ []) (htext : ∀ nodeRef ∈ nodeRefs, isBlank nodeRef = false)
    (schedulePayload : Payload) :
    derivedComparedNodeRefs group (executeCommandPayload attempt groupRef batchRef kind round
      [("source_node_refs", .list (nodeRefs.map .str))]) schedulePayload = .ok nodeRefs := by
  have hitems := mapM_textItem "workflow command payload source_node_refs must contain text" htext
  generalize hpayload : executeCommandPayload attempt groupRef batchRef kind round
    [("source_node_refs", .list (nodeRefs.map .str))] = payload
  have hcompared : payloadTextTuple payload "compared_node_refs" = .ok [] := by
    simp [← hpayload, payloadTextTuple, payloadGet, executeCommandPayload, executeCommandFields,
      Payload.update, Payload.get_ofEntries]
  have hnodes : payloadTextTuple payload "node_refs" = .ok [] := by
    simp [← hpayload, payloadTextTuple, payloadGet, executeCommandPayload, executeCommandFields,
      Payload.update, Payload.get_ofEntries]
  have hsource : payloadTextTuple payload "source_node_refs" = .ok nodeRefs := by
    simp [← hpayload, payloadTextTuple, payloadGet, executeCommandPayload, Payload.update, hitems]
  cases nodeRefs with
  | nil => exact absurd rfl hne
  | cons first rest =>
    simp only [derivedComparedNodeRefs, comparedNodeRefsOf, firstNodeRefs, hcompared, hnodes,
      hsource, bind, Except.bind]

theorem mergedDraftRef_text : isBlank mergedDraftRef = false := by decide +kernel

theorem thirdDraftRef_text : isBlank (draftRef "3") = false := by decide

/-- The claims of the output that keeps the merged node and the third draft
apart. -/
def apartClaims : List DraftClaimCompactionOutputClaim :=
  [oneClaim mergedDraftRef mergedDraftRef_text, oneClaim (draftRef "3") thirdDraftRef_text]

/-- The apply step raises at the merged node, which is no observation. -/
theorem applyApartClaims_raises :
    (applyCommandClaims (apartClaims.map compactedClaimPayload) >>=
        applyDraftClaimCompactionResult draftEnv mergedDrafts threeObservations draftGroup draftIds
          compareMerged.nodeRefs) =
      .error (.valueError "source claim for compaction output is missing") := by
  have hfault : (match applyCommandClaims (apartClaims.map compactedClaimPayload) >>=
        applyDraftClaimCompactionResult draftEnv mergedDrafts threeObservations draftGroup draftIds
          compareMerged.nodeRefs with
      | .error fault => some fault
      | .ok _ => none) = some (.valueError "source claim for compaction output is missing") := by
    decide +kernel
  cases hrun : applyCommandClaims (apartClaims.map compactedClaimPayload) >>=
      applyDraftClaimCompactionResult draftEnv mergedDrafts threeObservations draftGroup draftIds
        compareMerged.nodeRefs with
  | ok applied => simp [hrun] at hfault
  | error fault =>
    rw [hrun] at hfault
    rw [Option.some.inj hfault]

/-- The output partitions the ids of the prompt and is accepted, and the apply
step raises. -/
theorem compareMerged_apply_raises :
    ∃ planner plan executePayload accepted,
      loadPlannerState mergedDrafts draftGroup = some planner ∧
      (planNextStep planner).nextWorkItem = compareMerged ∧
      scheduleNextWork plainPrompts mergedDrafts threeObservations draftGroup compareMerged =
        .ok (some plan) ∧
      startedAttemptPayload draftAttempt plan.payload = .ok executePayload ∧
      Accepts loadsOneClaim .startedAttempts draftAttempt plan
        (some (apartOutput mergedDraftRef (draftRef "3"))) (.compactedClaims accepted) ∧
      (accepted.flatMap (·.sourceClaimRefs)).Perm (CompactionWork.reduction mergedDrafts
        threeObservations draftGroup compareMerged).inputClaims ∧
      applyAccepted draftEnv mergedDrafts threeObservations draftGroup draftIds executePayload
        plan.payload accepted =
          .error (.valueError "source claim for compaction output is missing") := by
  obtain ⟨planner, hplanner, hitem⟩ := planNextStep_mergedDrafts
  obtain ⟨plan, hplan⟩ := scheduleNextWork_compareMerged
  obtain ⟨htext, messages, hpayload⟩ := scheduleNextWork_eq_some hplan
  have hne : mergedDraftRef ≠ draftRef "3" := by decide +kernel
  have hown : sourceRefsFromCompactedOutput (apartOutput mergedDraftRef (draftRef "3")) =
      [mergedDraftRef, draftRef "3"] := by
    simp [sourceRefsFromCompactedOutput, apartOutput, oneClaimFields, outputClaimRefs,
      nonBlankText?, Payload.get, mergedDraftRef_text, thirdDraftRef_text]
  have hinput : (CompactionWork.reduction mergedDrafts threeObservations draftGroup
      compareMerged).inputClaims = [mergedDraftRef, draftRef "3"] := by decide +kernel
  have hcommand := @startedAttemptPayload_nextWorkPayload draftAttempt draftGroup compareMerged
    messages htext
  rw [← hpayload] at hcommand
  refine ⟨planner, plan, _, apartClaims, hplanner, hitem, hplan, hcommand, ?_, ?_, ?_⟩
  · refine accepts_own draftGroup compareMerged messages hpayload htext rfl ?_ ?_
    · rw [hown]
      exact List.cons_ne_nil _ _
    · rw [hown]
      exact validateCompactionOutput_apartOutput mergedDraftRef_text thirdDraftRef_text hne
  · rw [hinput]
    exact List.Perm.refl _
  · have hnodeRefs : compareMerged.nodeRefs ≠ [] := List.cons_ne_nil _ _
    rw [applyAccepted, derivedComparedNodeRefs_executeCommandPayload draftGroup hnodeRefs htext]
    exact applyApartClaims_raises

end CrmBot.Compaction
