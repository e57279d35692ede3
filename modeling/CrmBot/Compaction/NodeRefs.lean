import CrmBot.Compaction.ReductionState
import CrmBot.Library.Delimited
import CrmBot.Python.Text

/-! The references of runs, groups, batches and nodes, and their readers.

All of them are texts joined by colons. The readers cut at the first colons, so
they give back what was joined exactly when no earlier part has a colon. -/

namespace CrmBot.Compaction

open CrmBot.Python Delimited

/-! What the pipeline builds. -/

/-- `_build_source_document_ref`. -/
def sourceDocumentRef (projectId contentHash : String) : String :=
  "source-document:" ++ projectId ++ ":" ++ contentHash

/-- `_build_workflow_run_id`. -/
def workflowRunId (sourceDocumentRef : String) : String :=
  "knowledge-extraction:" ++ sourceDocumentRef

/-- `_ref` of the grouping and of the batch policy. -/
def hashedRef (sha256Hexdigest : String → String) (front : String) (parts : List String) : String :=
  front ++ ":" ++ sha256Hexdigest (":".intercalate parts)

/-- The `group_ref` of the grouping policy. -/
def groupCandidateRef (sha256Hexdigest : String → String) (workflowRunId : String)
    (observationRefs : List String) : String :=
  hashedRef sha256Hexdigest "draft-claim-compaction-group" (workflowRunId :: observationRefs)

/-- The `batch_ref` of the batch policy. -/
def batchCandidateRef (sha256Hexdigest : String → String) (groupRef : String) (index : Nat)
    (observationRefs : List String) : String :=
  hashedRef sha256Hexdigest "draft-claim-compaction-batch"
    (groupRef :: toString index :: observationRefs)

/-- `_next_batch_ref`, of at least one node. -/
def nextBatchRef (groupRef workType : String) (nodeRefs : List String) : String :=
  groupRef ++ ":" ++ workType ++ ":" ++ "--".intercalate nodeRefs

/-- The id of the work item of a batch. -/
def claimCompactionWorkItemId (workflowRunId batchRef : String) : String :=
  "claim-compaction:" ++ workflowRunId ++ ":" ++ batchRef

/-! The readers. -/

/-- `_raw_claim_ref_from_node_ref` of the apply handler. -/
def rawClaimRefFromNodeRef (nodeRef : String) : Option String :=
  match splitUpTo ':' 3 nodeRef.toList with
  | [kind, _, _, rest] =>
    let rawClaimRef := strip (String.ofList rest)
    if kind ≠ "raw".toList ∨ rawClaimRef = "" then none else some rawClaimRef
  | _ => none

/-- `_parse_claim_compaction_work_item_id` of the attempt-input builder, with the
messages of its error. -/
def parseClaimCompactionWorkItemId (workItemId : String) : Except String (String × String) :=
  let unmatched : Except String (String × String) :=
    .error "work_item_id must match claim-compaction:\x7bworkflow_run_id\x7d:\x7bbatch_ref\x7d"
  match splitUpTo ':' 2 workItemId.toList with
  | [kind, run, batch] =>
    if kind ≠ "claim-compaction".toList then unmatched
    else if strip (String.ofList run) = "" then
      .error "work_item_id must include workflow_run_id"
    else if strip (String.ofList batch) = "" then .error "work_item_id must include batch_ref"
    else .ok (strip (String.ofList run), strip (String.ofList batch))
  | _ => unmatched

/-- `_group_ref_from_compacted_node_ref` of the curation workspace opener. -/
def groupRefFromCompactedNodeRef (workflowRunId compactedNodeRef : String) :
    Except Fault String :=
  match afterPrefix? ("compacted:" ++ workflowRunId ++ ":").toList compactedNodeRef.toList with
  | none => .error (.runtimeError "compacted node ref does not match workflow_run_id")
  | some remainder => match cut? ':' remainder with
    | some (_ :: _, []) | some ([], _) | none =>
      .error (.runtimeError "compacted node ref lacks group_ref")
    | some (groupRef, _) => .ok (String.ofList groupRef)

/-- The three readers return what the references were built from. -/
def RefsRoundTrip (env : CompactionEnv) (group : GroupKey) (observationRef batchRef : String)
    (sourceClaimRefs : List String) : Prop :=
  rawClaimRefFromNodeRef (rawClaimNodeRef group observationRef) = some observationRef ∧
    parseClaimCompactionWorkItemId (claimCompactionWorkItemId group.workflowRunId batchRef) =
      .ok (group.workflowRunId, batchRef) ∧
    groupRefFromCompactedNodeRef group.workflowRunId
      (compactedClaimNodeRef env group sourceClaimRefs) = .ok group.groupRef

/-- The text is not empty and has no white space at its ends. -/
def Trimmed (value : String) : Prop := strip value = value ∧ value ≠ ""

variable {env : CompactionEnv} {group : GroupKey} {observationRef batchRef : String}
  {sourceClaimRefs : List String}

/-! Raw nodes. -/

theorem toList_rawClaimNodeRef : (rawClaimNodeRef group observationRef).toList =
    "raw".toList ++ ':' :: (group.workflowRunId.toList ++ ':' ::
      (group.groupRef.toList ++ ':' :: observationRef.toList)) := by
  simp [rawClaimNodeRef]

/-- The fourth part of a raw reference is longer than the claim where a colon
stands in the run or in the group. -/
theorem splitUpTo_rawClaimNodeRef (group : GroupKey) (observationRef : String) :
    ∃ run middle rest, splitUpTo ':' 3 (rawClaimNodeRef group observationRef).toList =
        ["raw".toList, run, middle, rest] ∧
      ((rest = observationRef.toList ∧ ':' ∉ group.workflowRunId.toList ∧
          ':' ∉ group.groupRef.toList) ∨
        ((':' ∈ group.workflowRunId.toList ∨ ':' ∈ group.groupRef.toList) ∧
          ∃ front, rest = front ++ ':' :: observationRef.toList)) := by
  rw [toList_rawClaimNodeRef, splitUpTo_append (by decide)]
  by_cases hrun : ':' ∈ group.workflowRunId.toList
  · obtain ⟨first, later, hsplit⟩ := splitUpTo_append_of_mem 1 hrun
      (group.groupRef.toList ++ ':' :: observationRef.toList)
    have hmore : ':' ∈ later ++ ':' :: group.groupRef.toList := by simp
    obtain ⟨second, front, hrest⟩ := splitUpTo_append_of_mem 0 hmore
      observationRef.toList
    rw [List.append_assoc, List.cons_append] at hrest
    rw [hsplit, hrest]
    exact ⟨first, second, _, rfl, .inr ⟨.inl hrun, front, rfl⟩⟩
  · rw [splitUpTo_append hrun]
    by_cases hgroup : ':' ∈ group.groupRef.toList
    · obtain ⟨second, front, hrest⟩ := splitUpTo_append_of_mem 0 hgroup
        observationRef.toList
      rw [hrest]
      exact ⟨_, second, _, rfl, .inr ⟨.inr hgroup, front, rfl⟩⟩
    · rw [splitUpTo_append hgroup]
      exact ⟨_, _, _, rfl, .inl ⟨rfl, hrun, hgroup⟩⟩

/-- The claim is read back exactly when neither the run nor the group has a colon. -/
theorem rawClaimRefFromNodeRef_eq_some_iff :
    rawClaimRefFromNodeRef (rawClaimNodeRef group observationRef) = some observationRef ↔
      ':' ∉ group.workflowRunId.toList ∧ ':' ∉ group.groupRef.toList ∧
        Trimmed observationRef := by
  obtain ⟨run, middle, rest, hsplit, hrest⟩ :=
    splitUpTo_rawClaimNodeRef group observationRef
  have hread : rawClaimRefFromNodeRef (rawClaimNodeRef group observationRef) =
      some observationRef ↔ strip (String.ofList rest) = observationRef ∧ observationRef ≠ "" := by
    unfold rawClaimRefFromNodeRef
    rw [hsplit]
    dsimp only
    split
    · next hempty =>
      constructor
      · exact nofun
      · rintro ⟨hstrip, hne⟩
        rw [hstrip] at hempty
        exact absurd rfl (hempty.elim id (absurd · hne))
    · next hfull =>
      rw [not_or] at hfull
      constructor
      · intro h
        obtain rfl := Option.some.inj h
        exact ⟨rfl, hfull.2⟩
      · exact fun h => congrArg some h.1
  rw [hread]
  rcases hrest with ⟨rfl, hrun, hgroup⟩ | ⟨hcolon, front, rfl⟩
  · rw [String.ofList_toList]
    exact ⟨fun h => ⟨hrun, hgroup, h⟩, fun h => h.2.2⟩
  · constructor
    · intro h
      exact absurd h.1 (strip_append_ne (by decide))
    · intro h
      exact hcolon.elim (absurd · h.1) (absurd · h.2.1)

/-! Work items. -/

theorem claimCompaction_front : "claim-compaction:" = "claim-compaction" ++ ":" := rfl

theorem toList_claimCompactionWorkItemId (run batch : String) :
    (claimCompactionWorkItemId run batch).toList =
      "claim-compaction".toList ++ ':' :: (run.toList ++ ':' :: batch.toList) := by
  have hjoined : claimCompactionWorkItemId run batch =
      "claim-compaction" ++ ":" ++ run ++ ":" ++ batch :=
    congrArg (fun front => front ++ run ++ ":" ++ batch) claimCompaction_front
  rw [hjoined]
  generalize "claim-compaction" = kind
  simp

theorem parseClaimCompactionWorkItemId_eq_ok_iff {workItemId : String} {run batch : List Char}
    {parsed : String × String}
    (hsplit : splitUpTo ':' 2 workItemId.toList = ["claim-compaction".toList, run, batch]) :
    parseClaimCompactionWorkItemId workItemId = .ok parsed ↔
      (strip (String.ofList run) = parsed.1 ∧ parsed.1 ≠ "") ∧
        strip (String.ofList batch) = parsed.2 ∧ parsed.2 ≠ "" := by
  unfold parseClaimCompactionWorkItemId
  rw [hsplit]
  dsimp only
  rw [if_neg (not_not.mpr rfl)]
  split
  · next hrun =>
    constructor
    · exact nofun
    · rintro ⟨⟨hparsed, hne⟩, _⟩
      exact absurd (hparsed.symm.trans hrun) hne
  · next hrun =>
    split
    · next hbatch =>
      constructor
      · exact nofun
      · rintro ⟨_, hparsed, hne⟩
        exact absurd (hparsed.symm.trans hbatch) hne
    · next hbatch =>
      constructor
      · intro h
        cases h
        exact ⟨⟨rfl, hrun⟩, rfl, hbatch⟩
      · rintro ⟨⟨hfirst, _⟩, hsecond, _⟩
        rw [hfirst, hsecond]

/-- The run and the batch are read back exactly when the run has no colon. -/
theorem parseClaimCompactionWorkItemId_roundTrip_iff (run batch : String) :
    parseClaimCompactionWorkItemId (claimCompactionWorkItemId run batch) = .ok (run, batch) ↔
      ':' ∉ run.toList ∧ Trimmed run ∧ Trimmed batch := by
  have hlist := toList_claimCompactionWorkItemId run batch
  by_cases hrun : ':' ∈ run.toList
  · obtain ⟨first, front, hrest⟩ := splitUpTo_append_of_mem 0 hrun batch.toList
    have hsplit : splitUpTo ':' 2 (claimCompactionWorkItemId run batch).toList =
        ["claim-compaction".toList, first, front ++ ':' :: batch.toList] := by
      rw [hlist, splitUpTo_append (by decide), hrest]
      rfl
    rw [parseClaimCompactionWorkItemId_eq_ok_iff hsplit]
    constructor
    · intro h
      exact absurd h.2.1 (strip_append_ne (by decide))
    · exact fun h => absurd hrun h.1
  · have hsplit : splitUpTo ':' 2 (claimCompactionWorkItemId run batch).toList =
        ["claim-compaction".toList, run.toList, batch.toList] := by
      rw [hlist, splitUpTo_append (by decide), splitUpTo_append hrun]
      rfl
    rw [parseClaimCompactionWorkItemId_eq_ok_iff hsplit, String.ofList_toList,
      String.ofList_toList]
    exact ⟨fun h => ⟨hrun, h⟩, fun h => h.2⟩

/-! Compacted nodes. -/

theorem afterPrefix?_append (front rest : List Char) :
    afterPrefix? front (front ++ rest) = some rest := by
  unfold afterPrefix?
  rw [if_pos (List.prefix_append front rest), List.drop_left]

/-- The group is read back exactly when it has no colon. -/
theorem groupRefFromCompactedNodeRef_eq_ok_iff
    (hdigest : ∀ text, env.sha256Hexdigest text ≠ "") :
    groupRefFromCompactedNodeRef group.workflowRunId
        (compactedClaimNodeRef env group sourceClaimRefs) = .ok group.groupRef ↔
      ':' ∉ group.groupRef.toList := by
  obtain ⟨digest, hne, href⟩ : ∃ digest : String, digest ≠ "" ∧
      (compactedClaimNodeRef env group sourceClaimRefs).toList =
        ("compacted:" ++ group.workflowRunId ++ ":").toList ++
          (group.groupRef.toList ++ ':' :: digest.toList) := by
    refine ⟨_, hdigest (group.workflowRunId ++ ":" ++ group.groupRef ++ ":" ++
      ":".intercalate (sorted sourceClaimRefs.eraseDups)), ?_⟩
    simp [compactedClaimNodeRef]
  have hgroupText : group.groupRef.toList ≠ [] := by
    intro hempty
    have htext := group.groupRef_text
    rw [isBlank, hempty] at htext
    cases htext
  have hdigestText : digest.toList ≠ [] := fun hempty => hne (String.toList_eq_nil_iff.mp hempty)
  unfold groupRefFromCompactedNodeRef
  rw [href, afterPrefix?_append]
  dsimp only
  by_cases hgroup : ':' ∈ group.groupRef.toList
  · obtain ⟨first, later, hfirst, hcut⟩ := cut?_append_of_mem hgroup digest.toList
    rw [hcut]
    refine ⟨fun h => ?_, absurd hgroup⟩
    have hread : String.ofList first = group.groupRef := by
      cases first with
      | nil => cases h
      | cons head tail =>
        cases later with
        | nil => exact Except.ok.inj h
        | cons next others => exact Except.ok.inj h
    rw [← hread, String.toList_ofList] at hgroup
    exact absurd hgroup hfirst
  · rw [cut?_append hgroup]
    refine ⟨fun _ => hgroup, fun _ => ?_⟩
    cases hgroupList : group.groupRef.toList with
    | nil => exact absurd hgroupList hgroupText
    | cons head tail =>
      cases hdigestList : digest.toList with
      | nil => exact absurd hdigestList hdigestText
      | cons next others =>
        dsimp only
        rw [← hgroupList, String.ofList_toList]

/-! The three readers together. -/

/-- All references are read back exactly when neither the run nor the group has a
colon and no reference has white space at its ends. -/
theorem refsRoundTrip_iff (hdigest : ∀ text, env.sha256Hexdigest text ≠ "") :
    RefsRoundTrip env group observationRef batchRef sourceClaimRefs ↔
      (':' ∉ group.workflowRunId.toList ∧ ':' ∉ group.groupRef.toList) ∧
        Trimmed group.workflowRunId ∧ Trimmed observationRef ∧ Trimmed batchRef := by
  unfold RefsRoundTrip
  rw [rawClaimRefFromNodeRef_eq_some_iff, parseClaimCompactionWorkItemId_roundTrip_iff,
    groupRefFromCompactedNodeRef_eq_ok_iff hdigest]
  constructor
  · rintro ⟨⟨hrun, hgroup, hobservation⟩, ⟨_, hrunText, hbatch⟩, _⟩
    exact ⟨⟨hrun, hgroup⟩, hrunText, hobservation, hbatch⟩
  · rintro ⟨⟨hrun, hgroup⟩, hrunText, hobservation, hbatch⟩
    exact ⟨⟨hrun, hgroup, hobservation⟩, ⟨hrun, hrunText, hbatch⟩, hgroup⟩

def plainEnv : CompactionEnv where
  sha256Hexdigest _ := "5f16"
  estimatedCompactedClaimTokens _ := 1

theorem plainEnv_digest (text : String) : plainEnv.sha256Hexdigest text ≠ "" := by
  change "5f16" ≠ ""
  decide

def plainGroup : GroupKey := ⟨"run", "group", by decide, by decide⟩

theorem plainRefs_roundTrip : RefsRoundTrip plainEnv plainGroup "claim" "group-0" ["claim"] :=
  (refsRoundTrip_iff plainEnv_digest).mpr
    ⟨⟨by decide, by decide⟩, ⟨by decide, by decide⟩, ⟨by decide, by decide⟩, by decide, by decide⟩

/-! The references of the pipeline itself. -/

theorem colon_mem_workflowRunId (sourceDocumentRef : String) :
    ':' ∈ (workflowRunId sourceDocumentRef).toList := by
  unfold workflowRunId
  simp

theorem colon_mem_hashedRef (sha256Hexdigest : String → String) (front : String)
    (parts : List String) : ':' ∈ (hashedRef sha256Hexdigest front parts).toList := by
  simp [hashedRef]

/-- No reader returns what it was built from when the run and the group are the
pipeline's own. -/
theorem pipelineRefs_misread (hdigest : ∀ text, env.sha256Hexdigest text ≠ "")
    {documentRef : String} {observationRefs : List String}
    (hrun : group.workflowRunId = workflowRunId documentRef)
    (hgroup : group.groupRef =
      groupCandidateRef env.sha256Hexdigest group.workflowRunId observationRefs) :
    rawClaimRefFromNodeRef (rawClaimNodeRef group observationRef) ≠ some observationRef ∧
      parseClaimCompactionWorkItemId (claimCompactionWorkItemId group.workflowRunId batchRef) ≠
        .ok (group.workflowRunId, batchRef) ∧
      groupRefFromCompactedNodeRef group.workflowRunId
        (compactedClaimNodeRef env group sourceClaimRefs) ≠ .ok group.groupRef := by
  have hrunColon : ':' ∈ group.workflowRunId.toList := hrun ▸ colon_mem_workflowRunId documentRef
  have hgroupColon : ':' ∈ group.groupRef.toList := hgroup ▸ colon_mem_hashedRef _ _ _
  refine ⟨?_, ?_, ?_⟩
  · intro h
    exact (rawClaimRefFromNodeRef_eq_some_iff.mp h).1 hrunColon
  · intro h
    exact ((parseClaimCompactionWorkItemId_roundTrip_iff _ _).mp h).1 hrunColon
  · intro h
    exact (groupRefFromCompactedNodeRef_eq_ok_iff hdigest).mp h hgroupColon

def uploadedRun : String := workflowRunId (sourceDocumentRef "project" "9c2b")

def uploadedGroup : GroupKey :=
  ⟨uploadedRun, groupCandidateRef plainEnv.sha256Hexdigest uploadedRun
    ["draft-claim-observation:77"], by decide +kernel, by decide +kernel⟩

/-- The apply handler takes everything after the third colon for the claim, and
the attempt-input builder takes the first part of the run for the run. -/
theorem uploadedRefs_not_roundTrip :
    rawClaimRefFromNodeRef (rawClaimNodeRef uploadedGroup "draft-claim-observation:77") =
        some ("project:9c2b:draft-claim-compaction-group:5f16:draft-claim-observation:77") ∧
      parseClaimCompactionWorkItemId (claimCompactionWorkItemId uploadedRun
        "draft-claim-compaction-batch:5f16") = .ok ("knowledge-extraction",
          "source-document:project:9c2b:draft-claim-compaction-batch:5f16") ∧
      groupRefFromCompactedNodeRef uploadedRun (compactedClaimNodeRef plainEnv uploadedGroup
        ["draft-claim-observation:77"]) = .ok "draft-claim-compaction-group" ∧
      ¬ RefsRoundTrip plainEnv uploadedGroup "draft-claim-observation:77"
        "draft-claim-compaction-batch:5f16" ["draft-claim-observation:77"] := by
  refine ⟨by decide +kernel, by decide +kernel, by decide +kernel, ?_⟩
  intro h
  exact absurd h.1 (by decide +kernel)

end CrmBot.Compaction
