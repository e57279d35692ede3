import CrmBot.Compaction.ScheduledWork

/-! Executing a compaction work item: what an output is checked against.

The execute command of an attempt is built from the schedule payload of its work
item, and the execute handler builds the output validator from the command. The
validator takes the input claims from the command, else from the schedule
payload, else from the output itself. -/

namespace CrmBot.Compaction

open CrmBot.Python FailingFold

inductive ExpectedOutputKind
  | compactedClaims
  | reducedRewrite
  deriving DecidableEq, Repr

def ExpectedOutputKind.value : ExpectedOutputKind → String
  | .compactedClaims => "compacted_claims"
  | .reducedRewrite => "reduced_rewrite"

/-- `DraftClaimCompactionExpectedOutputKind(value)`. -/
def ExpectedOutputKind.ofValue? (value : String) : Option ExpectedOutputKind :=
  [ExpectedOutputKind.compactedClaims, .reducedRewrite].find? fun kind => kind.value = value

/-! The execute command of a started attempt. -/

/-- `_mapping_text`. The fallback replaces only a missing key. -/
def mappingText (payload : Payload) (key : String) (fallback : Option String) :
    Except Fault String :=
  let fault := Fault.valueError ("mapping payload must include non-empty text " ++ key)
  match payload.get key, fallback with
  | some (.str value), _ | none, some value => if isBlank value then .error fault else .ok value
  | _, _ => .error fault

/-- `_mapping_int`. A boolean is an integer. -/
def mappingInt (payload : Payload) (key : String) (fallback : Int) : Except Fault PyValue :=
  match payload.get key with
  | some (.int value) => .ok (.int value)
  | some (.bool value) => .ok (.bool value)
  | some _ => .error (.valueError ("mapping payload must include integer " ++ key))
  | none => .ok (.int fallback)

/-- The items of a list of texts. -/
def textItem (message : String) : PyValue → Except Fault String
  | .str text => if isBlank text then .error (.valueError message) else .ok text
  | _ => .error (.valueError message)

/-- `_mapping_text_list` of a field that is copied when it is there. -/
def copiedTextList (payload : Payload) (key : String) : Except Fault Payload :=
  match payloadGet payload key with
  | none => .ok []
  | some (.list items) => do
    let texts ← items.mapM
      (textItem ("mapping payload " ++ key ++ " must contain non-empty text"))
    pure [(key, .list (texts.map .str))]
  | some _ => .error (.valueError ("mapping payload must include sequence " ++ key))

/-- `_mapping_text` of a field that is copied when it is there. -/
def copiedText (payload : Payload) (key : String) : Except Fault Payload :=
  match payloadGet payload key with
  | none => .ok []
  | some _ => do
    let text ← mappingText payload key none
    pure [(key, .str text)]

/-- The ids an execute command is for. -/
structure StartedAttempt where
  workflowRunId : String
  attemptId : String
  workItemId : String
  workflowRunId_text : isBlank workflowRunId = false
  attemptId_text : isBlank attemptId = false
  workItemId_text : isBlank workItemId = false

/-- The fields every execute command has. -/
def executeCommandFields (attempt : StartedAttempt) (groupRef batchRef expectedOutputKind : String)
    (roundIndex : PyValue) : Payload :=
  Payload.ofEntries [
    ("workflow_run_id", .str attempt.workflowRunId),
    ("dispatch_attempt_id", .str attempt.attemptId),
    ("work_item_id", .str attempt.workItemId),
    ("group_ref", .str groupRef),
    ("batch_ref", .str batchRef),
    ("round_index", roundIndex),
    ("expected_output_kind", .str expectedOutputKind)]

/-- The payload of an execute command: its own fields, then those copied. -/
def executeCommandPayload (attempt : StartedAttempt) (groupRef batchRef expectedOutputKind : String)
    (roundIndex : PyValue) (copied : List (String × PyValue)) : Payload :=
  (executeCommandFields attempt groupRef batchRef expectedOutputKind roundIndex).update copied

/-- The command payload of `_execute_draft_claim_compaction_commands`. -/
def startedAttemptPayload (attempt : StartedAttempt) (schedulePayload : Payload) :
    Except Fault Payload := do
  let groupRef ← mappingText schedulePayload "group_ref" none
  let batchRef ← mappingText schedulePayload "batch_ref" none
  let roundIndex ← mappingInt schedulePayload "round_index" 0
  let expectedOutputKind ← mappingText schedulePayload "expected_output_kind"
    (some "compacted_claims")
  let sourceClaimRefs ← copiedTextList schedulePayload "source_claim_refs"
  let sourceNodeRefs ← copiedTextList schedulePayload "source_node_refs"
  let leftNodeRef ← copiedText schedulePayload "left_node_ref"
  let rightNodeRef ← copiedText schedulePayload "right_node_ref"
  pure (executeCommandPayload attempt groupRef batchRef expectedOutputKind roundIndex
    (sourceClaimRefs ++ sourceNodeRefs ++ leftNodeRef ++ rightNodeRef))

/-! The execute command of an admitted work item. -/

/-- `_optional_text` of the admission pass. -/
def contextText (payload : Payload) (key : String) : Except Fault (Option String) :=
  match payloadGet payload key with
  | none => .ok none
  | some (.str text) =>
    if isBlank text then
      .error (.valueError ("schedule_payload " ++ key ++ " must be non-empty text"))
    else .ok (some text)
  | some _ => .error (.valueError ("schedule_payload " ++ key ++ " must be non-empty text"))

/-- `_text_tuple_from_payload` of the admission pass. -/
def contextTexts (payload : Payload) (key : String) : Except Fault (List String) :=
  match payloadGet payload key with
  | none => .ok []
  | some (.list items) => items.mapM
      (textItem ("schedule_payload " ++ key ++ " must contain non-empty text"))
  | some _ => .error (.valueError ("schedule_payload " ++ key ++ " must be sequence"))

/-- `_required_text` of the plan applier. -/
def requiredContextText (value : Option String) (fieldName : String) : Except Fault String :=
  match value with
  | some text =>
    if isBlank text then .error (.valueError ("dispatch context must include " ++ fieldName))
    else .ok text
  | none => .error (.valueError ("dispatch context must include " ++ fieldName))

/-- The command payload of the plan applier, from the dispatch context of the
admission pass. An absent round counts as the first. -/
def admittedItemPayload (attempt : StartedAttempt) (schedulePayload : Payload) :
    Except Fault Payload := do
  let groupRef ← contextText schedulePayload "group_ref"
  let batchRef ← contextText schedulePayload "batch_ref"
  let expectedOutputKind ← contextText schedulePayload "expected_output_kind"
  let inputClaimRefs ← contextTexts schedulePayload "source_claim_refs"
  let inputNodeRefs ← contextTexts schedulePayload "source_node_refs"
  let groupText ← requiredContextText groupRef "group_ref"
  let batchText ← requiredContextText batchRef "batch_ref"
  let kindText ← requiredContextText expectedOutputKind "expected_output_kind"
  pure (executeCommandPayload attempt groupText batchText kindText (.int 0)
    ((if inputNodeRefs = [] then []
      else [("source_node_refs", .list (inputNodeRefs.map .str))]) ++
    if inputClaimRefs = [] then []
      else [("source_claim_refs", .list (inputClaimRefs.map .str))]))

/-- The two places that build an execute command. -/
inductive ExecuteCommandBuilder
  | startedAttempts
  | planApplier
  deriving DecidableEq, Repr

def ExecuteCommandBuilder.payload (builder : ExecuteCommandBuilder) (attempt : StartedAttempt)
    (schedulePayload : Payload) : Except Fault Payload :=
  match builder with
  | .startedAttempts => startedAttemptPayload attempt schedulePayload
  | .planApplier => admittedItemPayload attempt schedulePayload

/-! The execute handler. -/

/-- `_payload_text_tuple` with `allow_missing`. -/
def payloadTextTuple (payload : Payload) (key : String) : Except Fault (List String) :=
  match payloadGet payload key with
  | none => .ok []
  | some (.list items) => items.mapM
      (textItem ("workflow command payload " ++ key ++ " must contain text"))
  | some _ => .error (.valueError ("workflow command payload " ++ key ++ " must be sequence"))

/-- `_payload_int`. -/
def payloadInt (payload : Payload) (key : String) : Except Fault PyValue :=
  match payload.get key with
  | some (.int value) => .ok (.int value)
  | some (.bool value) => .ok (.bool value)
  | _ => .error (.valueError ("workflow command payload must include integer " ++ key))

def expectedOutputKindOf (text : String) : Except Fault ExpectedOutputKind :=
  match ExpectedOutputKind.ofValue? text with
  | some kind => .ok kind
  | none => .error (.valueError
      (text ++ " is not a valid DraftClaimCompactionExpectedOutputKind"))

/-- What the handler reads of its command for the output validator. -/
structure CompactionOutputCheck where
  expectedOutputKind : ExpectedOutputKind
  sourceClaimRefs : List String
  deriving DecidableEq

def sameWorkflowRun (workflowRunId commandWorkflowRunId : String) : Except Fault Unit :=
  if workflowRunId = commandWorkflowRunId then .ok ()
  else .error (.valueError "payload workflow_run_id must match workflow command")

/-- The payload reads of the handler, in its order. -/
def readExecuteCompaction (commandWorkflowRunId : String) (payload : Payload) :
    Except Fault CompactionOutputCheck := do
  let workflowRunId ← payloadText payload "workflow_run_id" (some commandWorkflowRunId)
  sameWorkflowRun workflowRunId commandWorkflowRunId
  let _ ← payloadText payload "dispatch_attempt_id" none
  let _ ← payloadText payload "work_item_id" none
  let _ ← payloadText payload "group_ref" none
  let _ ← payloadText payload "batch_ref" none
  let _ ← payloadInt payload "round_index"
  let kindText ← payloadText payload "expected_output_kind" none
  let kind ← expectedOutputKindOf kindText
  let sourceClaimRefs ← payloadTextTuple payload "source_claim_refs"
  pure ⟨kind, sourceClaimRefs⟩

/-- `_decoded_output_payload`, with the JSON reader. -/
def decodedOutputPayload (loads : String → Option PyValue) (output : Option Payload) :
    Except String Payload :=
  match output with
  | none => .error "output payload is required"
  | some payload => match payload.get "raw_text" with
    | some (.str rawText) => match loads rawText with
      | none => .error "output raw_text must be valid JSON"
      | some (.dict decoded) => .ok decoded
      | some _ => .error "decoded output must be JSON object"
    | _ => .ok payload

/-- `isinstance(value, str) and value.strip()`. -/
def nonBlankText? : Option PyValue → Option String
  | some (.str text) => if isBlank text then none else some text
  | _ => none

/-- One claim of `_claim_refs_from_claim_objects`. -/
def claimObjectRef? : PyValue → Option String
  | .dict item => nonBlankText? (Payload.get item "id") <|>
      nonBlankText? (Payload.get item "observation_ref")
  | _ => none

/-- `_claim_refs_from_claim_objects`. -/
def claimRefsFromClaimObjects : Option PyValue → List String
  | some (.list items) => items.filterMap claimObjectRef?
  | _ => []

/-- The references of one claim of an unchecked output. -/
def outputClaimRefs : PyValue → List String
  | .dict claim => match Payload.get claim "source_claim_refs" with
    | some (.list refs) => refs.filterMap fun ref => nonBlankText? (some ref)
    | _ => []
  | _ => []

/-- `_source_refs_from_compacted_output`. -/
def sourceRefsFromCompactedOutput (decoded : Payload) : List String :=
  match decoded.get "compacted_claims" with
  | some (.list claims) => claims.flatMap outputClaimRefs
  | _ => []

/-- `_mapping_text_tuple`: anything but a list counts as missing. -/
def mappingTextTuple (payload : Payload) (key : String) : Except String (List String) :=
  match payload.get key with
  | some (.list items) => items.mapM (stringItem key)
  | _ => .ok []

/-- `_input_claim_refs`: the first source that has any. -/
def inputClaimRefs (schedulePayload decoded : Payload) : Except String (List String) := do
  let directRefs ← mappingTextTuple schedulePayload "source_claim_refs"
  let payloadRefs := match schedulePayload.get "payload" with
    | some (.dict payload) => claimRefsFromClaimObjects (Payload.get payload "claims")
    | _ => []
  match directRefs, payloadRefs, sourceRefsFromCompactedOutput decoded with
  | [], [], [] => .error "source_claim_refs are required for compacted_claims validation"
  | [], [], outputRefs => .ok outputRefs
  | [], payloadRefs, _ => .ok payloadRefs
  | directRefs, _, _ => .ok directRefs

inductive ValidatedOutput
  | compactedClaims (claims : List DraftClaimCompactionOutputClaim)
  | reducedRewrite (rewrite : DraftClaimReducedRewriteOutput)

/-- The kind of the check an output passed. -/
def ValidatedOutput.kind : ValidatedOutput → ExpectedOutputKind
  | .compactedClaims _ => .compactedClaims
  | .reducedRewrite _ => .reducedRewrite

/-- `self.source_claim_refs or _input_claim_refs(…)`. -/
def checkedAgainst (check : CompactionOutputCheck) (schedulePayload decoded : Payload) :
    Except String (List String) :=
  if check.sourceClaimRefs = [] then inputClaimRefs schedulePayload decoded
  else .ok check.sourceClaimRefs

/-- `DraftClaimCompactionLlmDispatchOutputValidator.validate` of a successful
call: a refusal is a retryable failure with the given text. -/
def validateDispatchOutput (loads : String → Option PyValue) (check : CompactionOutputCheck)
    (schedulePayload : Payload) (output : Option Payload) : Except String ValidatedOutput := do
  let decoded ← decodedOutputPayload loads output
  match check.expectedOutputKind with
  | .compactedClaims => do
    let inputRefs ← checkedAgainst check schedulePayload decoded
    let claims ← validateCompactionOutput decoded inputRefs
    pure (.compactedClaims claims)
  | .reducedRewrite => do
    let rewrite ← validateReducedRewriteOutput decoded
    pure (.reducedRewrite rewrite)

/-- A work item is executed: its command is built, read, and the output of the
provider validated. -/
def executeCompaction (loads : String → Option PyValue) (builder : ExecuteCommandBuilder)
    (attempt : StartedAttempt) (plan : ScheduledPlan) (output : Option Payload) :
    Except Fault (Except String ValidatedOutput) := do
  let payload ← builder.payload attempt plan.payload
  let check ← readExecuteCompaction attempt.workflowRunId payload
  pure (validateDispatchOutput loads check plan.payload output)

/-- The execute handler accepts the output. -/
def Accepts (loads : String → Option PyValue) (builder : ExecuteCommandBuilder)
    (attempt : StartedAttempt) (plan : ScheduledPlan) (output : Option Payload)
    (accepted : ValidatedOutput) : Prop :=
  executeCompaction loads builder attempt plan output = .ok (.ok accepted)

/-! The scheduled work items and what they were scheduled for. -/

/-- A compaction work item with the handler that schedules it. -/
inductive CompactionWork
  | clustering (batch : CompactionBatch) (claims : List PromptClaim)
  | reduction (state : ReductionState) (observations : Observations) (group : GroupKey)
    (item : NextWorkItem)

namespace CompactionWork

/-- The plan the handler gives the scheduler. -/
def plan (env : PromptEnv) : CompactionWork → Except Fault (Option ScheduledPlan)
  | .clustering batch claims => .ok (some (clusterPlan env batch claims))
  | .reduction state observations group item => scheduleNextWork env state observations group item

/-- The output kind of the work type. -/
def expectedOutputKind : CompactionWork → ExpectedOutputKind
  | .clustering _ _ => .compactedClaims
  | .reduction _ _ _ item =>
    if item.workType = .reducedRewrite then .reducedRewrite else .compactedClaims

/-- The ids of the claims that the prompt shows; a rewrite shows its nodes. -/
def inputClaims : CompactionWork → List String
  | .clustering batch _ => batch.memberObservationRefs
  | .reduction state observations group item =>
    if item.workType = .reducedRewrite then item.nodeRefs
    else match loadPlannerState state group with
    | none => []
    | some planner => match comparisonPromptClaims planner observations item with
      | .ok claims => claims.map PromptClaim.claimId
      | .error _ => []

def IsClustering : CompactionWork → Prop
  | .clustering _ _ => True
  | .reduction _ _ _ _ => False

end CompactionWork

/-- An accepted output was checked under the kind of the work type, and its
claims have exactly the input claims, each once. -/
def CoversInput (work : CompactionWork) (accepted : ValidatedOutput) : Prop :=
  accepted.kind = work.expectedOutputKind ∧
    match accepted with
    | .compactedClaims claims =>
      (claims.flatMap (·.sourceClaimRefs)).Perm work.inputClaims
    | .reducedRewrite _ => True

/-! The command and the check it leads to. -/

variable {loads : String → Option PyValue} {attempt : StartedAttempt}

theorem mapM_textItem (message : String) {texts : List String}
    (htexts : ∀ text ∈ texts, isBlank text = false) :
    (texts.map PyValue.str).mapM (textItem message) = .ok texts := by
  apply mapM_map_eq_ok
  intro text htext
  simp [textItem, htexts text htext]

/-- The handler reads back what the command was built from. -/
theorem readExecuteCompaction_executeCommandPayload {groupRef batchRef : String}
    (hgroup : isBlank groupRef = false) (hbatch : isBlank batchRef = false) (round : Int)
    {copied : List (String × PyValue)} {sourceClaimRefs : List String}
    (hcopied : ∀ key ∈ copied.map Prod.fst, key = "source_claim_refs" ∨ key = "source_node_refs")
    (hclaims : payloadTextTuple
      (executeCommandPayload attempt groupRef batchRef "compacted_claims" (.int round) copied)
      "source_claim_refs" = .ok sourceClaimRefs) :
    readExecuteCompaction attempt.workflowRunId
        (executeCommandPayload attempt groupRef batchRef "compacted_claims" (.int round) copied) =
      .ok ⟨.compactedClaims, sourceClaimRefs⟩ := by
  have hget : ∀ key, key ≠ "source_claim_refs" → key ≠ "source_node_refs" →
      Payload.get (executeCommandPayload attempt groupRef batchRef "compacted_claims" (.int round)
        copied) key =
        (executeCommandFields attempt groupRef batchRef "compacted_claims"
            (.int round)).get key := by
    intro key hfirst hsecond
    refine Payload.get_update_of_notMem _ ?_
    intro hmem
    rcases hcopied key hmem with h | h
    · exact hfirst h
    · exact hsecond h
  have hkindText : isBlank "compacted_claims" = false := by decide
  have hkind : expectedOutputKindOf "compacted_claims" = .ok .compactedClaims := by rfl
  simp [readExecuteCompaction, payloadText, payloadInt, hget, executeCommandFields,
    Payload.get_ofEntries,
    attempt.workflowRunId_text, attempt.attemptId_text, attempt.workItemId_text, hgroup, hbatch,
    sameWorkflowRun, hkindText, hkind, hclaims, bind, Except.bind, pure,
    Except.pure]

/-- The command of a schedule payload without an output kind, a round and single
nodes: it asks for compacted claims. -/
theorem startedAttemptPayload_eq {schedulePayload copiedClaims copiedNodes : Payload}
    {groupRef batchRef : String}
    (hgroup : schedulePayload.get "group_ref" = some (.str groupRef))
    (hgroupText : isBlank groupRef = false)
    (hbatch : schedulePayload.get "batch_ref" = some (.str batchRef))
    (hbatchText : isBlank batchRef = false)
    (hround : schedulePayload.get "round_index" = none)
    (hkind : schedulePayload.get "expected_output_kind" = none)
    (hleft : schedulePayload.get "left_node_ref" = none)
    (hright : schedulePayload.get "right_node_ref" = none)
    (hclaims : copiedTextList schedulePayload "source_claim_refs" = .ok copiedClaims)
    (hnodes : copiedTextList schedulePayload "source_node_refs" = .ok copiedNodes) :
    startedAttemptPayload attempt schedulePayload =
      .ok (executeCommandPayload attempt groupRef batchRef "compacted_claims" (.int 0)
        (copiedClaims ++ copiedNodes)) := by
  have hkindText : isBlank "compacted_claims" = false := by decide
  simp [startedAttemptPayload, mappingText, mappingInt, copiedText, payloadGet, hgroup,
    hgroupText, hbatch, hbatchText, hround, hkind, hkindText, hleft, hright, hclaims, hnodes,
    bind, Except.bind, pure, Except.pure]

/-! The clustering handler. -/

theorem copiedTextList_of_list {payload : Payload} {key : String} {texts : List String}
    (hget : payload.get key = some (.list (texts.map .str)))
    (htexts : ∀ text ∈ texts, isBlank text = false) :
    copiedTextList payload key = .ok [(key, .list (texts.map .str))] := by
  have hitems := mapM_textItem ("mapping payload " ++ key ++ " must contain non-empty text") htexts
  simp [copiedTextList, payloadGet, hget, hitems, bind, Except.bind, pure, Except.pure]

/-- The command of a clustered work item asks for compacted claims of its members. -/
theorem startedAttemptPayload_clusterPlan (env : PromptEnv) (batch : CompactionBatch)
    (claims : List PromptClaim) :
    startedAttemptPayload attempt (clusterPlan env batch claims).payload =
      .ok (executeCommandPayload attempt batch.groupRef batch.batchRef "compacted_claims" (.int 0)
        [("source_claim_refs", .list (batch.memberObservationRefs.map .str))]) := by
  have hgroup : (clusterPlan env batch claims).payload.get "group_ref" =
      some (.str batch.groupRef) := by
    simp [clusterPlan, Payload.get]
  have hbatch : (clusterPlan env batch claims).payload.get "batch_ref" =
      some (.str batch.batchRef) := by
    simp [clusterPlan, Payload.get]
  have hround : (clusterPlan env batch claims).payload.get "round_index" = none := by
    simp [clusterPlan, Payload.get]
  have hkind : (clusterPlan env batch claims).payload.get "expected_output_kind" = none := by
    simp [clusterPlan, Payload.get]
  have hleft : (clusterPlan env batch claims).payload.get "left_node_ref" = none := by
    simp [clusterPlan, Payload.get]
  have hright : (clusterPlan env batch claims).payload.get "right_node_ref" = none := by
    simp [clusterPlan, Payload.get]
  have hmembers : (clusterPlan env batch claims).payload.get "source_claim_refs" =
      some (.list (batch.memberObservationRefs.map .str)) := by
    simp [clusterPlan, Payload.get]
  have hclaims := copiedTextList_of_list hmembers batch.members_text
  have hnodes : copiedTextList (clusterPlan env batch claims).payload "source_node_refs" =
      .ok [] := by
    simp [copiedTextList, payloadGet, clusterPlan, Payload.get]
  rw [startedAttemptPayload_eq hgroup batch.groupRef_text hbatch batch.batchRef_text hround hkind
    hleft hright hclaims hnodes, List.append_nil]

/-- A clustered work item is executed against its members. -/
theorem executeCompaction_clustering (env : PromptEnv) (batch : CompactionBatch)
    (claims : List PromptClaim) (output : Option Payload) :
    executeCompaction loads .startedAttempts attempt (clusterPlan env batch claims) output =
      .ok (validateDispatchOutput loads ⟨.compactedClaims, batch.memberObservationRefs⟩
        (clusterPlan env batch claims).payload output) := by
  have hmembers : payloadTextTuple (executeCommandPayload attempt batch.groupRef batch.batchRef
      "compacted_claims" (.int 0)
      [("source_claim_refs", .list (batch.memberObservationRefs.map .str))]) "source_claim_refs" =
      .ok batch.memberObservationRefs := by
    have hitems := mapM_textItem "workflow command payload source_claim_refs must contain text"
      batch.members_text
    simp [payloadTextTuple, payloadGet, executeCommandPayload, Payload.update, hitems]
  have hread := readExecuteCompaction_executeCommandPayload batch.groupRef_text
    batch.batchRef_text 0 (by simp) hmembers
  simp only [executeCompaction, ExecuteCommandBuilder.payload, startedAttemptPayload_clusterPlan,
    hread, bind, Except.bind, pure, Except.pure]

theorem coversInput_of_clustering (env : PromptEnv) {batch : CompactionBatch}
    {claims : List PromptClaim} {output : Option Payload} {accepted : ValidatedOutput}
    (h : Accepts loads .startedAttempts attempt (clusterPlan env batch claims) output accepted) :
    CoversInput (.clustering batch claims) accepted := by
  unfold Accepts at h
  rw [executeCompaction_clustering, Except.ok.injEq] at h
  simp only [validateDispatchOutput, bind_eq_ok] at h
  obtain ⟨decoded, _, inputRefs, hinput, outputs, houtputs, hpure⟩ := h
  simp only [pure, Except.pure, Except.ok.injEq] at hpure
  rw [checkedAgainst, if_neg batch.members_ne_nil, Except.ok.injEq] at hinput
  rw [← hpure]
  refine ⟨rfl, ?_⟩
  have hperm := validateCompactionOutput_perm houtputs
  rwa [← hinput] at hperm

/-! The plan applier. -/

/-- No scheduled payload names an output kind, so no command is built. -/
theorem admittedItemPayload_ne_ok {schedulePayload payload : Payload}
    (hkind : schedulePayload.get "expected_output_kind" = none) :
    admittedItemPayload attempt schedulePayload ≠ .ok payload := by
  intro h
  simp only [admittedItemPayload, bind_eq_ok] at h
  obtain ⟨_, _, _, _, kind, hread, _, _, _, _, _, _, _, _, _, hrequired, _⟩ := h
  simp only [contextText, payloadGet, hkind, Except.ok.injEq] at hread
  rw [← hread] at hrequired
  cases hrequired

end CrmBot.Compaction
