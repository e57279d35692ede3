import CrmBot.CapacityAdmissionQueue.AdmissionResult
import CrmBot.ClaimBuilder.ReconcileProgress
import CrmBot.WorkflowRuntime.AppendAgain

/-! The command that splits a source unit, from the prepare handler that builds
it to the split handler that reads it.

The builder puts the refs into the payload as tuples. The log keeps JSON, so the
handler is given lists, and it reads tuples alone. -/

namespace CrmBot.ClaimBuilder

open CrmBot.Python CrmBot.CapacityAdmissionQueue CrmBot.ExecutionRuntime
  CrmBot.WorkflowRuntime FailingFold

def splitClaimBuilderSourceUnit : String := "SplitClaimBuilderSourceUnit"

/-! The prepare handler. -/

/-- `isinstance(item, str) and item.strip()`, for every item. -/
def textItems (fault : Fault) : List PyObject → Except Fault (List String)
  | [] => .ok []
  | .str value :: rest =>
    if isBlank value then .error fault else (textItems fault rest).map (value :: ·)
  | _ :: _ => .error fault

/-- `_metadata_text_tuple`. -/
def metadataTextTuple (metadata : ObjectPayload) (key : String) : Except Fault (List String) :=
  match PyObject.lookup metadata key with
  | some (.tuple []) => .error (.valueError ("preflight metadata " ++ key ++ " must be non-empty"))
  | some (.tuple items) =>
    textItems (.valueError ("preflight metadata " ++ key ++ " must contain non-empty text")) items
  | _ => .error (.valueError ("preflight metadata must include tuple " ++ key))

/-- `_metadata_text`. -/
def metadataText (metadata : ObjectPayload) (key : String) : Except Fault String :=
  let fault := Fault.valueError ("preflight metadata must include " ++ key)
  match PyObject.lookup metadata key with
  | some (.str value) => if isBlank value then .error fault else .ok value
  | _ => .error fault

/-- What `_source_split_payload` reads. -/
structure SourceSplit where
  sourceDocumentRef : String
  sourceUnitRefs : List String
  affectedWorkItemRefs : List String
  scheduledWorkItemCount : Nat
  inputTokens : Nat
  activeModelRef : String
  preflightDecision : String
  preflightReason : String

def readSourceSplit (command : WorkflowCommand) (metadata : ObjectPayload) :
    Except Fault SourceSplit := do
  let dispatch ← payloadMapping command.payload "llm_dispatch_preparation"
  let profile ← payloadMapping dispatch "profile"
  let sourceUnitRefs ← metadataTextTuple metadata "source_unit_refs"
  let affectedWorkItemRefs ← metadataTextTuple metadata "affected_work_item_refs"
  let sourceDocumentRef ← payloadText command.payload "source_document_ref" none
  let scheduledWorkItemCount ← payloadPositiveInt command.payload "scheduled_work_item_count"
  let inputTokens ← payloadPositiveInt profile "input_tokens"
  let activeModelRef ← metadataText metadata "input_size_preflight_active_model_ref"
  let preflightDecision ← metadataText metadata "input_size_preflight_decision"
  let preflightReason ← metadataText metadata "input_size_preflight_reason"
  return ⟨sourceDocumentRef, sourceUnitRefs, affectedWorkItemRefs, scheduledWorkItemCount,
    inputTokens, activeModelRef, preflightDecision, preflightReason⟩

def textTuple (values : List String) : PyObject := .tuple (values.map PyObject.str)

/-- `_source_split_payload`, with the dispatch preparation that the command adds. -/
def sourceSplitPayload (split : SourceSplit) (workflowRunId : String)
    (preparation : ObjectPayload) : ObjectPayload :=
  [("active_model_ref", .str split.activeModelRef),
    ("affected_work_item_refs", textTuple split.affectedWorkItemRefs),
    ("input_size_preflight_decision", .str split.preflightDecision),
    ("input_size_preflight_reason", .str split.preflightReason),
    ("input_tokens", .int split.inputTokens)] ++ preparation ++
  [("scheduled_work_item_count", .int split.scheduledWorkItemCount),
    ("source_document_ref", .str split.sourceDocumentRef),
    ("source_split_required", .bool true),
    ("source_unit_ref", .str (split.sourceUnitRefs.headD "")),
    ("source_unit_refs", textTuple split.sourceUnitRefs),
    ("split_reason", .str "input_size_preflight"),
    ("work_kind", .str claimBuilderSectionWorkKind),
    ("workflow_run_id", .str workflowRunId)]

/-- `_split_claim_builder_source_unit_command`. The command refuses a blank run. -/
def splitClaimBuilderSourceUnitCommand (command : WorkflowCommand) (workflowRunId : String)
    (metadata : ObjectPayload) (occurredAt : Int) : Except Fault CommandObject := do
  let split ← readSourceSplit command metadata
  let preparation ← copiedPreparation command
  requireNonEmptyText workflowRunId "workflow_run_id"
  let key := "split-claim-builder-source-unit:" ++ workflowRunId ++ ":" ++ split.sourceDocumentRef
  return {
    commandId := "workflow-command:" ++ key
    commandType := splitClaimBuilderSourceUnit
    workflowRunId := workflowRunId
    idempotencyKey := key
    payload := sourceSplitPayload split workflowRunId (PyObject.ofJsonEntries preparation)
    status := .pending
    runAfter := occurredAt
    createdAt := occurredAt
    updatedAt := occurredAt
    causationEventId := none
    correlationId := none
    attemptCount := 0 }

/-! The split handler. -/

/-- `_payload_text`. -/
def splitPayloadText (payload : ObjectPayload) (key : String) (fallback : Option String) :
    Except Fault String :=
  let fault := Fault.valueError ("workflow command payload " ++ key ++ " must be non-empty text")
  match PyObject.lookup payload key with
  | some (.str value) => if isBlank value then .error fault else .ok value
  | some _ => .error fault
  | none => match fallback with
    | some value => if isBlank value then .error fault else .ok value
    | none => .error fault

/-- `_payload_text_tuple`. -/
def splitPayloadTextTuple (payload : ObjectPayload) (key : String) :
    Except Fault (List String) :=
  match PyObject.lookup payload key with
  | some (.tuple []) =>
    .error (.valueError ("workflow command payload " ++ key ++ " must be non-empty"))
  | some (.tuple items) =>
    textItems (.valueError ("workflow command payload " ++ key ++ " must contain non-empty text"))
      items
  | _ => .error (.valueError ("workflow command payload " ++ key ++ " must be tuple"))

/-- `_validate_workflow_command`. -/
def validateSplitCommand (command : CommandObject) : Except Fault Unit :=
  if command.commandType ≠ splitClaimBuilderSourceUnit then
    .error (.valueError "workflow_command command_type must be SplitClaimBuilderSourceUnit")
  else if command.status ≠ .pending then
    .error (.valueError "workflow_command status must be PENDING")
  else .ok ()

/-- The refs that the handler takes from its command. The children it makes, the
items it supersedes and the work it schedules all follow from these and from the
repositories. -/
structure SplitRequest where
  workflowRunId : String
  sourceDocumentRef : String
  parentSourceUnitRef : String
  affectedWorkItemRefs : List String
  deriving DecidableEq

/-- The run that the payload names is the command's own. -/
def checkSplitRun (command : CommandObject) (workflowRunId : String) : Except Fault Unit :=
  if workflowRunId ≠ command.workflowRunId then
    .error (.valueError "payload workflow_run_id must match workflow command")
  else .ok ()

def onlySourceUnitRef : List String → Except Fault String
  | [ref] => .ok ref
  | _ => .error
    (.valueError "SPLIT_CLAIM_BUILDER_SOURCE_UNIT supports exactly one source_unit_ref")

/-- `HandleSplitClaimBuilderSourceUnitCommandHandler.execute`, until it loads the
parent source unit. -/
def splitRequest (command : CommandObject) : Except Fault SplitRequest := do
  validateSplitCommand command
  let workflowRunId ←
    splitPayloadText command.payload "workflow_run_id" (some command.workflowRunId)
  checkSplitRun command workflowRunId
  let sourceDocumentRef ← splitPayloadText command.payload "source_document_ref" none
  let sourceUnitRefs ← splitPayloadTextTuple command.payload "source_unit_refs"
  let parentSourceUnitRef ← onlySourceUnitRef sourceUnitRefs
  let affectedWorkItemRefs ← splitPayloadTextTuple command.payload "affected_work_item_refs"
  return ⟨workflowRunId, sourceDocumentRef, parentSourceUnitRef, affectedWorkItemRefs⟩

/-- The handler accepts the command before it is stored, and reads the same refs
from the stored one. -/
def DecodesAlike (command : CommandObject) (stored : WorkflowCommand) : Prop :=
  ∃ request, splitRequest command = .ok request ∧ splitRequest stored.toObject = .ok request

/-! Before the command is stored. -/

variable {command : WorkflowCommand} {metadata : ObjectPayload} {workflowRunId : String}
  {occurredAt : Int} {built : CommandObject}

/-- The refs of a split that was read are texts, and there are some. -/
theorem readSourceSplit_refs {split : SourceSplit}
    (h : readSourceSplit command metadata = .ok split) :
    metadataTextTuple metadata "source_unit_refs" = .ok split.sourceUnitRefs ∧
      metadataTextTuple metadata "affected_work_item_refs" = .ok split.affectedWorkItemRefs ∧
      payloadText command.payload "source_document_ref" none = .ok split.sourceDocumentRef := by
  obtain ⟨_, _, h⟩ := bind_eq_ok.mp h
  obtain ⟨_, _, h⟩ := bind_eq_ok.mp h
  obtain ⟨_, hunits, h⟩ := bind_eq_ok.mp h
  obtain ⟨_, hitems, h⟩ := bind_eq_ok.mp h
  obtain ⟨_, hdocument, h⟩ := bind_eq_ok.mp h
  obtain ⟨_, _, h⟩ := bind_eq_ok.mp h
  obtain ⟨_, _, h⟩ := bind_eq_ok.mp h
  obtain ⟨_, _, h⟩ := bind_eq_ok.mp h
  obtain ⟨_, _, h⟩ := bind_eq_ok.mp h
  obtain ⟨_, _, h⟩ := bind_eq_ok.mp h
  cases h
  exact ⟨hunits, hitems, hdocument⟩

/-- What the builder makes of what it read. -/
theorem splitClaimBuilderSourceUnitCommand_eq_ok
    (h : splitClaimBuilderSourceUnitCommand command workflowRunId metadata occurredAt =
      .ok built) :
    ∃ split preparation, readSourceSplit command metadata = .ok split ∧
      copiedPreparation command = .ok preparation ∧ isBlank workflowRunId = false ∧
      built.commandType = splitClaimBuilderSourceUnit ∧ built.status = .pending ∧
      built.workflowRunId = workflowRunId ∧
      built.payload =
        sourceSplitPayload split workflowRunId (PyObject.ofJsonEntries preparation) := by
  obtain ⟨split, hsplit, h⟩ := bind_eq_ok.mp h
  obtain ⟨preparation, hpreparation, h⟩ := bind_eq_ok.mp h
  obtain ⟨_, hrun, h⟩ := bind_eq_ok.mp h
  cases h
  exact ⟨split, preparation, hsplit, hpreparation, requireNonEmptyText_eq_ok.mp hrun,
    rfl, rfl, rfl, rfl⟩

/-- The preparation does not hide another key. -/
theorem lookup_sourceSplitPayload (split : SourceSplit) (workflowRunId : String)
    {preparation : List (String × PyValue)}
    (hpreparation : copiedPreparation command = .ok preparation) :
    let payload := sourceSplitPayload split workflowRunId (PyObject.ofJsonEntries preparation)
    PyObject.lookup payload "workflow_run_id" = some (.str workflowRunId) ∧
      PyObject.lookup payload "source_document_ref" = some (.str split.sourceDocumentRef) ∧
      PyObject.lookup payload "source_unit_refs" = some (textTuple split.sourceUnitRefs) ∧
      PyObject.lookup payload "affected_work_item_refs" =
        some (textTuple split.affectedWorkItemRefs) := by
  unfold copiedPreparation at hpreparation
  split at hpreparation
  · cases hpreparation
    exact ⟨rfl, rfl, rfl, rfl⟩
  · cases hpreparation
    exact ⟨rfl, rfl, rfl, rfl⟩
  · cases hpreparation

theorem splitPayloadText_of_str {payload : ObjectPayload} {key value : String}
    {fallback : Option String} (hentry : PyObject.lookup payload key = some (.str value))
    (hvalue : isBlank value = false) : splitPayloadText payload key fallback = .ok value := by
  unfold splitPayloadText
  rw [hentry]
  simp [hvalue]

theorem isBlank_of_payloadText {payload : Payload} {key value : String}
    (h : payloadText payload key none = .ok value) : isBlank value = false := by
  unfold payloadText at h
  split at h
  · split at h
    · cases h
    · next hblank =>
      cases h
      simpa using hblank
  · cases h
  · cases h

/-- What the split handler reads before the refs of source units. -/
theorem splitRequest_front {object : CommandObject}
    (htype : object.commandType = splitClaimBuilderSourceUnit) (hstatus : object.status = .pending)
    (hrun : splitPayloadText object.payload "workflow_run_id" (some object.workflowRunId) =
      .ok object.workflowRunId) {sourceDocumentRef : String}
    (hdocument : splitPayloadText object.payload "source_document_ref" none =
      .ok sourceDocumentRef) :
    splitRequest object = do
      let sourceUnitRefs ← splitPayloadTextTuple object.payload "source_unit_refs"
      let parentSourceUnitRef ← onlySourceUnitRef sourceUnitRefs
      let affectedWorkItemRefs ← splitPayloadTextTuple object.payload "affected_work_item_refs"
      return ⟨object.workflowRunId, sourceDocumentRef, parentSourceUnitRef,
        affectedWorkItemRefs⟩ := by
  have hvalid : validateSplitCommand object = .ok () := by
    simp [validateSplitCommand, htype, hstatus]
  have hsame : checkSplitRun object object.workflowRunId = .ok () := by
    simp [checkSplitRun]
  unfold splitRequest
  rw [hvalid, hrun, hdocument]
  simp only [bind, Except.bind, hsame]

/-! After it is stored. -/

/-- A payload read from JSON has no tuple. -/
theorem splitPayloadTextTuple_ofJson (payload : Payload) (key : String) :
    splitPayloadTextTuple (PyObject.ofJsonEntries payload) key =
      .error (.valueError ("workflow command payload " ++ key ++ " must be tuple")) := by
  unfold splitPayloadTextTuple
  rw [PyObject.lookup_ofJsonEntries]
  cases payload.get key with
  | none => rfl
  | some value => cases value <;> rfl

/-- The handler accepts no command that was read from the log. -/
theorem splitRequest_toObject (stored : WorkflowCommand) (request : SplitRequest) :
    splitRequest stored.toObject ≠ .ok request := by
  intro h
  obtain ⟨_, _, h⟩ := bind_eq_ok.mp h
  obtain ⟨_, _, h⟩ := bind_eq_ok.mp h
  obtain ⟨_, _, h⟩ := bind_eq_ok.mp h
  obtain ⟨_, _, h⟩ := bind_eq_ok.mp h
  obtain ⟨_, hrefs, _⟩ := bind_eq_ok.mp h
  have hreject := splitPayloadTextTuple_ofJson stored.payload "source_unit_refs"
  rw [show PyObject.ofJsonEntries stored.payload = stored.toObject.payload from rfl,
    hrefs] at hreject
  cases hreject

/-- A text stays what it was. -/
theorem lookup_stored_of_str {object : CommandObject} {key value : String}
    (h : PyObject.lookup object.payload key = some (.str value)) :
    PyObject.lookup object.stored.toObject.payload key = some (.str value) := by
  change PyObject.lookup (PyObject.ofJsonEntries (PyObject.decodedEntries object.payload)) key = _
  rw [PyObject.lookup_ofJsonEntries, PyObject.get_decodedEntries, h]
  rfl

/-- A payload with a tuple equals no stored one. -/
theorem equalEntries_of_textTuple {entries : ObjectPayload} {key : String} {values : List String}
    (h : PyObject.lookup entries key = some (textTuple values)) (payload : Payload) :
    PyObject.equalEntries entries payload = false := by
  rw [Bool.eq_false_iff]
  intro hequal
  have hjson := PyObject.jsonEntries_of_equalEntries hequal
  clear hequal
  induction entries with
  | nil => cases h
  | cons entry rest ih =>
    obtain ⟨name, value⟩ := entry
    unfold PyObject.jsonEntries at hjson
    rw [Bool.and_eq_true] at hjson
    unfold PyObject.lookup at h
    split at h
    · cases h
      cases hjson.1
    · exact ih h hjson.2

/-- A built command is never taken for one that is stored already. -/
theorem stored_of_appended {log next : CommandLog} {stored : WorkflowCommand}
    (hbuilt : splitClaimBuilderSourceUnitCommand command workflowRunId metadata occurredAt =
      .ok built)
    (happended : appendCommandObject log built = .ok (stored, next)) : stored = built.stored := by
  obtain ⟨split, _, _, hpreparation, _, _, _, _, hpayload⟩ :=
    splitClaimBuilderSourceUnitCommand_eq_ok hbuilt
  obtain ⟨_, _, hunits, _⟩ := lookup_sourceSplitPayload split workflowRunId hpreparation
  rw [← hpayload] at hunits
  rcases appendCommandObject_cases happended with ⟨_, _, hsame, _⟩ | ⟨hstored, _⟩
  · have hequal := (assertSame_eq_ok_iff.mp hsame).2.2
    rw [equalEntries_of_textTuple hunits] at hequal
    cases hequal
  · exact hstored

/-- A built command that was read from the log is refused at its first refs. -/
theorem splitRequest_stored {log next : CommandLog} {stored : WorkflowCommand}
    (hbuilt : splitClaimBuilderSourceUnitCommand command workflowRunId metadata occurredAt =
      .ok built)
    (happended : appendCommandObject log built = .ok (stored, next)) :
    splitRequest stored.toObject = .error
      (.valueError "workflow command payload source_unit_refs must be tuple") := by
  rw [stored_of_appended hbuilt happended]
  obtain ⟨split, _, hsplit, hpreparation, hrun, htype, hstatus, hbuiltRun, hpayload⟩ :=
    splitClaimBuilderSourceUnitCommand_eq_ok hbuilt
  obtain ⟨hrunEntry, hdocument, _, _⟩ :=
    lookup_sourceSplitPayload split workflowRunId hpreparation
  rw [← hpayload] at hrunEntry hdocument
  rw [← hbuiltRun] at hrunEntry hrun
  obtain ⟨_, _, hdocumentRef⟩ := readSourceSplit_refs hsplit
  have hreadRun : splitPayloadText built.stored.toObject.payload "workflow_run_id"
      (some built.stored.toObject.workflowRunId) = .ok built.stored.toObject.workflowRunId :=
    splitPayloadText_of_str (lookup_stored_of_str hrunEntry) hrun
  have hreadDocument : splitPayloadText built.stored.toObject.payload "source_document_ref"
      none = .ok split.sourceDocumentRef :=
    splitPayloadText_of_str (lookup_stored_of_str hdocument)
      (isBlank_of_payloadText hdocumentRef)
  have hunits : splitPayloadTextTuple built.stored.toObject.payload "source_unit_refs" =
      .error (.valueError "workflow command payload source_unit_refs must be tuple") :=
    splitPayloadTextTuple_ofJson _ "source_unit_refs"
  have hstoredType : built.stored.toObject.commandType = splitClaimBuilderSourceUnit := htype
  rw [splitRequest_front hstoredType hstatus hreadRun hreadDocument, hunits]
  rfl

/-- The handler refuses every built command once it is read from the log. -/
theorem appendedSplit_refused {log next : CommandLog} {stored : WorkflowCommand}
    (hbuilt : splitClaimBuilderSourceUnitCommand command workflowRunId metadata occurredAt =
      .ok built)
    (happended : appendCommandObject log built = .ok (stored, next)) :
    splitRequest stored.toObject = .error
        (.valueError "workflow command payload source_unit_refs must be tuple") ∧
      ¬ DecodesAlike built stored := by
  constructor
  · exact splitRequest_stored hbuilt happended
  · rintro ⟨request, _, hstored⟩
    exact splitRequest_toObject stored request hstored

/-- A prepare command whose dispatch was found too large. -/
def oversizedPrepare : WorkflowCommand :=
  pendingCommand prepareClaimBuilderDispatchBatch "knowledge-extraction:doc" "prepare"
    [("llm_dispatch_preparation", .dict [("profile", .dict [("input_tokens", .int 9000)])]),
      ("scheduled_work_item_count", .int 1), ("source_document_ref", .str "doc")] 0 0

def oversizedPreflight : ObjectPayload :=
  [("affected_work_item_refs", textTuple ["item"]),
    ("input_size_preflight_active_model_ref", .str "qwen/qwen3-32b"),
    ("input_size_preflight_decision", .str "SPLIT_SOURCE"),
    ("input_size_preflight_reason", .str "input_too_large"),
    ("source_unit_refs", textTuple ["unit"])]

theorem oversizedSplit_built :
    ∃ built stored next,
      splitClaimBuilderSourceUnitCommand oversizedPrepare "knowledge-extraction:doc"
        oversizedPreflight 0 = .ok built ∧
      appendCommandObject .empty built = .ok (stored, next) ∧
      splitRequest built = .ok ⟨"knowledge-extraction:doc", "doc", "unit", ["item"]⟩ := by
  exact ⟨_, _, _, rfl, rfl, by decide⟩

/-- The handler accepts this command in memory, and not what the log gives back
of it. -/
theorem oversizedSplit_not_decodesAlike :
    ∃ built stored next,
      splitClaimBuilderSourceUnitCommand oversizedPrepare "knowledge-extraction:doc"
        oversizedPreflight 0 = .ok built ∧
      appendCommandObject .empty built = .ok (stored, next) ∧
      splitRequest built = .ok ⟨"knowledge-extraction:doc", "doc", "unit", ["item"]⟩ ∧
      ¬ DecodesAlike built stored := by
  obtain ⟨built, stored, next, hbuilt, happended, haccepted⟩ := oversizedSplit_built
  refine ⟨built, stored, next, hbuilt, happended, haccepted, ?_⟩
  rintro ⟨request, _, hstored⟩
  exact splitRequest_toObject stored request hstored

theorem oversizedSplit_refused :
    ∃ built stored next,
      splitClaimBuilderSourceUnitCommand oversizedPrepare "knowledge-extraction:doc"
        oversizedPreflight 0 = .ok built ∧
      appendCommandObject .empty built = .ok (stored, next) ∧
      splitRequest stored.toObject = .error
        (.valueError "workflow command payload source_unit_refs must be tuple") ∧
      ¬ DecodesAlike built stored := by
  obtain ⟨built, stored, next, hbuilt, happended, _⟩ := oversizedSplit_built
  exact ⟨built, stored, next, hbuilt, happended, appendedSplit_refused hbuilt happended⟩

end CrmBot.ClaimBuilder
