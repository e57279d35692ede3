import CrmBot.ClaimBuilder.ScheduleSectionWork
import CrmBot.ClaimBuilder.SplitCommand
import CrmBot.DocumentSegmentation.SourceUnits
import CrmBot.ExecutionRuntime.ItemStatus

/-! The split handler: a source unit that is too large for its prompt is cut into
children, its work is superseded and the work of the children is scheduled.

The handler runs in one transaction. The progress snapshot, the timeline and the
admission projection, which it only writes, are left out. -/

namespace CrmBot.ClaimBuilder

open Relational CrmBot.Python CrmBot.ExecutionRuntime CrmBot.WorkflowRuntime
  CrmBot.DocumentSegmentation FailingFold

/-- A source unit as the source management keeps it. -/
abbrev StoredUnit := DocumentSegmentation.SourceUnit

/-- The tables that the handler reads and writes. -/
structure SplitWorld where
  documents : Table SourceDocument.documentRef
  sourceUnits : Table DocumentSegmentation.SourceUnit.unitRef
  execution : ExecutionStore
  commandLog : CommandLog
  outbox : Outbox

/-- What the handler takes from its surroundings: the profile and the prompt of
the claim builder, the hash function and the time of the database. -/
structure SplitEnv where
  schedule : ScheduleEnv
  hexdigest : String → String
  now : Int

/-! The children. -/

/-- `_child_source_unit_ref`. -/
def childSourceUnitRef (hexdigest : String → String) (parent candidate : StoredUnit)
    (childOrdinal : Nat) : String :=
  "source-unit:" ++ parent.documentRef ++ ":split:" ++ toString childOrdinal ++ ":" ++
    hexdigest (parent.unitRef ++ ":" ++ candidate.unitRef ++ ":" ++ toString childOrdinal ++ ":" ++
      String.ofList candidate.text)

/-- A part of the parent, numbered after the units that the document has. -/
def childSourceUnit (hexdigest : String → String) (parent : StoredUnit) (occurredAt : Int)
    (numbered : StoredUnit × Nat) : StoredUnit :=
  { numbered.1 with
    unitRef := childSourceUnitRef hexdigest parent numbered.1 numbered.2
    documentRef := parent.documentRef
    parentRefs := [parent.unitRef]
    ordinal := numbered.2
    createdAt := occurredAt }

/-- The ordinal after the largest one, and zero where there is none. -/
def nextOrdinal (units : List StoredUnit) : Nat :=
  (units.map fun unit => unit.ordinal + 1).foldl max 0

/-- `_split_parent_source_unit`. -/
def splitParentSourceUnit (hexdigest : String → String) (document : SourceDocument)
    (parent : StoredUnit) (existing : List StoredUnit) (occurredAt : Int) :
    Except Fault (List StoredUnit) :=
  match existing.filter fun unit => unit.parentRefs.contains parent.unitRef with
  | child :: others => .ok (child :: others)
  | [] => do
    let candidates ← buildSourceUnitsFromText defaultSourceIngestionSegmentationBudget hexdigest
      document parent.text occurredAt
    if candidates.length < 2 then
      .error (.valueError "source unit split produced fewer than two child source units")
    else
      return (candidates.zipIdx (nextOrdinal existing)).map
        (childSourceUnit hexdigest parent occurredAt)

/-! The repositories. -/

/-- `save_source_units`. -/
def saveSourceUnits (units : Table DocumentSegmentation.SourceUnit.unitRef)
    (saved : List StoredUnit) : Table DocumentSegmentation.SourceUnit.unitRef :=
  saved.foldl (fun table unit =>
    table.upsert unit (fun old => { unit with unitRef := old.unitRef }) fun _ => rfl) units

/-- `list_source_units_for_document`. -/
def listSourceUnitsForDocument (units : Table DocumentSegmentation.SourceUnit.unitRef)
    (documentRef : String) : List StoredUnit :=
  units.select (fun unit => unit.documentRef = documentRef)
    fun first second => first.ordinal ≤ second.ordinal

/-- One round of `SupersedeWaitingWorkItemsForSplit`. The retry plan column keeps
its value. -/
def supersedeWaiting (now : Int) (store : ExecutionStore) (workItemId : String) :
    Except Fault ExecutionStore :=
  match store.workItems.find? workItemId with
  | none => .error (.valueError ("work item not found: " ++ workItemId))
  | some row =>
    if row.item.status = .splitSuperseded then .ok store
    else do
      let superseded ← WorkItemStateMachine.markSplitSupersededWaiting
        (hydrateWithoutRetryPlan row)
      return updateWorkItem store workItemId superseded (fun old => old.item.retryPlan) now

/-- `SupersedeWaitingWorkItemsForSplit.execute`. -/
def supersedeWaitingWorkItemsForSplit (now : Int) (store : ExecutionStore)
    (workItemIds : List String) : Except Fault ExecutionStore :=
  workItemIds.foldlM (supersedeWaiting now) store

/-- A stored unit as scheduling reads it. -/
def sectionUnit (unit : StoredUnit) : SourceUnit where
  unitRef := unit.unitRef
  documentRef := unit.documentRef
  ordinal := unit.ordinal
  text := String.ofList unit.text
  headingPath := unit.headingPath.map String.ofList

/-! What the handler appends. -/

/-- `_source_unit_split_completed_event`. -/
def sourceUnitSplitCompletedEvent (command : CommandObject) (request : SplitRequest)
    (children : List StoredUnit) (scheduledChildWorkItemCount : Nat) : EventObject where
  eventId := "workflow-event:" ++ request.workflowRunId ++
    ":ClaimBuilderSourceUnitSplitCompleted:" ++ request.parentSourceUnitRef
  eventType := "ClaimBuilderSourceUnitSplitCompleted"
  workflowRunId := request.workflowRunId
  payload :=
    [("child_source_unit_refs", textTuple (children.map DocumentSegmentation.SourceUnit.unitRef)),
      ("parent_source_unit_ref", .str request.parentSourceUnitRef),
      ("scheduled_child_work_item_count", .int scheduledChildWorkItemCount),
      ("source_document_ref", .str request.sourceDocumentRef),
      ("superseded_work_item_refs", textTuple request.affectedWorkItemRefs),
      ("workflow_run_id", .str request.workflowRunId)]
  occurredAt := command.updatedAt
  causationCommandId := some command.commandId
  correlationId := some command.idempotencyKey

/-- `_prepare_dispatch_batch_command` of the split handler. -/
def prepareAfterSplitCommand (command : CommandObject) (request : SplitRequest)
    (scheduledChildWorkItemCount : Nat) : CommandObject :=
  let key := "prepare-claim-builder-dispatch-batch-after-source-split:" ++
    request.workflowRunId ++ ":" ++ request.parentSourceUnitRef
  { commandId := "workflow-command:" ++ key
    commandType := prepareClaimBuilderDispatchBatch
    workflowRunId := request.workflowRunId
    idempotencyKey := key
    payload :=
      [("parent_source_unit_ref", .str request.parentSourceUnitRef),
        ("scheduled_work_item_count", .int scheduledChildWorkItemCount),
        ("source_document_ref", .str request.sourceDocumentRef),
        ("workflow_run_id", .str request.workflowRunId)]
    status := .pending
    runAfter := command.updatedAt
    createdAt := command.updatedAt
    updatedAt := command.updatedAt
    causationEventId := none
    correlationId := none
    attemptCount := 0 }

/-! The handler. -/

/-- The parent unit of a request, and its document. -/
def loadParent (world : SplitWorld) (request : SplitRequest) :
    Except Fault (StoredUnit × SourceDocument) :=
  match world.sourceUnits.find? request.parentSourceUnitRef with
  | none => .error (.valueError "parent source unit not found")
  | some parent =>
    if parent.documentRef ≠ request.sourceDocumentRef then
      .error (.valueError "parent source unit document_ref mismatch")
    else match world.documents.find? request.sourceDocumentRef with
      | none => .error (.valueError "source document not found")
      | some document => .ok (parent, document)

/-- The work of the children. A conflict with other work is an error. -/
def scheduleChildren (env : SplitEnv) (store : ExecutionStore) (request : SplitRequest)
    (document : SourceDocument) (children : List StoredUnit) :
    Except Fault (Nat × ExecutionStore) := do
  let (outcomes, scheduled) ← scheduleClaimBuilderSectionWork env.schedule env.now store
    request.workflowRunId (some document.projectId) request.sourceDocumentRef
    (children.map sectionUnit)
  if 0 < outcomeCount .conflict outcomes then
    .error (.valueError "claim builder child work scheduling conflict")
  else return (outcomeCount .created outcomes + outcomeCount .alreadyExists outcomes, scheduled)

/-- `HandleSplitClaimBuilderSourceUnitCommandHandler.execute`: the children, and
what it leaves. -/
def handleSplitSourceUnit (env : SplitEnv) (world : SplitWorld) (command : CommandObject) :
    Except Fault (List StoredUnit × SplitWorld) := do
  let request ← splitRequest command
  let (parent, document) ← loadParent world request
  let children ← splitParentSourceUnit env.hexdigest document parent
    (listSourceUnitsForDocument world.sourceUnits request.sourceDocumentRef) command.updatedAt
  let superseded ← supersedeWaitingWorkItemsForSplit env.now world.execution
    request.affectedWorkItemRefs
  let (scheduledCount, execution) ← scheduleChildren env superseded request document children
  let (_, outbox) ← appendEvent world.outbox
    (sourceUnitSplitCompletedEvent command request children scheduledCount)
  let (_, appended) ← appendCommandObject world.commandLog
    (prepareAfterSplitCommand command request scheduledCount)
  let commandLog ← markCommandCompleted appended command.commandId command.updatedAt
  return (children,
    { documents := world.documents
      sourceUnits := saveSourceUnits world.sourceUnits children
      execution, commandLog, outbox })

/-- The world after a command from the log. A handler that raises is rolled back. -/
def performSplit (env : SplitEnv) (world : SplitWorld) (command : WorkflowCommand) : SplitWorld :=
  match handleSplitSourceUnit env world command.toObject with
  | .ok (_, next) => next
  | .error _ => world

/-! What an accepted command does. -/

/-- An item that is superseded has that status, and no other item changes. -/
theorem itemStatus_supersedeWaiting {now : Int} {store next : ExecutionStore}
    {workItemId : String} (h : supersedeWaiting now store workItemId = .ok next) (id : String) :
    itemStatus next id =
      if workItemId = id then some .splitSuperseded else itemStatus store id := by
  unfold supersedeWaiting at h
  split at h
  · cases h
  · next row hrow =>
    have hstatus : itemStatus store workItemId = some row.item.status := by
      rw [itemStatus, hrow, Option.map_some]
    split at h
    · next hdone =>
      cases h
      split
      · next heq => rw [← heq, hstatus, hdone]
      · rfl
    · obtain ⟨item, hitem, h⟩ := bind_eq_ok.mp h
      cases h
      have hsuperseded : item.status = .splitSuperseded := by
        unfold WorkItemStateMachine.markSplitSupersededWaiting at hitem
        split at hitem
        · cases hitem
        · cases hitem
          rfl
      rw [itemStatus_updateWorkItem]
      split
      · next heq => rw [← heq, hstatus, Option.map_some, hsuperseded]
      · rfl

/-- All listed items are superseded afterwards. -/
theorem itemStatus_supersedeWaitingWorkItemsForSplit {now : Int} {workItemIds : List String}
    {store next : ExecutionStore}
    (h : supersedeWaitingWorkItemsForSplit now store workItemIds = .ok next) {id : String}
    (hid : id ∈ workItemIds ∨ itemStatus store id = some .splitSuperseded) :
    itemStatus next id = some .splitSuperseded := by
  unfold supersedeWaitingWorkItemsForSplit at h
  induction workItemIds generalizing store with
  | nil =>
    cases h
    rcases hid with hid | hid
    · cases hid
    · exact hid
  | cons first rest ih =>
    rw [List.foldlM_cons] at h
    obtain ⟨middle, hfirst, h⟩ := bind_eq_ok.mp h
    have hmiddle := itemStatus_supersedeWaiting hfirst id
    apply ih h
    by_cases hsame : first = id
    · right
      rw [hmiddle, if_pos hsame]
    · rw [if_neg hsame] at hmiddle
      rw [hmiddle]
      rcases hid with hid | hid
      · left
        exact List.mem_of_ne_of_mem (Ne.symm hsame) hid
      · exact .inr hid

/-- A parent without children gets two of them at least. -/
theorem two_le_length_of_splitParentSourceUnit {hexdigest : String → String}
    {document : SourceDocument} {parent : StoredUnit} {existing children : List StoredUnit}
    {occurredAt : Int} (hnone : ∀ unit ∈ existing, parent.unitRef ∉ unit.parentRefs)
    (h : splitParentSourceUnit hexdigest document parent existing occurredAt = .ok children) :
    2 ≤ children.length ∧ ∀ child ∈ children, child.parentRefs = [parent.unitRef] := by
  have hfilter : (existing.filter fun unit => unit.parentRefs.contains parent.unitRef) = [] := by
    apply List.filter_eq_nil_iff.mpr
    intro unit hunit
    simpa using hnone unit hunit
  unfold splitParentSourceUnit at h
  rw [hfilter] at h
  obtain ⟨candidates, _, h⟩ := bind_eq_ok.mp h
  split at h
  · cases h
  · next hlength =>
    cases h
    constructor
    · rw [List.length_map, List.length_zipIdx]
      omega
    · intro child hchild
      obtain ⟨numbered, _, rfl⟩ := List.mem_map.mp hchild
      rfl

theorem itemStatus_scheduleChildren {env : SplitEnv} {store next : ExecutionStore}
    {request : SplitRequest} {document : SourceDocument} {children : List StoredUnit}
    {count : Nat} (h : scheduleChildren env store request document children = .ok (count, next)) :
    StatusKept store next := by
  obtain ⟨⟨outcomes, scheduled⟩, hschedule, h⟩ := bind_eq_ok.mp h
  dsimp only at h
  split at h
  · cases h
  · cases h
    obtain ⟨plans, _, hensured⟩ := bind_eq_ok.mp hschedule
    exact statusKept_ensureWorkItemsScheduled hensured

theorem loadParent_unitRef {world : SplitWorld} {request : SplitRequest} {parent : StoredUnit}
    {document : SourceDocument} (h : loadParent world request = .ok (parent, document)) :
    parent.unitRef = request.parentSourceUnitRef := by
  unfold loadParent at h
  split at h
  · cases h
  · next found hfound =>
    have href := (Table.find?_eq_some_iff.mp hfound).2
    split at h
    · cases h
    · split at h
      · cases h
      · cases h
        exact href

/-- A command that the handler accepts has its items superseded, and its source
unit gets two children at least where it has none yet. -/
theorem handleSplitSourceUnit_eq_ok {env : SplitEnv} {world after : SplitWorld}
    {command : CommandObject} {children : List StoredUnit}
    (h : handleSplitSourceUnit env world command = .ok (children, after)) :
    ∃ request, splitRequest command = .ok request ∧
      (∀ id ∈ request.affectedWorkItemRefs,
        itemStatus after.execution id = some .splitSuperseded) ∧
      ((∀ unit ∈ world.sourceUnits.rows, request.parentSourceUnitRef ∉ unit.parentRefs) →
        2 ≤ children.length ∧
          ∀ child ∈ children, child.parentRefs = [request.parentSourceUnitRef]) := by
  obtain ⟨request, hrequest, h⟩ := bind_eq_ok.mp h
  obtain ⟨⟨parent, document⟩, hparent, h⟩ := bind_eq_ok.mp h
  obtain ⟨_, hchildren, h⟩ := bind_eq_ok.mp h
  obtain ⟨superseded, hsuperseded, h⟩ := bind_eq_ok.mp h
  obtain ⟨⟨count, execution⟩, hschedule, h⟩ := bind_eq_ok.mp h
  obtain ⟨_, _, h⟩ := bind_eq_ok.mp h
  obtain ⟨_, _, h⟩ := bind_eq_ok.mp h
  obtain ⟨_, _, h⟩ := bind_eq_ok.mp h
  cases h
  refine ⟨request, hrequest, fun id hid => ?_, fun hnone => ?_⟩
  · have hstatus := itemStatus_supersedeWaitingWorkItemsForSplit hsuperseded (.inl hid)
    rcases itemStatus_scheduleChildren hschedule id with hsame | ⟨hmissing, _⟩
    · exact hsame.trans hstatus
    · rw [hstatus] at hmissing
      cases hmissing
  · rw [← loadParent_unitRef hparent] at hnone ⊢
    apply two_le_length_of_splitParentSourceUnit _ hchildren
    intro unit hunit
    exact hnone unit (Table.mem_select.mp hunit).1

/-! A split that makes progress. -/

/-- The children are several and smaller than the parent, hold its content, and
its work is superseded. -/
structure SplitsParent (parent : StoredUnit) (workItemIds : List String)
    (children : List StoredUnit) (after : SplitWorld) : Prop where
  several : 2 ≤ children.length
  smaller : ∀ child ∈ children,
    defaultSourceIngestionSegmentationBudget.estimateTokens child.text <
      defaultSourceIngestionSegmentationBudget.estimateTokens parent.text
  content : (children.flatMap fun child => child.text.content) = parent.text.content
  superseded : ∀ id ∈ workItemIds, itemStatus after.execution id = some .splitSuperseded

/-- The handler splits the parent when it is given the command. -/
def SplitMakesProgress (env : SplitEnv) (world : SplitWorld) (command : CommandObject)
    (parent : StoredUnit) (workItemIds : List String) : Prop :=
  ∃ children after, handleSplitSourceUnit env world command = .ok (children, after) ∧
    SplitsParent parent workItemIds children after

/-- No command that was read from the log is accepted, so that it changes nothing. -/
theorem handleSplitSourceUnit_toObject (env : SplitEnv) (world : SplitWorld)
    (stored : WorkflowCommand) (result : List StoredUnit × SplitWorld) :
    handleSplitSourceUnit env world stored.toObject ≠ .ok result := by
  intro h
  obtain ⟨children, after⟩ := result
  obtain ⟨request, hrequest, _⟩ := handleSplitSourceUnit_eq_ok h
  exact splitRequest_toObject stored request hrequest

/-- A command that was read from the log never splits a source unit: the handler
refuses it and the world stays as it is. -/
theorem appendedSplit_noProgress {env : SplitEnv} {world : SplitWorld} {command : WorkflowCommand}
    {metadata : ObjectPayload} {workflowRunId : String} {occurredAt : Int}
    {built : CommandObject} {log next : CommandLog} {stored : WorkflowCommand}
    (hbuilt : splitClaimBuilderSourceUnitCommand command workflowRunId metadata occurredAt =
      .ok built)
    (happended : appendCommandObject log built = .ok (stored, next)) :
    handleSplitSourceUnit env world stored.toObject =
        .error (.valueError "workflow command payload source_unit_refs must be tuple") ∧
      performSplit env world stored = world ∧
      ∀ parent workItemIds,
        ¬ SplitMakesProgress env world stored.toObject parent workItemIds := by
  have hrequest := splitRequest_stored hbuilt happended
  have hrefused : handleSplitSourceUnit env world stored.toObject =
      .error (.valueError "workflow command payload source_unit_refs must be tuple") := by
    unfold handleSplitSourceUnit
    rw [hrequest]
    rfl
  refine ⟨hrefused, ?_, ?_⟩
  · unfold performSplit
    rw [hrefused]
  · rintro parent workItemIds ⟨children, after, haccepted, _⟩
    exact handleSplitSourceUnit_toObject env world stored _ haccepted

/-! A document of two paragraphs. -/

def twoParagraphs : Text := "first paragraph\n\nsecond paragraph".toList

/-- The hashes that ingestion takes of this document. -/
def twoParagraphsDigest (text : String) : String :=
  if text = String.ofList twoParagraphs then
    "d3e86e2c325e6f122ba6539b850872a56be544cc7891f145d9901734d3f5944b"
  else "b6afafc6ccf5bffa3a1eb9cc3a242ac609ece2c4beaf2b5f26303c74cc8156d5"

def twoParagraphsDocument : SourceDocument :=
  { documentRef := "doc", projectId := "project", sourceFormat := .plainText
    documentRef_nonblank := by decide, projectId_nonblank := by decide }

def twoParagraphsRef : String :=
  "source-unit:doc:0:b6afafc6ccf5bffa3a1eb9cc3a242ac609ece2c4beaf2b5f26303c74cc8156d5"

/-- The unit that ingestion makes of the document. -/
def twoParagraphsUnit : StoredUnit :=
  { unitRef := twoParagraphsRef, documentRef := "doc", unitKind := .paragraphGroup
    text := twoParagraphs, headingPath := [], parentRefs := [], ordinal := 0, createdAt := 0
    text_nonblank := by decide, headingPath_nonblank := nofun }

/-- The waiting item of the unit. -/
def twoParagraphsItem : WorkItem :=
  { workItemId := "item", workKind := claimBuilderSectionWorkKind, status := .ready
    attemptCount := 0, leasedBy := none, leaseToken := none, leaseExpiresAt := none
    lastErrorKind := none, retryPlan := none, workItemId_ne := Eq.refl false
    lease_shape := leaseShape_ready }

def twoParagraphsWorld : SplitWorld where
  documents := { rows := [twoParagraphsDocument], key_nodup := by decide }
  sourceUnits := { rows := [twoParagraphsUnit], key_nodup := by decide }
  execution :=
    { workItems :=
        { rows := [{ item := twoParagraphsItem, createdAt := 0, updatedAt := 0
                     updated_ge := epoch_le_epoch }]
          key_nodup := by decide }
      schedules := .empty, attempts := .empty, dispatches := .empty }
  commandLog := .empty
  outbox := .empty

theorem promptTokens_pos : 0 < 1953 := by decide

def twoParagraphsEnv : SplitEnv where
  schedule :=
    { promptText := "prompt"
      profile :=
        { modelRef := "qwen/qwen3-32b", modelTpmLimit := 6000, promptTokens := 1953
          requestSafetyGapTokens := 300, multiplierNum := 33, multiplierDen := 10
          promptTokens_pos := promptTokens_pos, multiplierNum_pos := by decide }
      payloadHash := fun _ => "hash" }
  hexdigest := twoParagraphsDigest
  now := 0

/-- What the preflight says of the unit and its item. -/
def twoParagraphsPreflight : ObjectPayload :=
  [("affected_work_item_refs", textTuple ["item"]),
    ("input_size_preflight_active_model_ref", .str "qwen/qwen3-32b"),
    ("input_size_preflight_decision", .str "SPLIT_SOURCE"),
    ("input_size_preflight_reason", .str "input_too_large"),
    ("source_unit_refs", textTuple [twoParagraphsRef])]

theorem twoParagraphsSplit_built :
    ∃ built stored next,
      splitClaimBuilderSourceUnitCommand oversizedPrepare "knowledge-extraction:doc"
        twoParagraphsPreflight 0 = .ok built ∧
      appendCommandObject .empty built = .ok (stored, next) := by
  exact ⟨_, _, _, rfl, rfl⟩

/-- A unit of two paragraphs that ingestion made, and the command to split it:
the handler does not do so. -/
theorem twoParagraphsUnit_notSplit :
    buildSourceUnitsFromText defaultSourceIngestionSegmentationBudget twoParagraphsDigest
        twoParagraphsDocument twoParagraphs 0 = .ok [twoParagraphsUnit] ∧
      (splitParagraphs twoParagraphsUnit.text).length = 2 ∧
      ∃ built stored next,
        splitClaimBuilderSourceUnitCommand oversizedPrepare "knowledge-extraction:doc"
          twoParagraphsPreflight 0 = .ok built ∧
        appendCommandObject .empty built = .ok (stored, next) ∧
        ¬ SplitMakesProgress twoParagraphsEnv twoParagraphsWorld stored.toObject
          twoParagraphsUnit ["item"] := by
  refine ⟨by decide +kernel, by decide, ?_⟩
  obtain ⟨built, stored, next, hbuilt, happended⟩ := twoParagraphsSplit_built
  refine ⟨built, stored, next, hbuilt, happended, ?_⟩
  rintro ⟨children, after, haccepted, _⟩
  exact handleSplitSourceUnit_toObject twoParagraphsEnv twoParagraphsWorld stored _ haccepted

theorem appendedSplit_noProgress_twoParagraphs :
    ∃ built stored next,
      splitClaimBuilderSourceUnitCommand oversizedPrepare "knowledge-extraction:doc"
        twoParagraphsPreflight 0 = .ok built ∧
      appendCommandObject .empty built = .ok (stored, next) ∧
      performSplit twoParagraphsEnv twoParagraphsWorld stored = twoParagraphsWorld ∧
      ¬ SplitMakesProgress twoParagraphsEnv twoParagraphsWorld stored.toObject
        twoParagraphsUnit ["item"] := by
  obtain ⟨built, stored, next, hbuilt, happended⟩ := twoParagraphsSplit_built
  obtain ⟨_, hworld, hnone⟩ :=
    @appendedSplit_noProgress twoParagraphsEnv twoParagraphsWorld _ _ _ _ _ _ _ _ hbuilt happended
  exact ⟨built, stored, next, hbuilt, happended, hworld, hnone twoParagraphsUnit ["item"]⟩

end CrmBot.ClaimBuilder
