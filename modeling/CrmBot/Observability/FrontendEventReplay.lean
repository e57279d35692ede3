import CrmBot.Library.Keyset
import CrmBot.Library.Table
import CrmBot.Observability.FrontendEventCursor
import CrmBot.Python.PyValue
import Mathlib.Data.Prod.Lex

/-! `list_frontend_events`, and the replay of the events of a workflow by its pages.

The order of texts in the database enters as their ranks in some linear order. Texts with
a NUL, which the database refuses, are left out. -/

namespace CrmBot.Observability

open Relational CrmBot.Python Json

/-- `FrontendWorkflowEvent`, as its row in `frontend_workflow_events` holds it. -/
structure FrontendWorkflowEvent where
  projectionEventId : String
  sourceEventId : String
  sourceSequenceNumber : Nat
  projectionVersion : Nat
  projectionType : String
  eventType : String
  operationKey : Option String
  canonicalPhase : String
  workflowRunId : String
  projectId : String
  documentId : String
  payload : Payload
  occurredAt : Int
  projectedAt : Int
  causationCommandId : Option String
  correlationId : Option String
  texts_given : ∀ text ∈ [projectionEventId, sourceEventId, projectionType, eventType,
    canonicalPhase, workflowRunId, projectId, documentId], isBlank text = false
  optional_texts_given : ∀ text, some text ∈ [operationKey, causationCommandId, correlationId] →
    isBlank text = false
  sequence_range : 0 < sourceSequenceNumber ∧ sourceSequenceNumber < 2 ^ 63
  version_range : 0 < projectionVersion ∧ projectionVersion < 2 ^ 31

abbrev EventTable := Table FrontendWorkflowEvent.projectionEventId

def FrontendWorkflowEventCursor.fromEvent (event : FrontendWorkflowEvent) :
    FrontendWorkflowEventCursor where
  sourceSequenceNumber := event.sourceSequenceNumber
  projectionType := .ofString event.projectionType
  projectionVersion := event.projectionVersion
  projectionEventId := .ofString event.projectionEventId
  sequenceOnly := false

section Listing

variable {Rank : Type} [LinearOrder Rank] (collate : String ↪ Rank)

/-- What `ORDER BY` and the row comparison read of an event. -/
abbrev SortKey (Rank : Type) := Nat ×ₗ Rank ×ₗ Nat ×ₗ Rank

def sortKey (event : FrontendWorkflowEvent) : SortKey Rank :=
  toLex (event.sourceSequenceNumber, toLex (collate event.projectionType,
    toLex (event.projectionVersion, collate event.projectionEventId)))

/-- An argument of a column of integers. -/
def integerArgument (position : String) (bound value : Nat) : Except Fault Nat :=
  if value < bound then .ok value
  else .error (.valueError ("invalid input for query argument " ++ position))

/-- An argument of a column of texts, which is sent in UTF-8. -/
def textArgument (position : String) (text : PyText) : Except Fault String :=
  match text.toString? with
  | some text => .ok text
  | none => .error (.valueError ("invalid input for query argument " ++ position))

/-- The key that the rows are compared with. -/
def startKey (cursor : FrontendWorkflowEventCursor) : Except Fault (SortKey Rank) := do
  let sourceSequenceNumber ← integerArgument "$2" (2 ^ 63) cursor.sourceSequenceNumber
  let projectionType ← textArgument "$3" cursor.projectionType
  let projectionVersion ← integerArgument "$4" (2 ^ 31) cursor.projectionVersion
  let projectionEventId ← textArgument "$5" cursor.projectionEventId
  return toLex (sourceSequenceNumber, toLex (collate projectionType,
    toLex (projectionVersion, collate projectionEventId)))

/-- `SELECT … WHERE workflow_run_id = $1 AND … ORDER BY … LIMIT`. -/
def selectEvents (events : EventTable) (workflowRunId : String)
    (condition : FrontendWorkflowEvent → Bool) (limit : Nat) : List FrontendWorkflowEvent :=
  (events.select (fun event => event.workflowRunId = workflowRunId && condition event)
    fun first second => sortKey collate first ≤ sortKey collate second).take limit

def listFrontendEvents (events : EventTable) (workflowRunId : String)
    (afterCursor : FrontendWorkflowEventCursor) (limit : Int) :
    Except Fault (List FrontendWorkflowEvent) :=
  if isBlank workflowRunId then .error (.valueError "workflow_run_id must be non-empty")
  else if limit < 1 ∨ 200 < limit then .error (.valueError "limit must be between 1 and 200")
  else if afterCursor.sequenceOnly then do
    let after ← integerArgument "$2" (2 ^ 63) afterCursor.sourceSequenceNumber
    return selectEvents collate events workflowRunId
      (fun event => after < event.sourceSequenceNumber) limit.toNat
  else do
    let start ← startKey collate afterCursor
    return selectEvents collate events workflowRunId
      (fun event => start < sortKey collate event) limit.toNat

/-- The pages of a number of reads, each from the cursor of the last event before it, which
is serialized and parsed. An empty page ends the replay. -/
def replay (events : EventTable) (workflowRunId : String) (limit : Int) :
    Nat → FrontendWorkflowEventCursor → Except Fault (List (List FrontendWorkflowEvent))
  | 0, _ => .ok []
  | reads + 1, cursor => do
    let page ← listFrontendEvents collate events workflowRunId cursor limit
    match page.getLast? with
    | none => return [page]
    | some last => do
      let text ← (FrontendWorkflowEventCursor.fromEvent last).serialize
      let next ← FrontendWorkflowEventCursor.parse text
      let pages ← replay events workflowRunId limit reads next
      return page :: pages

/-- The events of the workflow in their order. -/
def workflowEvents (events : EventTable) (workflowRunId : String) : List FrontendWorkflowEvent :=
  events.select (fun event => event.workflowRunId = workflowRunId)
    fun first second => sortKey collate first ≤ sortKey collate second

end Listing

/-! Texts of the database are no broken ones. -/

theorem isSurrogate_codePoint (c : Char) :
    (codePoint c).isHighSurrogate = false ∧ (codePoint c).isLowSurrogate = false := by
  have hvalid : c.toNat.isValidChar := c.valid
  unfold Nat.isValidChar at hvalid
  have hrange : ¬ (0xd800 ≤ c.toNat ∧ c.toNat ≤ 0xdfff) := by omega
  constructor
  · by_contra h
    rw [Bool.not_eq_false, CodePoint.isHighSurrogate, Bool.and_eq_true, decide_eq_true_eq,
      decide_eq_true_eq] at h
    exact hrange ⟨h.1, h.2.trans (by decide)⟩
  · by_contra h
    rw [Bool.not_eq_false, CodePoint.isLowSurrogate, Bool.and_eq_true, decide_eq_true_eq,
      decide_eq_true_eq] at h
    exact hrange ⟨le_trans (by decide) h.1, h.2⟩

theorem toString?_ofString (text : String) : (PyText.ofString text).toString? = some text := by
  have hchars : ∀ chars : List Char,
      (chars.map codePoint).mapM CodePoint.toChar? = some chars := by
    intro chars
    induction chars with
    | nil => rfl
    | cons c rest ih =>
      obtain ⟨hhigh, hlow⟩ := isSurrogate_codePoint c
      have hchar : (codePoint c).toChar? = some c := by
        rw [CodePoint.toChar?, hhigh, hlow]
        exact congrArg some (Char.ofNat_toNat c)
      rw [List.map_cons, List.mapM_cons, hchar, ih]
      rfl
  rw [PyText.toString?, PyText.ofString, hchars, Option.map_some, String.ofList_toList]

theorem unsplit_ofString (text : String) : Unsplit (.ofString text) := by
  unfold Unsplit PyText.ofString
  rw [List.isChain_map]
  apply List.Pairwise.isChain
  induction text.toList with
  | nil => exact .nil
  | cons c rest ih =>
    refine .cons (fun other _ => ?_) ih
    rw [(isSurrogate_codePoint c).1]
    exact Bool.false_ne_true

/-! The replay reads the pages of the keys. -/

section Replay

variable {Rank : Type} [LinearOrder Rank] {collate : String ↪ Rank} {events : EventTable}
  {workflowRunId : String} {limit : Int}

/-- The rows of the workflow. -/
def workflowRows (events : EventTable) (workflowRunId : String) : List FrontendWorkflowEvent :=
  events.rows.filter fun event => event.workflowRunId = workflowRunId

theorem mem_workflowRows {event : FrontendWorkflowEvent} :
    event ∈ workflowRows events workflowRunId ↔
      event ∈ events.rows ∧ event.workflowRunId = workflowRunId := by
  simp [workflowRows]

omit [LinearOrder Rank] in
theorem nodup_sortKey (collate : String ↪ Rank) (events : EventTable) (workflowRunId : String) :
    ((workflowRows events workflowRunId).map (sortKey collate)).Nodup := by
  have hids : ((workflowRows events workflowRunId).map
      FrontendWorkflowEvent.projectionEventId).Nodup :=
    events.key_nodup.sublist (List.filter_sublist.map _)
  have hranks := hids.map collate.injective
  rw [List.map_map] at hranks
  refine List.Nodup.of_map (fun key : SortKey Rank => (ofLex (ofLex (ofLex key).2).2).2) ?_
  rw [List.map_map]
  exact hranks

/-- A page of the replay is a page of the keys. -/
theorem selectEvents_eq (start : SortKey Rank) (count : Nat) :
    selectEvents collate events workflowRunId (fun event => start < sortKey collate event) count =
      Keyset.page (sortKey collate) (workflowRows events workflowRunId) count start := by
  unfold selectEvents Keyset.page Keyset.after workflowRows Table.select
  rw [List.filter_filter]
  congr 3
  funext event
  exact Bool.and_comm _ _

/-- The cursor stands for the key. -/
structure StartsAt (collate : String ↪ Rank) (cursor : FrontendWorkflowEventCursor)
    (start : SortKey Rank) : Prop where
  ordinary : cursor.sequenceOnly = false
  key : startKey collate cursor = .ok start

omit [LinearOrder Rank] in
theorem startsAt_fromEvent (collate : String ↪ Rank) (event : FrontendWorkflowEvent) :
    StartsAt collate (.fromEvent event) (sortKey collate event) := by
  refine ⟨rfl, ?_⟩
  have hsequence : integerArgument "$2" (2 ^ 63) event.sourceSequenceNumber =
      .ok event.sourceSequenceNumber := if_pos event.sequence_range.2
  have hversion : integerArgument "$4" (2 ^ 31) event.projectionVersion =
      .ok event.projectionVersion := if_pos event.version_range.2
  have htext : ∀ position text, textArgument position (.ofString text) = .ok text := by
    intro position text
    rw [textArgument, toString?_ofString]
  unfold startKey FrontendWorkflowEventCursor.fromEvent
  rw [hsequence, htext, hversion, htext]
  rfl

theorem listFrontendEvents_eq (hworkflow : isBlank workflowRunId = false)
    (hlimit : 1 ≤ limit ∧ limit ≤ 200) {cursor : FrontendWorkflowEventCursor}
    {start : SortKey Rank} (hstart : StartsAt collate cursor start) :
    listFrontendEvents collate events workflowRunId cursor limit =
      .ok (Keyset.page (sortKey collate)
          (workflowRows events workflowRunId) limit.toNat start) := by
  have hbounds : ¬ (limit < 1 ∨ 200 < limit) := by omega
  simp only [listFrontendEvents, hworkflow, hstart.ordinary, Bool.false_eq_true, if_false,
    if_neg hbounds, hstart.key]
  exact congrArg Except.ok (selectEvents_eq start limit.toNat)

/-- The cursor of an event comes back from its text. -/
theorem parse_serialize_fromEvent (event : FrontendWorkflowEvent) :
    ∃ text, (FrontendWorkflowEventCursor.fromEvent event).serialize = .ok text ∧
      FrontendWorkflowEventCursor.parse text = .ok (.fromEvent event) := by
  obtain ⟨text, htext, _⟩ := FrontendWorkflowEventCursor.parse_serialize
    (show (FrontendWorkflowEventCursor.fromEvent event).sequenceOnly = false from rfl)
  refine ⟨text, htext, (FrontendWorkflowEventCursor.parse_serialize_iff htext).mpr ?_⟩
  exact ⟨unsplit_ofString _, unsplit_ofString _⟩

theorem replay_eq (hworkflow : isBlank workflowRunId = false) (hlimit : 1 ≤ limit ∧ limit ≤ 200)
    (reads : Nat) {cursor : FrontendWorkflowEventCursor} {start : SortKey Rank}
    (hstart : StartsAt collate cursor start) :
    replay collate events workflowRunId limit reads cursor =
      .ok (Keyset.pages (sortKey collate) (workflowRows events workflowRunId) limit.toNat reads
        start) := by
  induction reads generalizing cursor start with
  | zero => rfl
  | succ reads ih =>
    rw [replay, listFrontendEvents_eq hworkflow hlimit hstart, Keyset.pages]
    change (match (Keyset.page (sortKey collate) (workflowRows events workflowRunId) limit.toNat
      start).getLast? with | none => _ | some last => _) = _
    cases hlast : (Keyset.page (sortKey collate) (workflowRows events workflowRunId) limit.toNat
        start).getLast? with
    | none => rfl
    | some last =>
      obtain ⟨text, htext, hparse⟩ := parse_serialize_fromEvent last
      dsimp only
      rw [htext]
      change (FrontendWorkflowEventCursor.parse text >>= _) = _
      rw [hparse]
      change (replay collate events workflowRunId limit reads (.fromEvent last) >>= _) = _
      rw [ih (startsAt_fromEvent collate last)]
      rfl

/-- A replay from the beginning starts before every event. -/
theorem startsAt_beginning (collate : String ↪ Rank) (rows : List FrontendWorkflowEvent) :
    ∃ start, StartsAt collate .beginning start ∧
      Keyset.after (sortKey collate) rows start =
        rows.insertionSort fun first second => sortKey collate first ≤ sortKey collate second := by
  refine ⟨toLex (0, toLex (collate "", toLex (0, collate ""))), ⟨rfl, rfl⟩, ?_⟩
  unfold Keyset.after
  congr 1
  rw [List.filter_eq_self]
  intro event _
  rw [decide_eq_true_eq]
  exact Prod.Lex.left _ _ event.sequence_range.1

/-- With a limit of at most two hundred the pages of a replay hold every event of the
workflow once, in one order, and end with an empty page. A cursor comes back from its text
exactly when no text of it has the halves of another code point. -/
theorem replay_complete (collate : String ↪ Rank) (events : EventTable) (workflowRunId : String)
    (limit : Int) (hworkflow : isBlank workflowRunId = false) (hlimit : 1 ≤ limit ∧ limit ≤ 200) :
    (∀ reads, events.rows.length < reads →
      ∃ pages, replay collate events workflowRunId limit reads .beginning = .ok pages ∧
        pages.getLast? = some [] ∧
        pages.flatten = workflowEvents collate events workflowRunId ∧
        (∀ event, event ∈ pages.flatten ↔
          event ∈ events.rows ∧ event.workflowRunId = workflowRunId) ∧
        pages.flatten.Nodup) ∧
    ∀ cursor text, FrontendWorkflowEventCursor.serialize cursor = .ok text →
      (FrontendWorkflowEventCursor.parse text = .ok cursor ↔
        Unsplit cursor.projectionType ∧ Unsplit cursor.projectionEventId) := by
  refine ⟨?_, fun cursor text htext => FrontendWorkflowEventCursor.parse_serialize_iff htext⟩
  intro reads hreads
  obtain ⟨start, hstart, hafter⟩ :=
    startsAt_beginning collate (workflowRows events workflowRunId)
  have hnodup := nodup_sortKey collate events workflowRunId
  have hlength : (Keyset.after (sortKey collate) (workflowRows events workflowRunId) start).length <
      reads := by
    rw [hafter, List.length_insertionSort]
    exact (List.length_filter_le _ _).trans_lt hreads
  have hpositive : 0 < limit.toNat := by omega
  obtain ⟨hflatten, hend⟩ := Keyset.flatten_pages hnodup hpositive hlength
  have hsorted := hflatten.trans hafter
  refine ⟨_, replay_eq hworkflow hlimit reads hstart, hend, hsorted, ?_, ?_⟩
  · intro event
    rw [hsorted, List.mem_insertionSort, mem_workflowRows]
  · rw [hsorted, (List.perm_insertionSort _ _).nodup_iff]
    exact hnodup.of_map

end Replay

/-- An event of the given position in the order. -/
def sampleEvent (sequence version : Nat) (projectionType projectionEventId : String)
    (htexts : isBlank projectionType = false ∧ isBlank projectionEventId = false)
    (hsequence : 0 < sequence ∧ sequence < 2 ^ 63) (hversion : 0 < version ∧ version < 2 ^ 31) :
    FrontendWorkflowEvent where
  projectionEventId := projectionEventId
  sourceEventId := "source-event-1"
  sourceSequenceNumber := sequence
  projectionVersion := version
  projectionType := projectionType
  eventType := "SourceUnitsCreated"
  operationKey := none
  canonicalPhase := "SOURCE_INGESTION"
  workflowRunId := "workflow-1"
  projectId := "project-1"
  documentId := "document-1"
  payload := []
  occurredAt := 0
  projectedAt := 0
  causationCommandId := none
  correlationId := none
  texts_given := by
    simp only [List.forall_mem_cons]
    exact ⟨htexts.2, by decide, htexts.1, by decide, by decide, by decide, by decide, by decide,
      nofun⟩
  optional_texts_given := by simp
  sequence_range := hsequence
  version_range := hversion

/-- Three events, two of them of one sequence number. -/
def sampleEvents : EventTable where
  rows := [sampleEvent 2 1 "type-a" "projection-3" (by decide) (by decide) (by decide),
    sampleEvent 1 1 "type-b" "projection-2" (by decide) (by decide) (by decide),
    sampleEvent 1 1 "type-a" "projection-1" (by decide) (by decide) (by decide)]
  key_nodup := by decide

theorem sampleEvents_complete :
    ∃ pages, replay (.refl String) sampleEvents "workflow-1" 2 4 .beginning = .ok pages ∧
      pages.getLast? = some [] ∧
      pages.flatten = workflowEvents (.refl String) sampleEvents "workflow-1" := by
  obtain ⟨pages, hpages, hend, hsorted, _⟩ := (replay_complete (.refl String) sampleEvents
    "workflow-1" 2 (by decide) (by decide)).1 4 (by decide)
  exact ⟨pages, hpages, hend, hsorted⟩

/-- A cursor with the two halves of one code point, which no event can have. -/
def splitCursor : FrontendWorkflowEventCursor :=
  { FrontendWorkflowEventCursor.beginning with projectionType := [0xd83d, 0xde00] }

/-- A limit of two hundred and one is refused, and the split cursor does not come back from
its text. -/
theorem replay_not_complete :
    replay (.refl String) sampleEvents "workflow-1" 201 4 .beginning =
        .error (.valueError "limit must be between 1 and 200") ∧
      ∃ text, splitCursor.serialize = .ok text ∧
        FrontendWorkflowEventCursor.parse text ≠ .ok splitCursor := by
  refine ⟨rfl, _, rfl, fun hparse => ?_⟩
  have hunsplit := ((FrontendWorkflowEventCursor.parse_serialize_iff rfl).mp hparse).1
  simp only [Unsplit, splitCursor, List.isChain_pair] at hunsplit
  exact hunsplit (by decide)

end CrmBot.Observability
