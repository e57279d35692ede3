import CrmBot.Curation.EditableUpdates

/-! Curation items, and what their edits keep.

An edit is an update of the editable payload with the time at which it is
stored. Times are microseconds. -/

namespace CrmBot.Curation

open CrmBot.Python FailingFold NormalRecord

/-- The refs in a payload. -/
def DraftClaimCurationItemEditablePayload.sourceClaimRefs
    (self : DraftClaimCurationItemEditablePayload) : Except CurationFault (List String) :=
  objectTextList (objectGet self.payload "source_claim_refs") "source_claim_refs"

/-- The fields of an item, before they are validated. -/
structure CurationItemFields where
  itemRef : String
  workspaceRef : String
  workflowRunId : String
  groupRef : String
  compactedNodeRef : String
  sourceClaimRefs : List String
  originalPayload : DraftClaimCurationItemEditablePayload
  editablePayload : DraftClaimCurationItemEditablePayload
  excluded : Bool
  exclusionReason : Option String
  createdAt : Int
  updatedAt : Int

/-- `_require_text`. -/
def requireText (value fieldName : String) : Except CurationFault Unit :=
  if strip value = "" then .error (.valueError (fieldName ++ " must be non-empty str")) else .ok ()

/-- `_require_optional_text`. -/
def requireOptionalText (value : Option String) (fieldName : String) : Except CurationFault Unit :=
  match value with
  | none => .ok ()
  | some text => requireText text fieldName

/-- `_require_text_tuple`. -/
def requireTextTuple (values : List String) (fieldName : String) : Except CurationFault Unit := do
  if values = [] then .error (.valueError (fieldName ++ " must be non-empty tuple"))
  if ¬ values.Nodup then .error (.valueError (fieldName ++ " must be unique"))
  values.forM fun value => requireText value fieldName

/-- `DraftClaimCurationWorkspaceItem.__post_init__`. -/
def CurationItemFields.validate (fields : CurationItemFields) : Except CurationFault Unit := do
  requireText fields.itemRef "item_ref"
  requireText fields.workspaceRef "workspace_ref"
  requireText fields.workflowRunId "workflow_run_id"
  requireText fields.groupRef "group_ref"
  requireText fields.compactedNodeRef "compacted_node_ref"
  requireTextTuple fields.sourceClaimRefs "source_claim_refs"
  let originalRefs ← fields.originalPayload.sourceClaimRefs
  if fields.sourceClaimRefs ≠ originalRefs then
    .error (.valueError "item source_claim_refs must match original_payload")
  let editableRefs ← fields.editablePayload.sourceClaimRefs
  if fields.sourceClaimRefs ≠ editableRefs then
    .error (.valueError "item source_claim_refs must match editable_payload")
  requireOptionalText fields.exclusionReason "exclusion_reason"

/-- An item is built of fields that are valid. -/
structure DraftClaimCurationWorkspaceItem where
  fields : CurationItemFields
  fields_valid : fields.validate = .ok ()

def draftClaimCurationWorkspaceItem (fields : CurationItemFields) :
    Except CurationFault DraftClaimCurationWorkspaceItem :=
  match hvalid : fields.validate with
  | .ok () => .ok { fields := fields, fields_valid := hvalid }
  | .error fault => .error fault

namespace DraftClaimCurationWorkspaceItem

/-- An update of an item: its payload is updated, stored with the time of the
update, and read back as an item. -/
def withEditableUpdates (item : DraftClaimCurationWorkspaceItem) (updates : ObjectMap)
    (updatedAt : Int) : Except CurationFault DraftClaimCurationWorkspaceItem := do
  let payload ← item.fields.editablePayload.withEditableUpdates updates
  draftClaimCurationWorkspaceItem
    { item.fields with editablePayload := payload, updatedAt := updatedAt }

def applyEdits (item : DraftClaimCurationWorkspaceItem) (edits : List (ObjectMap × Int)) :
    Except CurationFault DraftClaimCurationWorkspaceItem :=
  edits.foldlM (fun item edit => item.withEditableUpdates edit.1 edit.2) item

end DraftClaimCurationWorkspaceItem

/-- What an edited item has in common with the item before. -/
structure KeepsProvenance (item edited : DraftClaimCurationWorkspaceItem)
    (named : List String) : Prop where
  sourceClaimRefs : edited.fields.sourceClaimRefs = item.fields.sourceClaimRefs
  originalPayload : edited.fields.originalPayload = item.fields.originalPayload
  /-- Every other field of the item, up to the time of its last update. -/
  otherFields : edited.fields =
    { item.fields with
      editablePayload := edited.fields.editablePayload, updatedAt := edited.fields.updatedAt }
  /-- Every field of the payload that no edit names. -/
  unnamed : ∀ field ∉ named,
    edited.fields.editablePayload.payload.lookup field =
      item.fields.editablePayload.payload.lookup field

theorem draftClaimCurationWorkspaceItem_of_valid {fields : CurationItemFields}
    (hvalid : fields.validate = .ok ()) :
    draftClaimCurationWorkspaceItem fields = .ok { fields := fields, fields_valid := hvalid } := by
  unfold draftClaimCurationWorkspaceItem
  split
  · rfl
  · next fault hfault => cases hvalid.symm.trans hfault

/-- The refs of a payload are not editable. -/
theorem sourceClaimRefs_withEditableUpdates {self next : DraftClaimCurationItemEditablePayload}
    {updates : ObjectMap} (h : self.withEditableUpdates updates = .ok next) :
    next.sourceClaimRefs = self.sourceClaimRefs := by
  have hnamed : "source_claim_refs" ∉ updates.map Prod.fst := by
    intro hmem
    have heditable :=
      (DraftClaimCurationItemEditablePayload.withEditableUpdates_eq_ok_iff.mp h).1 _ hmem
    revert heditable
    decide
  unfold DraftClaimCurationItemEditablePayload.sourceClaimRefs objectGet
  rw [DraftClaimCurationItemEditablePayload.lookup_withEditableUpdates h hnamed]

/-- A payload with the same refs leaves an item valid. -/
theorem validate_editablePayload {fields : CurationItemFields}
    {payload : DraftClaimCurationItemEditablePayload}
    (hrefs : payload.sourceClaimRefs = fields.editablePayload.sourceClaimRefs) (updatedAt : Int) :
    CurationItemFields.validate
        { fields with editablePayload := payload, updatedAt := updatedAt } = fields.validate := by
  unfold CurationItemFields.validate
  rw [hrefs]

namespace DraftClaimCurationWorkspaceItem

/-- An item accepts exactly the updates that its payload accepts, and is then
the item with the updated payload. -/
theorem withEditableUpdates_eq_ok_iff {item next : DraftClaimCurationWorkspaceItem}
    {updates : ObjectMap} {updatedAt : Int} :
    item.withEditableUpdates updates updatedAt = .ok next ↔
      item.fields.editablePayload.withEditableUpdates updates =
          .ok next.fields.editablePayload ∧
        next.fields =
          { item.fields with
            editablePayload := next.fields.editablePayload, updatedAt := updatedAt } := by
  simp only [withEditableUpdates, bind_eq_ok]
  constructor
  · rintro ⟨payload, hpayload, hmade⟩
    have hvalid := (validate_editablePayload (sourceClaimRefs_withEditableUpdates hpayload)
      updatedAt).trans item.fields_valid
    rw [draftClaimCurationWorkspaceItem_of_valid hvalid] at hmade
    cases hmade
    exact ⟨hpayload, rfl⟩
  · rintro ⟨hpayload, hfields⟩
    refine ⟨_, hpayload, ?_⟩
    rw [← hfields]
    exact draftClaimCurationWorkspaceItem_of_valid next.fields_valid

/-- One accepted update. -/
theorem exists_withEditableUpdates {item : DraftClaimCurationWorkspaceItem} {updates : ObjectMap}
    {payload : DraftClaimCurationItemEditablePayload}
    (hpayload : item.fields.editablePayload.withEditableUpdates updates = .ok payload)
    (updatedAt : Int) :
    ∃ next, item.withEditableUpdates updates updatedAt = .ok next ∧
      next.fields.editablePayload = payload ∧
      KeepsProvenance item next (updates.map Prod.fst) := by
  have hvalid := (validate_editablePayload (sourceClaimRefs_withEditableUpdates hpayload)
    updatedAt).trans item.fields_valid
  refine ⟨⟨_, hvalid⟩, withEditableUpdates_eq_ok_iff.mpr ⟨hpayload, rfl⟩, rfl, ?_⟩
  exact {
    sourceClaimRefs := rfl
    originalPayload := rfl
    otherFields := rfl
    unnamed := fun field hfield =>
      DraftClaimCurationItemEditablePayload.lookup_withEditableUpdates hpayload hfield }

end DraftClaimCurationWorkspaceItem

theorem KeepsProvenance.trans {first second third : DraftClaimCurationWorkspaceItem}
    {named later : List String} (hfirst : KeepsProvenance first second named)
    (hsecond : KeepsProvenance second third later) :
    KeepsProvenance first third (named ++ later) where
  sourceClaimRefs := hsecond.sourceClaimRefs.trans hfirst.sourceClaimRefs
  originalPayload := hsecond.originalPayload.trans hfirst.originalPayload
  otherFields := by
    rw [hsecond.otherFields, hfirst.otherFields]
  unnamed field hfield := by
    rw [List.mem_append, not_or] at hfield
    rw [hsecond.unnamed field hfield.2, hfirst.unnamed field hfield.1]

theorem KeepsProvenance.refl (item : DraftClaimCurationWorkspaceItem) :
    KeepsProvenance item item [] where
  sourceClaimRefs := rfl
  originalPayload := rfl
  otherFields := rfl
  unnamed _ _ := rfl

namespace DraftClaimCurationWorkspaceItem

/-- Edits whose updates the payload accepts one after the other go through. -/
theorem exists_applyEdits (item : DraftClaimCurationWorkspaceItem) {edits : List (ObjectMap × Int)}
    {payload : DraftClaimCurationItemEditablePayload}
    (haccepted : edits.foldlM (fun payload edit => payload.withEditableUpdates edit.1)
      item.fields.editablePayload = .ok payload) :
    ∃ edited, item.applyEdits edits = .ok edited ∧ edited.fields.editablePayload = payload ∧
      KeepsProvenance item edited (edits.flatMap fun edit => edit.1.map Prod.fst) := by
  induction edits generalizing item with
  | nil =>
    simp only [List.foldlM_nil, pure, Except.pure, Except.ok.injEq] at haccepted
    exact ⟨item, rfl, haccepted, .refl item⟩
  | cons edit rest ih =>
    obtain ⟨updates, updatedAt⟩ := edit
    rw [List.foldlM_cons, bind_eq_ok] at haccepted
    obtain ⟨middle, hfirst, hrest⟩ := haccepted
    obtain ⟨next, hnext, rfl, hkeeps⟩ := item.exists_withEditableUpdates hfirst updatedAt
    obtain ⟨edited, hedited, hpayload, hlater⟩ := ih next hrest
    refine ⟨edited, ?_, hpayload, hkeeps.trans hlater⟩
    unfold applyEdits at hedited ⊢
    rw [List.foldlM_cons, bind_eq_ok]
    exact ⟨next, hnext, hedited⟩

/-- The same update again, at whatever time, gives what it gives at that time
the first time. -/
theorem withEditableUpdates_again {item once : DraftClaimCurationWorkspaceItem}
    {updates : ObjectMap} {updatedAt : Int}
    (h : item.withEditableUpdates updates updatedAt = .ok once) (later : Int) :
    once.withEditableUpdates updates later = item.withEditableUpdates updates later := by
  obtain ⟨hpayload, hfields⟩ := withEditableUpdates_eq_ok_iff.mp h
  have hagain := DraftClaimCurationItemEditablePayload.withEditableUpdates_again hpayload
  have hsame : { once.fields with
      editablePayload := once.fields.editablePayload, updatedAt := later } =
      { item.fields with
        editablePayload := once.fields.editablePayload, updatedAt := later } := by
    rw [hfields]
  unfold withEditableUpdates
  rw [hpayload, hagain]
  exact congrArg draftClaimCurationWorkspaceItem hsame

end DraftClaimCurationWorkspaceItem

/-- Edits that are accepted keep the refs, the original payload and every field
that no edit names, leave a valid item, and count once when they are repeated. -/
theorem curationEdits_keep_provenance (item : DraftClaimCurationWorkspaceItem)
    (edits : List (ObjectMap × Int)) (payload : DraftClaimCurationItemEditablePayload)
    (haccepted : edits.foldlM (fun payload edit => payload.withEditableUpdates edit.1)
      item.fields.editablePayload = .ok payload) :
    ∃ edited, item.applyEdits edits = .ok edited ∧ edited.fields.editablePayload = payload ∧
      KeepsProvenance item edited (edits.flatMap fun edit => edit.1.map Prod.fst) ∧
      edited.fields.validate = .ok () ∧
      ∀ updates updatedAt once, edited.withEditableUpdates updates updatedAt = .ok once →
        ∀ later, once.withEditableUpdates updates later =
          edited.withEditableUpdates updates later := by
  obtain ⟨edited, hedited, hpayload, hkeeps⟩ := item.exists_applyEdits haccepted
  refine ⟨edited, hedited, hpayload, hkeeps, edited.fields_valid, ?_⟩
  intro updates updatedAt once honce later
  exact DraftClaimCurationWorkspaceItem.withEditableUpdates_again honce later

def refundPayload (claim scope : String) (questions : List String) : ObjectMap :=
  [("key", .str "refund"), ("claim", .str claim), ("claim_kind", .str "rule"),
    ("granularity", .str "atomic"), ("source_claim_refs", .list [.str "claim-1"]),
    ("triples", .list []), ("merge_decision", .str "unmerged"),
    ("possible_questions", jsonTextList questions), ("exclusion_scope", .str scope),
    ("evidence_block", .str "Refunds take ten days.")]

def refundBefore : DraftClaimCurationItemEditablePayload where
  payload := refundPayload "Refunds take ten days." "" []
  payload_normal := rfl

def refundAfter : DraftClaimCurationItemEditablePayload where
  payload := refundPayload "A refund takes ten days." "Gift cards" ["How long?"]
  payload_normal := rfl

def refundItem : DraftClaimCurationWorkspaceItem where
  fields :=
    { itemRef := "item-1", workspaceRef := "workspace-1", workflowRunId := "run-1"
      groupRef := "group-1", compactedNodeRef := "node-1", sourceClaimRefs := ["claim-1"]
      originalPayload := refundBefore, editablePayload := refundBefore
      excluded := false, exclusionReason := none, createdAt := 0, updatedAt := 0 }
  fields_valid := rfl

def refundEdits : List (ObjectMap × Int) :=
  [([("claim", .str " A refund takes ten days. "),
      ("possible_questions", .list [.str " How long? ", .str " ", .str "How long?"])], 1),
    ([("exclusion_scope", .str "Gift cards ")], 2)]

theorem refundEdits_accepted :
    ∃ edited, refundItem.applyEdits refundEdits = .ok edited ∧
      edited.fields.editablePayload = refundAfter ∧
      edited.fields.originalPayload = refundBefore ∧
      edited.fields.sourceClaimRefs = ["claim-1"] := by
  obtain ⟨edited, hedited, hpayload, hkeeps, -⟩ :=
    curationEdits_keep_provenance refundItem refundEdits refundAfter rfl
  exact ⟨edited, hedited, hpayload, hkeeps.originalPayload, hkeeps.sourceClaimRefs⟩

end CrmBot.Curation
