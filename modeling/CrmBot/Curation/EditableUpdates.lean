import CrmBot.Curation.EditablePayload

/-! Updates of an editable payload.

An update names some of the editable fields. The payload is copied, the named
fields are edited in the order of the update, and the whole is validated again. -/

namespace CrmBot.Curation

open CrmBot.Python FailingFold NormalRecord

/-- A `DraftClaimCurationItemEditablePayload`, with the payload in normal form. -/
@[ext]
structure DraftClaimCurationItemEditablePayload where
  payload : ObjectMap
  payload_normal : validatedPublishablePayload payload = .ok payload

def draftClaimCurationItemEditablePayload (payload : ObjectMap) :
    Except CurationFault DraftClaimCurationItemEditablePayload :=
  match hread : validatedPublishablePayload payload with
  | .ok normalized => .ok
    { payload := normalized, payload_normal := validatedPublishablePayload_again hread }
  | .error fault => .error fault

/-! A copy of a payload as JSON. A float reads as any other object here: no
payload that is copied holds one. -/

mutual

/-- `_json_value`. -/
def jsonValue : PyObject → Except CurationFault PyObject
  | .none => .ok .none
  | .bool value => .ok (.bool value)
  | .int value => .ok (.int value)
  | .str value => .ok (.str value)
  | .list items => (jsonValues items).map .list
  | .dict entries => (jsonObject entries).map .dict
  | .tuple _ | .other _ => .error (.typeError "value must be JSON-compatible")

def jsonValues : List PyObject → Except CurationFault (List PyObject)
  | [] => .ok []
  | item :: rest => do
    let first ← jsonValue item
    (jsonValues rest).map (first :: ·)

/-- `_json_object`. -/
def jsonObject : List (String × PyObject) → Except CurationFault (List (String × PyObject))
  | [] => .ok []
  | (key, value) :: rest => do
    let first ← jsonValue value
    (jsonObject rest).map ((key, first) :: ·)

end

theorem jsonEntries_eq_all (entries : List (String × PyObject)) :
    PyObject.jsonEntries entries = entries.all fun entry => entry.2.isJson := by
  induction entries with
  | nil => rfl
  | cons entry rest ih =>
    obtain ⟨key, value⟩ := entry
    rw [PyObject.jsonEntries, ih, List.all_cons]

mutual

theorem jsonValue_of_isJson {value : PyObject} (h : value.isJson = true) :
    jsonValue value = .ok value := by
  cases value with
  | none | bool _ | int _ | str _ => rfl
  | list items =>
    have hitems : jsonValues items = .ok items := jsonValues_of_jsonItems h
    rw [jsonValue, hitems]
    rfl
  | dict entries =>
    have hentries : jsonObject entries = .ok entries := jsonObject_of_jsonEntries h
    rw [jsonValue, hentries]
    rfl
  | tuple _ | other _ => cases h

theorem jsonValues_of_jsonItems {items : List PyObject} (h : PyObject.jsonItems items = true) :
    jsonValues items = .ok items := by
  cases items with
  | nil => rfl
  | cons item rest =>
    rw [PyObject.jsonItems, Bool.and_eq_true] at h
    rw [jsonValues, jsonValue_of_isJson h.1, jsonValues_of_jsonItems h.2]
    rfl

theorem jsonObject_of_jsonEntries {entries : List (String × PyObject)}
    (h : PyObject.jsonEntries entries = true) : jsonObject entries = .ok entries := by
  cases entries with
  | nil => rfl
  | cons entry rest =>
    obtain ⟨key, value⟩ := entry
    rw [PyObject.jsonEntries, Bool.and_eq_true] at h
    rw [jsonObject, jsonValue_of_isJson h.1, jsonObject_of_jsonEntries h.2]
    rfl

end

/-! Updates. -/

def nonEditableFields : List String :=
  ["source_claim_refs", "original_payload", "compacted_node_ref", "workflow_run_id",
    "workspace_ref", "merge_decision"]

def editableFields : List String :=
  ["key", "claim", "claim_kind", "granularity", "triples", "possible_questions",
    "exclusion_scope", "evidence_block"]

/-- What an update writes for a field. -/
def editedValue (key : String) (value : PyObject) : Except CurationFault PyObject :=
  if key = "possible_questions" then dedupedTextList key value
  else if key = "triples" then tripleList key value
  else if key ∈ ["key", "claim", "claim_kind", "granularity", "evidence_block"] then
    requiredText key value
  -- of the editable fields only `exclusion_scope` is left
  else plainText key value

def DraftClaimCurationItemEditablePayload.withEditableUpdates
    (self : DraftClaimCurationItemEditablePayload) (updates : ObjectMap) :
    Except CurationFault DraftClaimCurationItemEditablePayload := do
  refuseFields "unknown editable payload fields" ((updates.map Prod.fst).filter fun key =>
    key ∉ editableFields ∧ key ∉ nonEditableFields)
  refuseFields "non-editable payload fields"
    ((updates.map Prod.fst).filter fun key => key ∈ nonEditableFields)
  let mutable ← updates.foldlM (assignEdited editedValue) self.payload
  let payload ← jsonObject mutable
  draftClaimCurationItemEditablePayload payload

theorem json_editedValue {key : String} {value edited : PyObject}
    (h : editedValue key value = .ok edited) : edited.isJson = true := by
  unfold editedValue at h
  split at h
  · exact (fieldReader_dedupedTextList key).json value edited h
  split at h
  · exact (fieldReader_tripleList key).json value edited h
  split at h
  · exact (fieldReader_requiredText key).json value edited h
  · exact (fieldReader_plainText key).json value edited h

theorem draftClaimCurationItemEditablePayload_eq_ok_iff {payload : ObjectMap}
    {made : DraftClaimCurationItemEditablePayload} :
    draftClaimCurationItemEditablePayload payload = .ok made ↔
      validatedPublishablePayload payload = .ok made.payload := by
  unfold draftClaimCurationItemEditablePayload
  split
  · next normalized hread =>
    constructor
    · intro heq
      rw [← Except.ok.inj heq]
      exact hread
    · intro hmade
      have hpayload : normalized = made.payload := Except.ok.inj (hread.symm.trans hmade)
      exact congrArg Except.ok (DraftClaimCurationItemEditablePayload.ext hpayload)
  · next fault hread =>
    exact iff_of_false nofun fun hmade => nomatch hread.symm.trans hmade

namespace DraftClaimCurationItemEditablePayload

variable {self next : DraftClaimCurationItemEditablePayload} {updates : ObjectMap}

theorem keys_payload (self : DraftClaimCurationItemEditablePayload) :
    self.payload.map Prod.fst = publishableFields.map Prod.fst :=
  keys_normalise (validatedPublishablePayload_eq_ok_iff.mp self.payload_normal).2

/-- The value of a field of a payload, which its reader leaves as it is. -/
theorem exists_lookup (self : DraftClaimCurationItemEditablePayload) :
    ∀ field ∈ publishableFields, ∃ value, self.payload.lookup field.1 = some value ∧
      field.2 value = .ok value := by
  intro field hfield
  obtain ⟨-, hread⟩ := validatedPublishablePayload_eq_ok_iff.mp self.payload_normal
  obtain ⟨value, hlook, hvalue⟩ :=
    ((normalise_eq_ok_iff nodup_publishableFields).mp hread).2 field hfield
  refine ⟨value, hlook, ?_⟩
  rwa [objectGet, hlook, Option.getD_some] at hvalue

theorem json_payload (self : DraftClaimCurationItemEditablePayload) :
    ∀ entry ∈ self.payload, entry.2.isJson = true := by
  intro entry hentry
  obtain ⟨-, hread⟩ := validatedPublishablePayload_eq_ok_iff.mp self.payload_normal
  obtain ⟨field, hfield, hreadField⟩ := exists_of_mem_forall₂ (forall₂_of_mapM hread).flip hentry
  obtain ⟨value, hvalue, rfl⟩ := map_eq_ok.mp hreadField
  exact (fieldReader_of_mem field hfield).json _ value hvalue

/-- When an update is accepted, and what it gives: the edits of the copy
succeed, and the edited copy reads to the new payload. -/
theorem withEditableUpdates_eq_ok_iff :
    self.withEditableUpdates updates = .ok next ↔
      (∀ key ∈ updates.map Prod.fst, key ∈ editableFields) ∧
        ∃ mutable, updates.foldlM (assignEdited editedValue) self.payload = .ok mutable ∧
          normalise publishableFields (objectGet mutable) = .ok next.payload := by
  have hguards : (∀ key ∈ updates.map Prod.fst, key ∈ editableFields) ↔
      (updates.map Prod.fst).filter (fun key =>
          key ∉ editableFields ∧ key ∉ nonEditableFields) = [] ∧
        (updates.map Prod.fst).filter (fun key => key ∈ nonEditableFields) = [] := by
    have hdisjoint : ∀ key ∈ editableFields, key ∉ nonEditableFields := by decide
    simp only [List.filter_eq_nil_iff, decide_eq_true_eq, ← forall₂_and]
    refine forall₂_congr fun key _ => ⟨fun heditable => ?_, fun hkey => ?_⟩
    · exact ⟨fun hunknown => hunknown.1 heditable, hdisjoint key heditable⟩
    · by_contra heditable
      exact hkey.1 ⟨heditable, hkey.2⟩
  -- the copy of the edited payload is the edited payload itself
  have hcopy (mutable : ObjectMap)
      (hedits : updates.foldlM (assignEdited editedValue) self.payload = .ok mutable) :
      jsonObject mutable = .ok mutable := by
    apply jsonObject_of_jsonEntries
    rw [jsonEntries_eq_all, List.all_eq_true]
    exact forall_value_edits (fun _ _ _ => json_editedValue) hedits self.json_payload
  simp only [withEditableUpdates, bind_eq_ok, refuseFields_eq_ok_iff, hguards,
    draftClaimCurationItemEditablePayload_eq_ok_iff, validatedPublishablePayload_eq_ok_iff]
  constructor
  · rintro ⟨_, hknown, _, hallowed, mutable, hedits, payload, hpayload, -, hread⟩
    obtain rfl := Except.ok.inj ((hcopy mutable hedits).symm.trans hpayload)
    exact ⟨⟨hknown, hallowed⟩, mutable, hedits, hread⟩
  · rintro ⟨⟨hknown, hallowed⟩, mutable, hedits, hread⟩
    refine ⟨(), hknown, (), hallowed, mutable, hedits, mutable, hcopy mutable hedits, ?_, hread⟩
    intro field
    have hnamed : updates.map Prod.fst ⊆ self.payload.map Prod.fst := by
      rw [self.keys_payload]
      have heditable : editableFields ⊆ publishableFields.map Prod.fst := by decide
      exact fun key hkey => heditable (hguards.mpr ⟨hknown, hallowed⟩ key hkey)
    rw [keys_edits hedits hnamed, self.keys_payload]

/-- An update leaves every field that it does not name as it was. -/
theorem lookup_withEditableUpdates (h : self.withEditableUpdates updates = .ok next)
    {field : String} (hfield : field ∉ updates.map Prod.fst) :
    next.payload.lookup field = self.payload.lookup field := by
  obtain ⟨-, mutable, hedits, hread⟩ := withEditableUpdates_eq_ok_iff.mp h
  by_cases hknown : field ∈ publishableFields.map Prod.fst
  · obtain ⟨reader, hreader, rfl⟩ := List.mem_map.mp hknown
    obtain ⟨value, hlook, hvalue⟩ := self.exists_lookup reader hreader
    obtain ⟨written, hwritten, hnormal⟩ :=
      ((normalise_eq_ok_iff nodup_publishableFields).mp hread).2 reader hreader
    rw [objectGet, lookup_edits_of_notMem hedits hfield, hlook, Option.getD_some, hvalue] at hnormal
    rw [hwritten, hlook, Except.ok.inj hnormal]
  · have hnone (payload : DraftClaimCurationItemEditablePayload) :
        payload.payload.lookup field = none := by
      rw [List.lookup_eq_none_iff]
      intro entry hentry
      refine bne_iff_ne.mpr fun heq => hknown ?_
      rw [← payload.keys_payload, heq]
      exact List.mem_map_of_mem hentry
    rw [hnone next, hnone self]

/-- A field that an update names has the edited value, as the reader of the
field gives it. -/
theorem exists_edited_withEditableUpdates (h : self.withEditableUpdates updates = .ok next)
    {field : String × (PyObject → Except CurationFault PyObject)}
    (hmem : field ∈ publishableFields) (hfield : field.1 ∈ updates.map Prod.fst) :
    ∃ value edited written, (field.1, value) ∈ updates ∧ editedValue field.1 value = .ok edited ∧
      field.2 edited = .ok written ∧ next.payload.lookup field.1 = some written := by
  obtain ⟨-, mutable, hedits, hread⟩ := withEditableUpdates_eq_ok_iff.mp h
  obtain ⟨value, edited, hupdate, hedit, hlook⟩ := lookup_edits_of_mem hedits hfield
  obtain ⟨written, hwritten, hnormal⟩ :=
    ((normalise_eq_ok_iff nodup_publishableFields).mp hread).2 field hmem
  rw [objectGet, hlook, Option.getD_some] at hnormal
  exact ⟨value, edited, written, hupdate, hedit, hnormal, hwritten⟩

/-- A second application of an update changes nothing. -/
theorem withEditableUpdates_again (h : self.withEditableUpdates updates = .ok next) :
    next.withEditableUpdates updates = .ok next := by
  obtain ⟨hnamed, mutable, hedits, hread⟩ := withEditableUpdates_eq_ok_iff.mp h
  obtain ⟨other, hother, hagree⟩ := edits_agree hedits next.payload
  refine withEditableUpdates_eq_ok_iff.mpr ⟨hnamed, other, hother, ?_⟩
  refine normalise_again nodup_publishableFields hread fun field _ => Or.inl ?_
  have hsame : other.lookup field.1 = mutable.lookup field.1 := by
    apply hagree
    by_cases hfield : field.1 ∈ updates.map Prod.fst
    · exact Or.inl hfield
    · exact Or.inr (lookup_withEditableUpdates h hfield)
  rw [objectGet, hsame, objectGet]

end DraftClaimCurationItemEditablePayload

end CrmBot.Curation
