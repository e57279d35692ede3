import CrmBot.Compaction.OutputFormat
import CrmBot.Library.NormalRecord
import CrmBot.Python.PyObject
import CrmBot.Python.Text

/-! The editable payload of a curation item.

A payload holds the ten publishable fields, each in its normal form. An update
is a dictionary of any objects, and what the readers refuse is a `TypeError` or
a `ValueError`. -/

namespace CrmBot.Curation

open CrmBot.Compaction CrmBot.Python FailingFold NormalRecord

inductive CurationFault
  | typeError (message : String)
  | valueError (message : String)
  /-- A `ValueError` whose message ends in the sorted fields. -/
  | fieldsError (message : String) (fields : List String)
  /-- The `ValueError` of an enumeration that does not have the value. -/
  | noMember (enumeration value : String)
  deriving DecidableEq, Repr

/-- `Mapping[str, object]`. -/
abbrev ObjectMap := List (String × PyObject)

/-- `payload.get(key)`. -/
def objectGet (payload : ObjectMap) (key : String) : PyObject := (payload.lookup key).getD .none

/-! Readers of single objects. -/

/-- `_object_text`. -/
def objectText (value : PyObject) (key : String) : Except CurationFault String :=
  match value with
  | .str text => .ok (strip text)
  | _ => .error (.typeError (key ++ " must be str"))

/-- `_object_required_text`. -/
def objectRequiredText (value : PyObject) (key : String) : Except CurationFault String := do
  let text ← objectText value key
  if text = "" then .error (.valueError (key ++ " must be non-empty")) else .ok text

/-- `_object_list`. -/
def objectList (value : PyObject) (key : String) : Except CurationFault (List PyObject) :=
  match value with
  | .list items => .ok items
  | _ => .error (.typeError (key ++ " must be list"))

def textItem (key : String) (item : PyObject) : Except CurationFault String :=
  match item with
  | .str text => .ok (strip text)
  | _ => .error (.typeError (key ++ " must contain strings"))

/-- `_object_text_list`. -/
def objectTextList (value : PyObject) (key : String) : Except CurationFault (List String) := do
  let items ← objectList value key
  items.mapM (textItem key)

/-- `_json_text_list`. -/
def jsonTextList (texts : List String) : PyObject := .list (texts.map .str)

/-- `_dedupe_stripped`. The texts seen are the texts of the result. -/
def dedupeStripped (values : List String) : List String :=
  values.foldl (fun result value =>
    if strip value = "" ∨ strip value ∈ result then result else result ++ [strip value]) []

/-- `Enumeration(text).value`. -/
def memberValue {Member : Type} (enumeration : String) (ofValue? : String → Option Member)
    (valueOf : Member → String) (text : String) : Except CurationFault String :=
  match ofValue? text with
  | some member => .ok (valueOf member)
  | none => .error (.noMember enumeration text)

inductive DraftClaimCompactionGranularity
  | atomic
  | composite
  deriving DecidableEq, Repr

def DraftClaimCompactionGranularity.value : DraftClaimCompactionGranularity → String
  | .atomic => "atomic"
  | .composite => "composite"

/-- `DraftClaimCompactionGranularity(value)`. -/
def DraftClaimCompactionGranularity.ofValue? (value : String) :
    Option DraftClaimCompactionGranularity :=
  [DraftClaimCompactionGranularity.atomic, .composite].find? fun granularity =>
    granularity.value = value

/-- The errors about a set of fields that should be empty. -/
def refuseFields (message : String) (fields : List String) : Except CurationFault Unit :=
  if fields = [] then .ok () else .error (.fieldsError message (sorted fields))

def tripleFields : List String := ["subject", "predicate", "object"]

/-- `_triple_object`. -/
def tripleObject (value : PyObject) : Except CurationFault PyObject :=
  match value with
  | .dict entries => do
    refuseFields "triple missing fields"
      (tripleFields.filter fun field => field ∉ entries.map Prod.fst)
    refuseFields "triple unknown fields"
      ((entries.map Prod.fst).filter fun field => field ∉ tripleFields ++ ["qualifiers"])
    let subject ← objectRequiredText (objectGet entries "subject") "subject"
    let predicateText ← objectRequiredText (objectGet entries "predicate") "predicate"
    let predicate ← memberValue "DraftClaimCompactionTriplePredicate" TriplePredicate.ofValue?
      TriplePredicate.value predicateText
    let object ← objectRequiredText (objectGet entries "object") "object"
    let qualifiers ← objectTextList ((entries.lookup "qualifiers").getD (.list [])) "qualifiers"
    pure (.dict [("subject", .str subject), ("predicate", .str predicate),
      ("object", .str object), ("qualifiers", jsonTextList qualifiers)])
  | _ => .error (.typeError "triple must be object")

/-! Readers of the fields of a payload, each with what it writes back. -/

/-- `_payload_required_text`. -/
def requiredText (key : String) (value : PyObject) : Except CurationFault PyObject :=
  (objectRequiredText value key).map .str

/-- `_payload_text`. -/
def plainText (key : String) (value : PyObject) : Except CurationFault PyObject :=
  (objectText value key).map .str

/-- `Enumeration(_payload_required_text(payload, key)).value`. -/
def memberText {Member : Type} (key enumeration : String) (ofValue? : String → Option Member)
    (valueOf : Member → String) (value : PyObject) : Except CurationFault PyObject := do
  let text ← objectRequiredText value key
  (memberValue enumeration ofValue? valueOf text).map .str

/-- `_payload_json_text_list`. -/
def textList (key : String) (value : PyObject) : Except CurationFault PyObject :=
  (objectTextList value key).map jsonTextList

/-- `_payload_deduped_json_text_list`. -/
def dedupedTextList (key : String) (value : PyObject) : Except CurationFault PyObject :=
  (objectTextList value key).map fun texts => jsonTextList (dedupeStripped texts)

/-- `_payload_triples`. -/
def tripleList (key : String) (value : PyObject) : Except CurationFault PyObject := do
  let items ← objectList value key
  (items.mapM tripleObject).map .list

/-- The fields of a publishable payload, in the order in which they are read. -/
def publishableFields : List (String × (PyObject → Except CurationFault PyObject)) :=
  [("key", requiredText "key"),
    ("claim", requiredText "claim"),
    ("claim_kind", memberText "claim_kind" "DraftClaimCompactionClaimKind" ClaimKind.ofValue?
      ClaimKind.text),
    ("granularity", memberText "granularity" "DraftClaimCompactionGranularity"
      DraftClaimCompactionGranularity.ofValue? DraftClaimCompactionGranularity.value),
    ("source_claim_refs", textList "source_claim_refs"),
    ("triples", tripleList "triples"),
    ("merge_decision", memberText "merge_decision" "DraftClaimCompactionMergeDecision"
      MergeDecision.ofValue? MergeDecision.value),
    ("possible_questions", dedupedTextList "possible_questions"),
    ("exclusion_scope", plainText "exclusion_scope"),
    ("evidence_block", requiredText "evidence_block")]

/-- `_validated_publishable_payload`. -/
def validatedPublishablePayload (payload : ObjectMap) : Except CurationFault ObjectMap := do
  let allowed := publishableFields.map Prod.fst
  refuseFields "publishable payload missing fields"
    (allowed.filter fun field => field ∉ payload.map Prod.fst)
  refuseFields "publishable payload unknown fields"
    ((payload.map Prod.fst).filter fun field => field ∉ allowed)
  normalise publishableFields (objectGet payload)

/-! What is read is read again as it is. -/

theorem objectText_eq_ok_iff {value : PyObject} {key text : String} :
    objectText value key = .ok text ↔ ∃ raw, value = .str raw ∧ strip raw = text := by
  unfold objectText
  split
  · next raw => simp
  · next hother => exact iff_of_false nofun fun ⟨raw, heq, _⟩ => hother raw heq

theorem objectRequiredText_eq_ok_iff {value : PyObject} {key text : String} :
    objectRequiredText value key = .ok text ↔ objectText value key = .ok text ∧ text ≠ "" := by
  simp only [objectRequiredText, bind_eq_ok]
  constructor
  · rintro ⟨read, hread, hcheck⟩
    split at hcheck
    · cases hcheck
    · next hne =>
      cases hcheck
      exact ⟨hread, hne⟩
  · rintro ⟨hread, hne⟩
    exact ⟨text, hread, if_neg hne⟩

theorem objectText_again {value : PyObject} {key text : String}
    (h : objectText value key = .ok text) (other : String) :
    objectText (.str text) other = .ok text := by
  obtain ⟨raw, -, rfl⟩ := objectText_eq_ok_iff.mp h
  exact objectText_eq_ok_iff.mpr ⟨_, rfl, strip_strip raw⟩

theorem objectRequiredText_again {value : PyObject} {key text : String}
    (h : objectRequiredText value key = .ok text) :
    objectRequiredText (.str text) key = .ok text := by
  obtain ⟨hread, hne⟩ := objectRequiredText_eq_ok_iff.mp h
  exact objectRequiredText_eq_ok_iff.mpr ⟨objectText_again hread key, hne⟩

theorem objectTextList_eq_ok_iff {value : PyObject} {key : String} {texts : List String} :
    objectTextList value key = .ok texts ↔
      ∃ raws : List String, value = .list (raws.map .str) ∧ raws.map strip = texts := by
  have hitem (item : PyObject) (text : String) :
      textItem key item = .ok text ↔ ∃ raw, item = .str raw ∧ strip raw = text := by
    unfold textItem
    split
    · next raw => simp
    · next hother => exact iff_of_false nofun fun ⟨raw, heq, _⟩ => hother raw heq
  simp only [objectTextList, bind_eq_ok, mapM_eq_ok_iff, hitem]
  constructor
  · rintro ⟨items, hitems, hall⟩
    obtain ⟨raws, rfl, rfl⟩ : ∃ raws : List String, items = raws.map .str ∧
        raws.map strip = texts := by
      clear hitems
      induction hall with
      | nil => exact ⟨[], rfl, rfl⟩
      | cons hfirst _ ih =>
        obtain ⟨raw, rfl, rfl⟩ := hfirst
        obtain ⟨raws, rfl, rfl⟩ := ih
        exact ⟨raw :: raws, rfl, rfl⟩
    unfold objectList at hitems
    split at hitems
    · cases hitems
      exact ⟨raws, rfl, rfl⟩
    · cases hitems
  · rintro ⟨raws, rfl, rfl⟩
    refine ⟨_, rfl, ?_⟩
    induction raws with
    | nil => exact .nil
    | cons raw rest ih => exact .cons ⟨raw, rfl, rfl⟩ ih

/-- A list of texts that are stripped already is read as it is. -/
theorem objectTextList_jsonTextList {texts : List String} (hstripped : ∀ text ∈ texts,
    strip text = text) (key : String) : objectTextList (jsonTextList texts) key = .ok texts :=
  objectTextList_eq_ok_iff.mpr ⟨texts, rfl, (List.map_congr_left hstripped).trans (List.map_id _)⟩

theorem stripped_of_objectTextList {value : PyObject} {key : String} {texts : List String}
    (h : objectTextList value key = .ok texts) : ∀ text ∈ texts, strip text = text := by
  obtain ⟨raws, -, rfl⟩ := objectTextList_eq_ok_iff.mp h
  simp [strip_strip]

/-- The lists that `_dedupe_stripped` gives. -/
def Deduped (texts : List String) : Prop :=
  (∀ text ∈ texts, strip text = text ∧ text ≠ "") ∧ texts.Nodup

theorem deduped_dedupeStripped (values : List String) : Deduped (dedupeStripped values) := by
  refine List.foldlRecOn values _ (motive := Deduped)
    ⟨List.forall_mem_nil _, List.nodup_nil⟩ ?_
  intro result hresult value _
  split
  · exact hresult
  · next hnew =>
    rw [not_or] at hnew
    refine ⟨fun text htext => ?_, ?_⟩
    · rcases List.mem_append.mp htext with hold | hlast
      · exact hresult.1 text hold
      · obtain rfl := List.mem_singleton.mp hlast
        exact ⟨strip_strip value, hnew.1⟩
    · have hfresh : ∀ text ∈ result, text ≠ strip value :=
        fun text htext heq => hnew.2 (heq ▸ htext)
      simpa [List.nodup_append, hresult.2] using hfresh

theorem dedupeStripped_of_deduped {texts : List String} (h : Deduped texts) :
    dedupeStripped texts = texts := by
  -- the texts before the current one are the result so far
  have hrun (done rest : List String) (hall : Deduped (done ++ rest)) :
      rest.foldl (fun result value =>
        if strip value = "" ∨ strip value ∈ result then result else result ++ [strip value]) done =
        done ++ rest := by
    induction rest generalizing done with
    | nil => simp
    | cons text rest ih =>
      obtain ⟨hstrip, hne⟩ := hall.1 text (by simp)
      have hnew : text ∉ done := fun hmem =>
        (List.nodup_append.mp hall.2).2.2 text hmem text List.mem_cons_self rfl
      rw [List.foldl_cons, hstrip, if_neg (not_or.mpr ⟨hne, hnew⟩),
        ih (done ++ [text]) (by simpa using hall)]
      simp
  exact hrun [] texts h

theorem memberValue_eq_ok_iff {Member : Type} {enumeration : String}
    {ofValue? : String → Option Member} {valueOf : Member → String}
    (hread : ∀ text member, ofValue? text = some member ↔ valueOf member = text)
    {text value : String} :
    memberValue enumeration ofValue? valueOf text = .ok value ↔
      text = value ∧ ∃ member, valueOf member = value := by
  unfold memberValue
  split
  · next member hmember =>
    obtain rfl := (hread text member).mp hmember
    rw [Except.ok.injEq]
    exact ⟨fun heq => ⟨heq, member, heq⟩, fun heq => heq.1⟩
  · next hnone =>
    refine iff_of_false nofun ?_
    rintro ⟨rfl, member, hmember⟩
    cases hnone.symm.trans ((hread _ member).mpr hmember)

theorem DraftClaimCompactionGranularity.ofValue?_eq_some_iff (text : String)
    (granularity : DraftClaimCompactionGranularity) :
    DraftClaimCompactionGranularity.ofValue? text = some granularity ↔
      granularity.value = text := by
  constructor
  · intro h
    simpa using List.find?_some h
  · rintro rfl
    cases granularity <;> rfl

/-! Every reader of a field settles, and gives JSON. -/

/-- A reader of a field: what it gives is JSON, and is read again as it is. -/
structure FieldReader (read : PyObject → Except CurationFault PyObject) : Prop where
  settles : Settles read
  json : ∀ value normal, read value = .ok normal → normal.isJson = true

theorem jsonItems_eq_all (items : List PyObject) :
    PyObject.jsonItems items = items.all PyObject.isJson := by
  induction items with
  | nil => rfl
  | cons item rest ih => rw [PyObject.jsonItems, ih, List.all_cons]

theorem isJson_jsonTextList (texts : List String) : (jsonTextList texts).isJson = true := by
  change PyObject.jsonItems (texts.map .str) = true
  rw [jsonItems_eq_all]
  simp [PyObject.isJson]

theorem fieldReader_requiredText (key : String) : FieldReader (requiredText key) where
  settles value normal h := by
    obtain ⟨text, htext, rfl⟩ := map_eq_ok.mp h
    exact map_eq_ok.mpr ⟨text, objectRequiredText_again htext, rfl⟩
  json value normal h := by
    obtain ⟨text, -, rfl⟩ := map_eq_ok.mp h
    rfl

theorem fieldReader_plainText (key : String) : FieldReader (plainText key) where
  settles value normal h := by
    obtain ⟨text, htext, rfl⟩ := map_eq_ok.mp h
    exact map_eq_ok.mpr ⟨text, objectText_again htext key, rfl⟩
  json value normal h := by
    obtain ⟨text, -, rfl⟩ := map_eq_ok.mp h
    rfl

theorem fieldReader_memberText {Member : Type} {ofValue? : String → Option Member}
    {valueOf : Member → String}
    (hread : ∀ text member, ofValue? text = some member ↔ valueOf member = text)
    (key enumeration : String) :
    FieldReader (memberText key enumeration ofValue? valueOf) where
  settles value normal h := by
    obtain ⟨text, htext, hvalue⟩ := bind_eq_ok.mp h
    obtain ⟨name, hname, rfl⟩ := map_eq_ok.mp hvalue
    obtain ⟨rfl, -⟩ := (memberValue_eq_ok_iff hread).mp hname
    exact bind_eq_ok.mpr ⟨_, objectRequiredText_again htext, map_eq_ok.mpr ⟨_, hname, rfl⟩⟩
  json value normal h := by
    obtain ⟨text, -, hvalue⟩ := bind_eq_ok.mp h
    obtain ⟨name, -, rfl⟩ := map_eq_ok.mp hvalue
    rfl

theorem fieldReader_textList (key : String) : FieldReader (textList key) where
  settles value normal h := by
    obtain ⟨texts, htexts, rfl⟩ := map_eq_ok.mp h
    exact map_eq_ok.mpr
      ⟨texts, objectTextList_jsonTextList (stripped_of_objectTextList htexts) key, rfl⟩
  json value normal h := by
    obtain ⟨texts, -, rfl⟩ := map_eq_ok.mp h
    exact isJson_jsonTextList texts

theorem fieldReader_dedupedTextList (key : String) : FieldReader (dedupedTextList key) where
  settles value normal h := by
    obtain ⟨texts, -, rfl⟩ := map_eq_ok.mp h
    have hdeduped := deduped_dedupeStripped texts
    refine map_eq_ok.mpr ⟨dedupeStripped texts, ?_, ?_⟩
    · exact objectTextList_jsonTextList (fun text htext => (hdeduped.1 text htext).1) key
    · rw [dedupeStripped_of_deduped hdeduped]
  json value normal h := by
    obtain ⟨texts, -, rfl⟩ := map_eq_ok.mp h
    exact isJson_jsonTextList _

theorem refuseFields_eq_ok_iff {message : String} {fields : List String} {result : Unit} :
    refuseFields message fields = .ok result ↔ fields = [] := by
  unfold refuseFields
  split <;> simp_all

/-- What a triple is read to. -/
theorem tripleObject_spec {value normal : PyObject} (h : tripleObject value = .ok normal) :
    ∃ subject predicate object qualifiers,
      normal = .dict [("subject", .str subject), ("predicate", .str predicate),
        ("object", .str object), ("qualifiers", jsonTextList qualifiers)] ∧
      objectRequiredText (.str subject) "subject" = .ok subject ∧
      objectRequiredText (.str predicate) "predicate" = .ok predicate ∧
      memberValue "DraftClaimCompactionTriplePredicate" TriplePredicate.ofValue?
        TriplePredicate.value predicate = .ok predicate ∧
      objectRequiredText (.str object) "object" = .ok object ∧
      ∀ text ∈ qualifiers, strip text = text := by
  unfold tripleObject at h
  split at h
  · simp only [bind_eq_ok, refuseFields_eq_ok_iff] at h
    obtain ⟨_, -, _, -, subject, hsubject, text, htext, predicate, hpredicate, object, hobject,
      qualifiers, hqualifiers, hpure⟩ := h
    cases hpure
    obtain ⟨rfl, -⟩ := (memberValue_eq_ok_iff TriplePredicate.ofValue?_eq_some_iff).mp hpredicate
    exact ⟨subject, _, object, qualifiers, rfl, objectRequiredText_again hsubject,
      objectRequiredText_again htext, hpredicate, objectRequiredText_again hobject,
      stripped_of_objectTextList hqualifiers⟩
  · cases h

theorem fieldReader_tripleObject : FieldReader tripleObject where
  settles value normal h := by
    obtain ⟨subject, predicate, object, qualifiers, rfl, hsubject, hpredicate, hmember, hobject,
      hqualifiers⟩ := tripleObject_spec h
    have hlist := objectTextList_jsonTextList hqualifiers "qualifiers"
    simp only [tripleObject, bind_eq_ok, refuseFields_eq_ok_iff]
    exact ⟨(), by simp [tripleFields], (), by simp [tripleFields], subject, hsubject, predicate,
      hpredicate, predicate, hmember, object, hobject, qualifiers, hlist, rfl⟩
  json value normal h := by
    obtain ⟨subject, predicate, object, qualifiers, rfl, -⟩ := tripleObject_spec h
    simp [PyObject.isJson, PyObject.jsonEntries, isJson_jsonTextList]

theorem fieldReader_tripleList (key : String) : FieldReader (tripleList key) where
  settles value normal h := by
    obtain ⟨items, -, hitems⟩ := bind_eq_ok.mp h
    obtain ⟨triples, htriples, rfl⟩ := map_eq_ok.mp hitems
    have hagain : (triples.map id).mapM tripleObject = .ok triples := by
      refine mapM_map_eq_ok fun triple htriple => ?_
      obtain ⟨item, -, hitem⟩ := exists_of_mem_forall₂ (forall₂_of_mapM htriples).flip htriple
      exact fieldReader_tripleObject.settles item triple hitem
    rw [List.map_id] at hagain
    exact bind_eq_ok.mpr ⟨triples, rfl, map_eq_ok.mpr ⟨triples, hagain, rfl⟩⟩
  json value normal h := by
    obtain ⟨items, -, hitems⟩ := bind_eq_ok.mp h
    obtain ⟨triples, htriples, rfl⟩ := map_eq_ok.mp hitems
    change PyObject.jsonItems triples = true
    rw [jsonItems_eq_all, List.all_eq_true]
    intro triple htriple
    obtain ⟨item, -, hitem⟩ := exists_of_mem_forall₂ (forall₂_of_mapM htriples).flip htriple
    exact fieldReader_tripleObject.json item triple hitem

theorem fieldReader_of_mem :
    ∀ field ∈ publishableFields, FieldReader field.2 := by
  simp only [publishableFields, List.forall_mem_cons]
  exact ⟨fieldReader_requiredText _, fieldReader_requiredText _,
    fieldReader_memberText ClaimKind.ofValue?_eq_some_iff _ _,
    fieldReader_memberText DraftClaimCompactionGranularity.ofValue?_eq_some_iff _ _,
    fieldReader_textList _, fieldReader_tripleList _,
    fieldReader_memberText MergeDecision.ofValue?_eq_some_iff _ _,
    fieldReader_dedupedTextList _, fieldReader_plainText _, fieldReader_requiredText _,
    List.forall_mem_nil _⟩

theorem nodup_publishableFields : (publishableFields.map Prod.fst).Nodup := by decide

theorem validatedPublishablePayload_eq_ok_iff {payload normal : ObjectMap} :
    validatedPublishablePayload payload = .ok normal ↔
      (∀ field, field ∈ payload.map Prod.fst ↔ field ∈ publishableFields.map Prod.fst) ∧
        normalise publishableFields (objectGet payload) = .ok normal := by
  simp only [validatedPublishablePayload, bind_eq_ok, refuseFields_eq_ok_iff,
    List.filter_eq_nil_iff, decide_eq_true_eq, not_not]
  constructor
  · rintro ⟨_, hmissing, _, hextra, hread⟩
    exact ⟨fun field => ⟨hextra field, hmissing field⟩, hread⟩
  · rintro ⟨hkeys, hread⟩
    exact ⟨(), fun field => (hkeys field).mpr, (), fun field => (hkeys field).mp, hread⟩

/-- A validated payload is validated again as it is. -/
theorem validatedPublishablePayload_again {payload normal : ObjectMap}
    (h : validatedPublishablePayload payload = .ok normal) :
    validatedPublishablePayload normal = .ok normal := by
  obtain ⟨-, hread⟩ := validatedPublishablePayload_eq_ok_iff.mp h
  refine validatedPublishablePayload_eq_ok_iff.mpr ⟨fun field => ?_, ?_⟩
  · rw [keys_normalise hread]
  · refine normalise_again nodup_publishableFields hread fun field hfield => Or.inr ?_
    obtain ⟨value, hlook, -⟩ :=
      ((normalise_eq_ok_iff nodup_publishableFields).mp hread).2 field hfield
    refine ⟨(fieldReader_of_mem field hfield).settles, ?_⟩
    rw [objectGet, hlook, Option.getD_some]

end CrmBot.Curation
