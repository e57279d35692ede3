import CrmBot.Compaction.OutputContract

/-!
The format of a compaction output, said without the validator, and that the
validator accepts exactly this format. Numbers with a fraction are not told apart
from integers: no field of an output is a number.
-/

namespace CrmBot.Compaction

open CrmBot.Python FailingFold

/-! The format. -/

/-- The object has exactly the named fields. -/
def HasFields (fields : List String) (entries : Payload) : Prop :=
  ∀ name, (entries.get name).isSome = true ↔ name ∈ fields

def IsText (value : Option PyValue) (text : String) : Prop :=
  value = some (.str text) ∧ isBlank text = false

def IsTextList (value : Option PyValue) (texts : List String) : Prop :=
  value = some (.list (texts.map .str)) ∧ ∀ text ∈ texts, isBlank text = false

def tripleFields : List String := ["subject", "predicate", "object", "qualifiers"]

def outputClaimFields : List String :=
  ["key", "claim", "claim_kind", "source_claim_refs", "triples", "merge_decision"]

/-- The object is the given triple, under one of the allowed predicates. -/
def DescribesTriple (item : PyValue) (triple : Triple) : Prop :=
  ∃ entries, item = .dict entries ∧ HasFields tripleFields entries ∧
    IsText (Payload.get entries "subject") triple.subject ∧
    (∃ predicate : TriplePredicate, triple.predicate = predicate.value ∧
      Payload.get entries "predicate" = some (.str predicate.value)) ∧
    IsText (Payload.get entries "object") triple.object ∧
    IsTextList (Payload.get entries "qualifiers") triple.qualifiers

def DescribesTriples (value : Option PyValue) (triples : List Triple) : Prop :=
  ∃ items, value = some (.list items) ∧ List.Forall₂ DescribesTriple items triples

/-- Merged is what has more than one source. -/
def MarkedByRefs (output : DraftClaimCompactionOutputClaim) : Prop :=
  output.mergeDecision = .merged ↔ 1 < output.sourceClaimRefs.length

/-- The object is the given claim. -/
def DescribesClaim (item : PyValue) (output : DraftClaimCompactionOutputClaim) : Prop :=
  ∃ entries, item = .dict entries ∧ HasFields outputClaimFields entries ∧
    IsText (Payload.get entries "key") output.key ∧
    IsText (Payload.get entries "claim") output.claim ∧
    Payload.get entries "claim_kind" = some (.str output.claimKind.text) ∧
    IsTextList (Payload.get entries "source_claim_refs") output.sourceClaimRefs ∧
    DescribesTriples (Payload.get entries "triples") output.triples ∧
    Payload.get entries "merge_decision" = some (.str output.mergeDecision.value)

/-- The value is an object with the given claims and nothing else. -/
def DescribesOutput (value : PyValue) (outputs : List DraftClaimCompactionOutputClaim) : Prop :=
  ∃ entries items, value = .dict entries ∧ HasFields ["compacted_claims"] entries ∧
    Payload.get entries "compacted_claims" = some (.list items) ∧
    List.Forall₂ DescribesClaim items outputs

/-- `validate` on any decoded JSON value. -/
def validateOutputValue (value : PyValue) (inputClaimRefs : List String) :
    Except String (List DraftClaimCompactionOutputClaim) :=
  match value with
  | .dict payload => validateCompactionOutput payload inputClaimRefs
  | _ => do
    validateInputRefs inputClaimRefs
    .error "payload must be object"

/-! The readers. -/

section Readers

variable {value : Option PyValue} {fieldName : String}

theorem requireThat_eq_ok_iff {condition : Bool} {message : String} {result : Unit} :
    requireThat condition message = .ok result ↔ condition = true := by
  refine ⟨requireThat_eq_ok, fun hcondition => ?_⟩
  unfold requireThat
  rw [if_pos hcondition]

theorem isSome_get_iff {entries : Payload} {name : String} :
    (entries.get name).isSome = true ↔ name ∈ entries.map Prod.fst := by
  induction entries with
  | nil => simp
  | cons entry rest ih =>
    unfold Payload.get
    split
    · next hname => simp [hname]
    · next hname =>
      rw [ih, List.map_cons, List.mem_cons]
      exact (or_iff_right fun heq => hname heq.symm).symm

theorem fieldsAre_iff {fields : List String} {entries : Payload} :
    fieldsAre fields entries = true ↔ HasFields fields entries := by
  unfold fieldsAre HasFields
  rw [Bool.and_eq_true, List.all_eq_true, List.all_eq_true]
  constructor
  · rintro ⟨hknown, hpresent⟩ name
    refine ⟨fun hsome => ?_, hpresent name⟩
    obtain ⟨entry, hentry, rfl⟩ := List.mem_map.mp (isSome_get_iff.mp hsome)
    exact of_decide_eq_true (hknown entry hentry)
  · intro hfields
    refine ⟨fun entry hentry => decide_eq_true ?_, fun name hname => (hfields name).mpr hname⟩
    exact (hfields entry.1).mp (isSome_get_iff.mpr (List.mem_map_of_mem hentry))

/-- An object with allowed fields alone has no forbidden one. -/
theorem rejectForbiddenFields_of_hasFields {fields : List String} {entries : Payload}
    (hfields : HasFields fields entries)
    (hallowed : ∀ name ∈ forbiddenOutputFields, name ∉ fields) (location : String) :
    rejectForbiddenFields entries location = .ok () := by
  have hnone : (forbiddenOutputFields.filter fun field => (entries.get field).isSome) = [] := by
    rw [List.filter_eq_nil_iff]
    intro name hname hsome
    exact hallowed name hname ((hfields name).mp hsome)
  unfold rejectForbiddenFields
  rw [hnone]
  rfl

theorem nonEmptyString_eq_ok_iff {text : String} :
    nonEmptyString value fieldName = .ok text ↔ IsText value text := by
  unfold nonEmptyString IsText
  split
  · next found =>
    split
    · next hblank =>
      refine iff_of_false nofun ?_
      rintro ⟨heq, htext⟩
      cases heq
      rw [hblank] at htext
      cases htext
    · next hblank =>
      constructor
      · intro heq
        cases heq
        exact ⟨rfl, by simpa using hblank⟩
      · rintro ⟨heq, -⟩
        cases heq
        rfl
  · next hother =>
    refine iff_of_false nofun ?_
    rintro ⟨heq, -⟩
    exact hother text heq

theorem stringItem_eq_ok_iff {item : PyValue} {text : String} :
    stringItem fieldName item = .ok text ↔ item = .str text ∧ isBlank text = false := by
  cases item with
  | str found =>
    unfold stringItem
    dsimp only
    split
    · next hblank =>
      constructor
      · intro herror
        cases herror
      rintro ⟨heq, htext⟩
      cases heq
      rw [hblank] at htext
      cases htext
    · next hblank =>
      constructor
      · intro heq
        cases heq
        exact ⟨rfl, by simpa using hblank⟩
      · rintro ⟨heq, -⟩
        cases heq
        rfl
  | none | bool _ | int _ | list _ | dict _ =>
    constructor
    · intro herror
      cases herror
    · rintro ⟨heq, -⟩
      cases heq

theorem forall₂_str_iff {items : List PyValue} {texts : List String} :
    List.Forall₂ (fun item text => item = .str text ∧ isBlank text = false) items texts ↔
      items = texts.map .str ∧ ∀ text ∈ texts, isBlank text = false := by
  induction items generalizing texts with
  | nil => cases texts <;> simp
  | cons item rest ih =>
    cases texts with
    | nil => simp
    | cons text others =>
      rw [List.forall₂_cons, ih, List.map_cons, List.cons.injEq, List.forall_mem_cons]
      exact and_and_and_comm

theorem stringList_eq_ok_iff {texts : List String} :
    stringList value fieldName = .ok texts ↔ IsTextList value texts := by
  unfold stringList IsTextList
  split
  · next items =>
    rw [mapM_eq_ok_iff]
    simp only [stringItem_eq_ok_iff]
    rw [forall₂_str_iff, Option.some.injEq, PyValue.list.injEq]
  · next hother =>
    refine iff_of_false nofun ?_
    rintro ⟨heq, -⟩
    exact hother _ heq

theorem enumMember_eq_ok_iff {Member : Type} {ofValue? : String → Option Member}
    {valueOf : Member → String} (hread : ∀ text member, ofValue? text = some member ↔
      valueOf member = text) {refusal : String} {member : Member} :
    enumMember ofValue? value fieldName refusal = .ok member ↔
      value = some (.str (valueOf member)) := by
  unfold enumMember
  split
  · next text =>
    rw [Option.some.injEq, PyValue.str.injEq]
    split
    · next found hfound =>
      have htext := (hread text found).mp hfound
      rw [Except.ok.injEq]
      constructor
      · rintro rfl
        exact htext.symm
      · intro heq
        have hmember := (hread text member).mpr heq.symm
        exact Option.some.inj (hfound.symm.trans hmember)
    · next hnone =>
      refine iff_of_false nofun fun heq => ?_
      rw [(hread text member).mpr heq.symm] at hnone
      cases hnone
  · next hother =>
    exact iff_of_false nofun fun heq => hother _ heq

theorem ClaimKind.ofValue?_eq_some_iff (text : String) (kind : ClaimKind) :
    ClaimKind.ofValue? text = some kind ↔ kind.text = text := by
  constructor
  · intro h
    simpa using List.find?_some h
  · rintro rfl
    cases kind <;> rfl

theorem MergeDecision.ofValue?_eq_some_iff (text : String) (decision : MergeDecision) :
    MergeDecision.ofValue? text = some decision ↔ decision.value = text := by
  constructor
  · intro h
    simpa using List.find?_some h
  · rintro rfl
    cases decision <;> rfl

theorem TriplePredicate.ofValue?_eq_some_iff (text : String) (predicate : TriplePredicate) :
    TriplePredicate.ofValue? text = some predicate ↔ predicate.value = text := by
  constructor
  · intro h
    simpa using List.find?_some h
  · rintro rfl
    cases predicate <;> rfl

theorem claimKindValue_eq_ok_iff {kind : ClaimKind} :
    claimKindValue value fieldName = .ok kind ↔ value = some (.str kind.text) :=
  enumMember_eq_ok_iff ClaimKind.ofValue?_eq_some_iff

theorem mergeDecisionValue_eq_ok_iff {decision : MergeDecision} :
    mergeDecisionValue value fieldName = .ok decision ↔ value = some (.str decision.value) :=
  enumMember_eq_ok_iff MergeDecision.ofValue?_eq_some_iff

theorem predicateValue_eq_ok_iff {predicate : TriplePredicate} :
    predicateValue value fieldName = .ok predicate ↔ value = some (.str predicate.value) :=
  enumMember_eq_ok_iff TriplePredicate.ofValue?_eq_some_iff

theorem tripleItem_eq_ok_iff {item : PyValue} {index : Nat} {triple : Triple} :
    tripleItem fieldName (item, index) = .ok triple ↔ DescribesTriple item triple := by
  cases item with
  | none | bool _ | int _ | str _ | list _ =>
    refine iff_of_false nofun ?_
    rintro ⟨_, heq, -⟩
    cases heq
  | dict entries =>
    simp only [tripleItem, bind_eq_ok, requireThat_eq_ok_iff, nonEmptyString_eq_ok_iff,
      predicateValue_eq_ok_iff, stringList_eq_ok_iff, fieldsAre_iff]
    constructor
    · rintro ⟨_, -, _, hfields, subject, hsubject, predicate, hpredicate, object, hobject,
        qualifiers, hqualifiers, heq⟩
      cases heq
      exact ⟨entries, rfl, hfields, hsubject, ⟨predicate, rfl, hpredicate⟩, hobject, hqualifiers⟩
    · rintro ⟨_, heq, hfields, hsubject, ⟨predicate, hvalue, hpredicate⟩, hobject, hqualifiers⟩
      cases heq
      have hallowed := rejectForbiddenFields_of_hasFields hfields (by decide)
        (fieldName ++ "[" ++ toString index ++ "]")
      refine ⟨(), hallowed, (), hfields, _, hsubject, predicate, hpredicate, _, hobject, _,
        hqualifiers, ?_⟩
      rw [← hvalue]
      rfl

/-- The items of a list are read at their positions, which only the errors name. -/
theorem forall₂_zipIdx_iff {Item Result : Type} {relates : Item → Result → Prop}
    {items : List Item} {results : List Result} {offset : Nat} :
    List.Forall₂ (fun item result => relates item.1 result) (items.zipIdx offset) results ↔
      List.Forall₂ relates items results := by
  induction items generalizing results offset with
  | nil => simp
  | cons item rest ih =>
    cases results with
    | nil => simp
    | cons result others =>
      rw [List.zipIdx_cons, List.forall₂_cons, List.forall₂_cons, ih]

theorem triplesValue_eq_ok_iff {triples : List Triple} :
    triplesValue value fieldName = .ok triples ↔ DescribesTriples value triples := by
  unfold triplesValue DescribesTriples
  split
  · next items =>
    have hitem : ∀ (item : PyValue × Nat) triple,
        tripleItem fieldName item = .ok triple ↔ DescribesTriple item.1 triple :=
      fun _ _ => tripleItem_eq_ok_iff
    simp only [mapM_eq_ok_iff, hitem, forall₂_zipIdx_iff, Option.some.injEq, PyValue.list.injEq]
    exact ⟨fun hall => ⟨items, rfl, hall⟩, fun ⟨_, heq, hall⟩ => heq ▸ hall⟩
  · next hother =>
    refine iff_of_false nofun ?_
    rintro ⟨items, heq, -⟩
    exact hother items heq

end Readers

/-! The claims. -/

theorem DraftClaimCompactionOutputClaim.make_eq_ok_iff {key claim : String}
    {claimKind : ClaimKind} {refs : List String} {triples : List Triple}
    {mergeDecision : MergeDecision} {output : DraftClaimCompactionOutputClaim} :
    make key claim claimKind refs triples mergeDecision = .ok output ↔
      output.key = key ∧ output.claim = claim ∧ output.claimKind = claimKind ∧
        output.sourceClaimRefs = refs ∧ output.triples = triples ∧
        output.mergeDecision = mergeDecision := by
  constructor
  · intro h
    unfold make at h
    split at h
    · cases h
    split at h
    · cases h
    split at h
    · cases h
    split at h
    · cases h
    split at h
    · cases h
      exact ⟨rfl, rfl, rfl, rfl, rfl, rfl⟩
    · cases h
  · rintro ⟨rfl, rfl, rfl, rfl, rfl, rfl⟩
    have htext : ¬∃ ref ∈ output.sourceClaimRefs, isBlank ref = true := by
      rintro ⟨ref, href, hblank⟩
      rw [output.sourceClaimRefs_text ref href] at hblank
      cases hblank
    unfold make
    rw [dif_neg (by simp [output.key_text]), dif_neg (by simp [output.claim_text]),
      dif_neg htext, dif_neg output.sourceClaimRefs_ne_nil, dif_pos output.sourceClaimRefs_nodup]

theorem takeSourceRefs_eq_ok_iff {allowed refs seen after : List String} (hseen : seen.Nodup) :
    refs.foldlM (takeSourceRef allowed) seen = .ok after ↔
      after = seen ++ refs ∧ after.Nodup ∧ refs ⊆ allowed := by
  refine ⟨fun hrun => takeSourceRefs_spec hrun hseen, ?_⟩
  rintro ⟨rfl, hnodup, hsub⟩
  induction refs generalizing seen with
  | nil =>
    rw [List.append_nil]
    rfl
  | cons ref rest ih =>
    have hfresh : ref ∉ seen := by
      intro hmem
      exact (List.nodup_append.mp hnodup).2.2 ref hmem ref List.mem_cons_self rfl
    have hallowed : ref ∈ allowed := hsub List.mem_cons_self
    rw [List.append_cons] at hnodup ⊢
    rw [List.foldlM_cons, bind_eq_ok]
    refine ⟨seen ++ [ref], ?_, ih (List.nodup_append.mp hnodup).1 hnodup ?_⟩
    · unfold takeSourceRef
      rw [if_neg (not_not_intro hallowed), if_neg hfresh]
    · exact fun other hother => hsub (List.mem_cons_of_mem _ hother)

theorem checkMergeDecision_eq_ok_iff {refs : List String} {decision : MergeDecision}
    {result : Unit} (hne : refs ≠ []) :
    checkMergeDecision refs decision = .ok result ↔ (decision = .merged ↔ 1 < refs.length) := by
  have hpos := List.length_pos_of_ne_nil hne
  unfold checkMergeDecision
  split
  · next hsingle =>
    refine iff_of_false nofun fun hmarked => ?_
    cases decision with
    | merged =>
      have hmany := hmarked.mp rfl
      omega
    | unmerged => exact hsingle.2 rfl
  · next hsingle =>
    split
    · next hseveral => exact iff_of_false nofun fun hmarked => hseveral.2 (hmarked.mpr hseveral.1)
    · next hseveral =>
      refine iff_of_true rfl ⟨fun hmerged => ?_, fun hmany => ?_⟩
      · by_contra hfew
        rw [hmerged] at hsingle
        exact hsingle ⟨by omega, nofun⟩
      · by_contra hunmerged
        exact hseveral ⟨hmany, hunmerged⟩

/-- A claim is accepted when it is described as one, marked by its references,
and its references are inputs that came with no claim before. -/
theorem validateCompactedClaim_eq_ok_iff {allowed seen after : List String} {index : Nat}
    {item : PyValue} {output : DraftClaimCompactionOutputClaim} (hseen : seen.Nodup) :
    validateCompactedClaim allowed seen index item = .ok (after, output) ↔
      (DescribesClaim item output ∧ MarkedByRefs output) ∧
        after = seen ++ output.sourceClaimRefs ∧ after.Nodup ∧
        output.sourceClaimRefs ⊆ allowed := by
  cases item with
  | none | bool _ | int _ | str _ | list _ =>
    refine iff_of_false nofun ?_
    rintro ⟨⟨⟨_, heq, -⟩, -⟩, -⟩
    cases heq
  | dict entries =>
    simp only [validateCompactedClaim, bind_eq_ok, requireThat_eq_ok_iff, fieldsAre_iff,
      stringList_eq_ok_iff, takeSourceRefs_eq_ok_iff hseen, mergeDecisionValue_eq_ok_iff,
      nonEmptyString_eq_ok_iff, claimKindValue_eq_ok_iff, triplesValue_eq_ok_iff,
      DraftClaimCompactionOutputClaim.make_eq_ok_iff]
    constructor
    · rintro ⟨_, -, _, hfields, refs, hrefs, _, hne, taken, htaken, decision, hdecision, _, hmarked,
        key, hkey, claim, hclaim, kind, hkind, triples, htriples, made,
        ⟨rfl, rfl, rfl, rfl, rfl, rfl⟩, heq⟩
      cases heq
      have hmarks := (checkMergeDecision_eq_ok_iff output.sourceClaimRefs_ne_nil).mp hmarked
      exact ⟨⟨⟨entries, rfl, hfields, hkey, hclaim, hkind, hrefs, htriples, hdecision⟩, hmarks⟩,
        htaken⟩
    · rintro ⟨⟨⟨_, heq, hfields, hkey, hclaim, hkind, hrefs, htriples, hdecision⟩, hmarked⟩,
        htaken⟩
      cases heq
      have hne := output.sourceClaimRefs_ne_nil
      have hforbidden := rejectForbiddenFields_of_hasFields hfields (by decide)
        ("compacted_claims[" ++ toString index ++ "]")
      exact ⟨(), hforbidden, (), hfields, _, hrefs, (), by simpa using hne, after, htaken, _,
        hdecision, (), (checkMergeDecision_eq_ok_iff hne).mpr hmarked, _, hkey, _, hclaim, _,
        hkind, _, htriples, output, ⟨rfl, rfl, rfl, rfl, rfl, rfl⟩, rfl⟩

theorem validateClaimStep_eq_ok_iff {inputClaimRefs : List String} {item : PyValue × Nat}
    {before after : List String × List DraftClaimCompactionOutputClaim} :
    validateClaimStep inputClaimRefs before item = .ok after ↔
      ∃ output, validateCompactedClaim inputClaimRefs before.1 item.2 item.1 =
        .ok (after.1, output) ∧ after.2 = before.2 ++ [output] := by
  rcases after with ⟨seen, outputs⟩
  simp only [validateClaimStep, bind_eq_ok]
  constructor
  · rintro ⟨⟨taken, output⟩, hclaim, heq⟩
    cases heq
    exact ⟨output, hclaim, rfl⟩
  · rintro ⟨output, hclaim, rfl⟩
    exact ⟨(seen, output), hclaim, rfl⟩

/-- The loop accepts the items when each describes a claim and the references of
the claims, one after another, are inputs without repetition. -/
theorem validateClaims_eq_ok_iff {inputClaimRefs : List String} {items : List PyValue}
    {offset : Nat} {seen after : List String}
    {before outputs : List DraftClaimCompactionOutputClaim} (hseen : seen.Nodup) :
    (items.zipIdx offset).foldlM (validateClaimStep inputClaimRefs) (seen, before) =
        .ok (after, outputs) ↔
      ∃ added, outputs = before ++ added ∧
        List.Forall₂ (fun item output => DescribesClaim item output ∧ MarkedByRefs output)
          items added ∧
        after = seen ++ added.flatMap (·.sourceClaimRefs) ∧ after.Nodup ∧
        added.flatMap (·.sourceClaimRefs) ⊆ inputClaimRefs := by
  induction items generalizing offset seen before after outputs with
  | nil =>
    constructor
    · intro h
      cases h
      exact ⟨[], by simp, .nil, by simp, hseen, by simp⟩
    · rintro ⟨added, rfl, hall, rfl, -⟩
      cases hall
      simp [pure, Except.pure]
  | cons item rest ih =>
    rw [List.zipIdx_cons, List.foldlM_cons, bind_eq_ok]
    constructor
    · rintro ⟨⟨taken, made⟩, hstep, hrest⟩
      obtain ⟨output, hclaim, hmade⟩ := validateClaimStep_eq_ok_iff.mp hstep
      obtain ⟨hdescribed, htaken, hnodup, hsub⟩ :=
        (validateCompactedClaim_eq_ok_iff hseen).mp hclaim
      obtain ⟨added, hadded, hall, hafter, hfresh, hinputs⟩ := (ih hnodup).mp hrest
      dsimp only at hmade htaken
      refine ⟨output :: added, by simp [hadded, hmade], .cons hdescribed hall, ?_, hfresh, ?_⟩
      · rw [hafter, htaken, List.flatMap_cons, List.append_assoc]
      · rw [List.flatMap_cons]
        exact List.append_subset.mpr ⟨hsub, hinputs⟩
    · rintro ⟨added, rfl, hall, rfl, hnodup, hsub⟩
      cases hall with
      | cons hdescribed hothers =>
        next output others =>
        rw [List.flatMap_cons] at hsub
        rw [List.flatMap_cons, ← List.append_assoc] at hnodup
        have hfirst := (List.nodup_append.mp hnodup).1
        have hsubs := List.append_subset.mp hsub
        refine ⟨(seen ++ output.sourceClaimRefs, before ++ [output]), ?_, ?_⟩
        · exact validateClaimStep_eq_ok_iff.mpr ⟨output, (validateCompactedClaim_eq_ok_iff
            hseen).mpr ⟨hdescribed, rfl, hfirst, hsubs.1⟩, rfl⟩
        · rw [List.flatMap_cons, ← List.append_assoc]
          exact (ih hfirst).mpr ⟨others, by simp, hothers, rfl, hnodup, hsubs.2⟩

theorem validateInputRefs_eq_ok_iff {inputClaimRefs : List String} {result : Unit} :
    validateInputRefs inputClaimRefs = .ok result ↔
      inputClaimRefs ≠ [] ∧ inputClaimRefs.Nodup ∧
        ∀ ref ∈ inputClaimRefs, isBlank ref = false := by
  simp only [validateInputRefs, bind_eq_ok, requireThat_eq_ok_iff]
  simp

theorem compactedClaimItems_eq_ok_iff {value : Option PyValue} {items : List PyValue} :
    compactedClaimItems value = .ok items ↔ value = some (.list items) := by
  unfold compactedClaimItems
  split
  · simp
  · next hother => exact iff_of_false nofun (hother items)

/-- The references of described claims are texts. -/
theorem isBlank_of_described {outputs : List DraftClaimCompactionOutputClaim} {ref : String}
    (href : ref ∈ outputs.flatMap (·.sourceClaimRefs)) : isBlank ref = false := by
  obtain ⟨output, -, hmem⟩ := List.mem_flatMap.mp href
  exact output.sourceClaimRefs_text ref hmem

/-- Validation of an object, with its input references. -/
theorem validateCompactionOutput_eq_ok_iff {entries : Payload} {inputClaimRefs : List String}
    {outputs : List DraftClaimCompactionOutputClaim} (hne : inputClaimRefs ≠ [])
    (hunique : inputClaimRefs.Nodup) :
    validateCompactionOutput entries inputClaimRefs = .ok outputs ↔
      DescribesOutput (.dict entries) outputs ∧ (∀ output ∈ outputs, MarkedByRefs output) ∧
        (outputs.flatMap (·.sourceClaimRefs)).Perm inputClaimRefs := by
  simp only [validateCompactionOutput, bind_eq_ok, validateInputRefs_eq_ok_iff,
    requireThat_eq_ok_iff, fieldsAre_iff, compactedClaimItems_eq_ok_iff]
  constructor
  · rintro ⟨_, -, _, -, _, hfields, items, hitems, ⟨seen, made⟩, hloop, _, hall, heq⟩
    cases heq
    obtain ⟨added, hadded, hclaims, hseen, hnodup, hsub⟩ :=
      (validateClaims_eq_ok_iff List.nodup_nil).mp hloop
    rw [List.nil_append] at hadded hseen
    subst hadded hseen
    obtain ⟨hdescribed, hmarked⟩ := forall₂_and_right.mp hclaims
    refine ⟨⟨entries, items, rfl, hfields, hitems, hdescribed⟩, hmarked, ?_⟩
    refine (List.perm_ext_iff_of_nodup hnodup hunique).mpr fun ref => ⟨fun href => hsub href, ?_⟩
    intro href
    have hfound := List.all_eq_true.mp hall ref href
    simpa using hfound
  · rintro ⟨⟨_, items, heq, hfields, hitems, hdescribed⟩, hmarked, hperm⟩
    cases heq
    have hforbidden := rejectForbiddenFields_of_hasFields hfields (by decide) "top-level output"
    have hnodup := hperm.nodup_iff.mpr hunique
    have htexts : ∀ ref ∈ inputClaimRefs, isBlank ref = false := fun ref href =>
      isBlank_of_described (hperm.mem_iff.mpr href)
    have hloop : items.zipIdx.foldlM (validateClaimStep inputClaimRefs) ([], []) =
        .ok (outputs.flatMap (·.sourceClaimRefs), outputs) :=
      (validateClaims_eq_ok_iff List.nodup_nil).mpr
        ⟨outputs, rfl, forall₂_and_right.mpr ⟨hdescribed, hmarked⟩, rfl, hnodup, hperm.subset⟩
    refine ⟨(), ⟨hne, hunique, htexts⟩, (), hforbidden, (), hfields, items, hitems, _, hloop, (),
      ?_, rfl⟩
    refine List.all_eq_true.mpr fun ref href => ?_
    simpa using hperm.mem_iff.mpr href

/-- An output is accepted exactly when the value is an object with the claims of
the output, each merged when it has more than one source, whose sources are the
input references, each once. -/
theorem validateOutputValue_eq_ok_iff {value : PyValue} {inputClaimRefs : List String}
    {outputs : List DraftClaimCompactionOutputClaim} (hne : inputClaimRefs ≠ [])
    (hunique : inputClaimRefs.Nodup) :
    validateOutputValue value inputClaimRefs = .ok outputs ↔
      DescribesOutput value outputs ∧ (∀ output ∈ outputs, MarkedByRefs output) ∧
        (outputs.flatMap (·.sourceClaimRefs)).Perm inputClaimRefs := by
  cases value with
  | dict entries => exact validateCompactionOutput_eq_ok_iff hne hunique
  | none | bool _ | int _ | str _ | list _ =>
    refine iff_of_false (fun h => ?_) ?_
    · obtain ⟨_, _, herror⟩ := bind_eq_ok.mp h
      cases herror
    · rintro ⟨⟨_, _, heq, -⟩, -⟩
      cases heq

/-- An output of one claim with two sources. -/
def pairOutput (mergeDecision : String) : PyValue :=
  .dict [("compacted_claims", .list [.dict [
    ("key", .str "delivery"), ("claim", .str "Delivery takes two days"),
    ("claim_kind", .str "property"), ("source_claim_refs", .list [.str "n1", .str "n2"]),
    ("triples", .list []), ("merge_decision", .str mergeDecision)]])]

theorem pairOutput_accepted :
    ∃ outputs, validateOutputValue (pairOutput "merged") ["n2", "n1"] = .ok outputs ∧
      DescribesOutput (pairOutput "merged") outputs ∧ (∀ output ∈ outputs, MarkedByRefs output) ∧
        (outputs.flatMap (·.sourceClaimRefs)).Perm ["n2", "n1"] := by
  obtain ⟨outputs, hrun⟩ : ∃ outputs,
      validateOutputValue (pairOutput "merged") ["n2", "n1"] = .ok outputs := ⟨_, rfl⟩
  exact ⟨outputs, hrun, (validateOutputValue_eq_ok_iff (by simp) (by simp)).mp hrun⟩

end CrmBot.Compaction
