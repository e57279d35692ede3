import CrmBot.Compaction.ReductionState
import CrmBot.Library.Fold
import CrmBot.Python.PyValue

/-! The output contract of draft-claim compaction and its validator.

`DraftClaimCompactionOutputValidator` reads a decoded JSON object. An error here
is the text of the exception it raises. -/

namespace CrmBot.Compaction

open CrmBot.Python FailingFold

/-- The text of a kind; one of the kinds is itself called value. -/
def ClaimKind.text : ClaimKind → String
  | .definition => "definition"
  | .property => "property"
  | .capability => "capability"
  | .limitation => "limitation"
  | .rule => "rule"
  | .condition => "condition"
  | .process => "process"
  | .list => "list"
  | .comparison => "comparison"
  | .criterion => "criterion"
  | .exampleSet => "example_set"
  | .value => "value"
  | .exception => "exception"
  | .other => "other"

def ClaimKind.all : List ClaimKind :=
  [.definition, .property, .capability, .limitation, .rule, .condition, .process, .list,
    .comparison, .criterion, .exampleSet, .value, .exception, .other]

/-- `DraftClaimCompactionClaimKind(value)`. -/
def ClaimKind.ofValue? (value : String) : Option ClaimKind :=
  ClaimKind.all.find? fun kind => kind.text = value

def MergeDecision.value : MergeDecision → String
  | .merged => "merged"
  | .unmerged => "unmerged"

/-- `DraftClaimCompactionMergeDecision(value)`. -/
def MergeDecision.ofValue? (value : String) : Option MergeDecision :=
  [MergeDecision.merged, .unmerged].find? fun decision => decision.value = value

inductive TriplePredicate
  | isA | hasCapability | hasProperty | hasValue | hasLimitation | requires | supports
  | integratesWith | usedFor | handles | transfersTo | provides | improves | checks | removes
  | creates | connectsTo
  deriving DecidableEq, Repr

def TriplePredicate.value : TriplePredicate → String
  | .isA => "is_a"
  | .hasCapability => "has_capability"
  | .hasProperty => "has_property"
  | .hasValue => "has_value"
  | .hasLimitation => "has_limitation"
  | .requires => "requires"
  | .supports => "supports"
  | .integratesWith => "integrates_with"
  | .usedFor => "used_for"
  | .handles => "handles"
  | .transfersTo => "transfers_to"
  | .provides => "provides"
  | .improves => "improves"
  | .checks => "checks"
  | .removes => "removes"
  | .creates => "creates"
  | .connectsTo => "connects_to"

def TriplePredicate.all : List TriplePredicate :=
  [.isA, .hasCapability, .hasProperty, .hasValue, .hasLimitation, .requires, .supports,
    .integratesWith, .usedFor, .handles, .transfersTo, .provides, .improves, .checks, .removes,
    .creates, .connectsTo]

/-- `DraftClaimCompactionTriplePredicate(value)`. -/
def TriplePredicate.ofValue? (value : String) : Option TriplePredicate :=
  TriplePredicate.all.find? fun predicate => predicate.value = value

/-- One claim of a validated output, before it is enriched. -/
structure DraftClaimCompactionOutputClaim where
  key : String
  claim : String
  claimKind : ClaimKind
  sourceClaimRefs : List String
  triples : List Triple
  mergeDecision : MergeDecision
  key_text : isBlank key = false
  claim_text : isBlank claim = false
  sourceClaimRefs_text : ∀ ref ∈ sourceClaimRefs, isBlank ref = false
  sourceClaimRefs_ne_nil : sourceClaimRefs ≠ []
  sourceClaimRefs_nodup : sourceClaimRefs.Nodup

/-- `DraftClaimReducedRewriteOutput`. -/
structure DraftClaimReducedRewriteOutput where
  key : String
  claim : String
  triples : List Triple
  deriving DecidableEq

/-! Readers. A missing field reads as `none`; the field sets are checked first. -/

def requireThat (condition : Bool) (message : String) : Except String Unit :=
  if condition then .ok () else .error message

def forbiddenOutputFields : List String :=
  ["questions", "possible_questions", "exclusion_scope", "evidence", "evidence_block", "mentions",
    "source_refs", "metrics", "warnings"]

/-- `_reject_forbidden_fields`. -/
def rejectForbiddenFields (mapping : Payload) (location : String) : Except String Unit :=
  let forbidden := forbiddenOutputFields.filter fun field => (mapping.get field).isSome
  requireThat forbidden.isEmpty
    (location ++ " contains forbidden fields: " ++ ", ".intercalate (sorted forbidden))

/-- `set(mapping.keys()) == fields`. -/
def fieldsAre (fields : List String) (mapping : Payload) : Bool :=
  (mapping.all fun entry => entry.1 ∈ fields) &&
    fields.all fun field => (mapping.get field).isSome

/-- `_non_empty_string`. -/
def nonEmptyString (value : Option PyValue) (fieldName : String) : Except String String :=
  match value with
  | some (.str text) =>
    if isBlank text then .error (fieldName ++ " must be non-empty str") else .ok text
  | _ => .error (fieldName ++ " must be non-empty str")

/-- The items of `_string_list`. -/
def stringItem (fieldName : String) : PyValue → Except String String
  | .str text =>
    if isBlank text then .error (fieldName ++ " must contain non-empty strings") else .ok text
  | _ => .error (fieldName ++ " must contain non-empty strings")

/-- `_string_list`. -/
def stringList (value : Option PyValue) (fieldName : String) : Except String (List String) :=
  match value with
  | some (.list items) => items.mapM (stringItem fieldName)
  | _ => .error (fieldName ++ " must be list")

/-- `_claim_kind`, `_merge_decision` and `_predicate`: a text that names a member. -/
def enumMember {Member : Type} (ofValue? : String → Option Member) (value : Option PyValue)
    (fieldName refusal : String) : Except String Member :=
  match value with
  | some (.str text) => match ofValue? text with
    | some member => .ok member
    | none => .error (fieldName ++ refusal)
  | _ => .error (fieldName ++ " must be str")

def claimKindValue (value : Option PyValue) (fieldName : String) : Except String ClaimKind :=
  enumMember ClaimKind.ofValue? value fieldName " is not allowed"

def mergeDecisionValue (value : Option PyValue) (fieldName : String) :
    Except String MergeDecision :=
  enumMember MergeDecision.ofValue? value fieldName " must be merged or unmerged"

def predicateValue (value : Option PyValue) (fieldName : String) :
    Except String TriplePredicate :=
  enumMember TriplePredicate.ofValue? value fieldName " is not allowed"

/-- One item of `_triples`. -/
def tripleItem (fieldName : String) : PyValue × Nat → Except String Triple
  | (.dict item, index) => do
    let itemName := fieldName ++ "[" ++ toString index ++ "]"
    rejectForbiddenFields item itemName
    requireThat (fieldsAre ["subject", "predicate", "object", "qualifiers"] item)
      (itemName ++ " field set is invalid")
    let subject ← nonEmptyString (Payload.get item "subject") (itemName ++ ".subject")
    let predicate ← predicateValue (Payload.get item "predicate") (itemName ++ ".predicate")
    let object ← nonEmptyString (Payload.get item "object") (itemName ++ ".object")
    let qualifiers ← stringList (Payload.get item "qualifiers") (itemName ++ ".qualifiers")
    pure ⟨subject, predicate.value, object, qualifiers⟩
  | (_, index) => .error (fieldName ++ "[" ++ toString index ++ "] must be object")

/-- `_triples`. -/
def triplesValue (value : Option PyValue) (fieldName : String) : Except String (List Triple) :=
  match value with
  | some (.list items) => items.zipIdx.mapM (tripleItem fieldName)
  | _ => .error (fieldName ++ " must be list")

/-! Compacted claims. -/

/-- The constructor of an output claim with its own checks. -/
def DraftClaimCompactionOutputClaim.make (key claim : String) (claimKind : ClaimKind)
    (sourceClaimRefs : List String) (triples : List Triple) (mergeDecision : MergeDecision) :
    Except String DraftClaimCompactionOutputClaim :=
  if hkey : isBlank key = true then .error "key must be non-empty"
  else if hclaim : isBlank claim = true then .error "claim must be non-empty"
  else if htext : ∃ ref ∈ sourceClaimRefs, isBlank ref = true then
    .error "source_claim_refs must be non-empty"
  else if hne : sourceClaimRefs = [] then .error "source_claim_refs must be non-empty"
  else if hnodup : sourceClaimRefs.Nodup then
    .ok { key, claim, claimKind, sourceClaimRefs, triples, mergeDecision
          key_text := isBlank_eq_false hkey
          claim_text := isBlank_eq_false hclaim
          sourceClaimRefs_text := fun ref href =>
            Bool.eq_false_iff.mpr fun hblank => htext ⟨ref, href, hblank⟩
          sourceClaimRefs_ne_nil := hne
          sourceClaimRefs_nodup := hnodup }
  else .error "source_claim_refs must be unique"

/-- One reference of a claim: an input id that no claim had before. -/
def takeSourceRef (allowedSourceRefs seenSourceRefs : List String) (ref : String) :
    Except String (List String) :=
  if ref ∉ allowedSourceRefs then .error "source_claim_refs must contain only input ids"
  else if ref ∈ seenSourceRefs then .error "input claim refs must not be duplicated"
  else .ok (seenSourceRefs ++ [ref])

/-- One reference goes with `unmerged`, several go with `merged`. -/
def checkMergeDecision (sourceClaimRefs : List String) (mergeDecision : MergeDecision) :
    Except String Unit :=
  if sourceClaimRefs.length = 1 ∧ mergeDecision ≠ .unmerged then
    .error "single source ref requires merge_decision=unmerged"
  else if 1 < sourceClaimRefs.length ∧ mergeDecision ≠ .merged then
    .error "multiple source refs require merge_decision=merged"
  else .ok ()

/-- `_validate_compacted_claim`, with the set of the references seen so far. -/
def validateCompactedClaim (allowedSourceRefs seenSourceRefs : List String) (index : Nat) :
    PyValue → Except String (List String × DraftClaimCompactionOutputClaim)
  | .dict claimValue => do
    let location := "compacted_claims[" ++ toString index ++ "]"
    rejectForbiddenFields claimValue location
    requireThat
      (fieldsAre ["key", "claim", "claim_kind", "source_claim_refs", "triples", "merge_decision"]
        claimValue)
      (location ++ " field set is invalid")
    let sourceClaimRefs ← stringList (Payload.get claimValue "source_claim_refs")
      (location ++ ".source_claim_refs")
    requireThat (!sourceClaimRefs.isEmpty) "source_claim_refs must be non-empty"
    let seen ← sourceClaimRefs.foldlM (takeSourceRef allowedSourceRefs) seenSourceRefs
    let mergeDecision ← mergeDecisionValue (Payload.get claimValue "merge_decision")
      (location ++ ".merge_decision")
    checkMergeDecision sourceClaimRefs mergeDecision
    let key ← nonEmptyString (Payload.get claimValue "key") (location ++ ".key")
    let claim ← nonEmptyString (Payload.get claimValue "claim") (location ++ ".claim")
    let claimKind ← claimKindValue (Payload.get claimValue "claim_kind") (location ++ ".claim_kind")
    let triples ← triplesValue (Payload.get claimValue "triples") (location ++ ".triples")
    let output ← DraftClaimCompactionOutputClaim.make key claim claimKind sourceClaimRefs triples
      mergeDecision
    pure (seen, output)
  | _ => .error ("compacted_claims[" ++ toString index ++ "] must be object")

/-- `_validate_input_refs`. -/
def validateInputRefs (inputClaimRefs : List String) : Except String Unit := do
  requireThat (!inputClaimRefs.isEmpty) "input_claim_refs must be non-empty"
  requireThat (decide inputClaimRefs.Nodup) "input_claim_refs must be unique"
  requireThat (inputClaimRefs.all fun ref => !isBlank ref)
    "input_claim_refs must contain non-empty strings"

def compactedClaimItems : Option PyValue → Except String (List PyValue)
  | some (.list items) => .ok items
  | _ => .error "compacted_claims must be list"

/-- The loop over the claims of an output. -/
def validateClaimStep (inputClaimRefs : List String)
    (progress : List String × List DraftClaimCompactionOutputClaim) (item : PyValue × Nat) :
    Except String (List String × List DraftClaimCompactionOutputClaim) := do
  let (seen, output) ← validateCompactedClaim inputClaimRefs progress.1 item.2 item.1
  pure (seen, progress.2 ++ [output])

/-- `DraftClaimCompactionOutputValidator.validate`. -/
def validateCompactionOutput (payload : Payload) (inputClaimRefs : List String) :
    Except String (List DraftClaimCompactionOutputClaim) := do
  validateInputRefs inputClaimRefs
  rejectForbiddenFields payload "top-level output"
  requireThat (fieldsAre ["compacted_claims"] payload)
    "payload must contain exactly compacted_claims"
  let items ← compactedClaimItems (payload.get "compacted_claims")
  let (seen, outputs) ← items.zipIdx.foldlM (validateClaimStep inputClaimRefs) ([], [])
  requireThat (inputClaimRefs.all fun ref => seen.contains ref)
    "every input claim ref must appear exactly once"
  pure outputs

def reducedRewriteOutputFields : List String := ["key", "claim", "triples"]

/-- The text of a wrong field set: the unknown fields, then the missing ones. -/
def reducedRewriteFieldError (payload : Payload) : String :=
  let unknown := sorted ((payload.map Prod.fst).filter fun field =>
    !reducedRewriteOutputFields.contains field)
  let missing := sorted (reducedRewriteOutputFields.filter fun field => (payload.get field).isNone)
  "reduced rewrite output field set is invalid: " ++ "; ".intercalate
    ((if unknown = [] then [] else ["unknown fields: " ++ ", ".intercalate unknown]) ++
      if missing = [] then [] else ["missing fields: " ++ ", ".intercalate missing])

/-- `validate_reduced_rewrite_output`. -/
def validateReducedRewriteOutput (payload : Payload) :
    Except String DraftClaimReducedRewriteOutput := do
  requireThat (fieldsAre reducedRewriteOutputFields payload) (reducedRewriteFieldError payload)
  let key ← nonEmptyString (payload.get "key") "key"
  let claim ← nonEmptyString (payload.get "claim") "claim"
  let triples ← triplesValue (payload.get "triples") "triples"
  pure ⟨key, claim, triples⟩

/-! What a validated output has. -/

theorem requireThat_eq_ok {condition : Bool} {message : String} {result : Unit}
    (h : requireThat condition message = .ok result) : condition = true := by
  unfold requireThat at h
  split at h
  · assumption
  · cases h

/-- The references of a claim are appended to those seen before: all of them
are inputs, and none came twice. -/
theorem takeSourceRefs_spec {allowed refs seen seenAfter : List String}
    (hrun : refs.foldlM (takeSourceRef allowed) seen = .ok seenAfter) (hseen : seen.Nodup) :
    seenAfter = seen ++ refs ∧ seenAfter.Nodup ∧ refs ⊆ allowed := by
  induction refs generalizing seen with
  | nil =>
    simp only [List.foldlM_nil, pure, Except.pure, Except.ok.injEq] at hrun
    rw [← hrun]
    exact ⟨(List.append_nil seen).symm, hseen, List.nil_subset _⟩
  | cons ref rest ih =>
    rw [List.foldlM_cons, bind_eq_ok] at hrun
    obtain ⟨middle, hfirst, hrest⟩ := hrun
    unfold takeSourceRef at hfirst
    split at hfirst
    · cases hfirst
    · next hallowed =>
      split at hfirst
      · cases hfirst
      · next hfresh =>
        simp only [Except.ok.injEq] at hfirst
        subst hfirst
        have hmiddle : (seen ++ [ref]).Nodup := by
          simpa [List.nodup_append] using ⟨hseen, fun other hother heq => hfresh (heq ▸ hother)⟩
        obtain ⟨heq, hnodup, hsub⟩ := ih hrest hmiddle
        refine ⟨by simpa using heq, hnodup, ?_⟩
        exact List.cons_subset.mpr ⟨not_not.mp hallowed, hsub⟩

theorem sourceClaimRefs_of_make {key claim : String} {claimKind : ClaimKind} {refs : List String}
    {triples : List Triple} {mergeDecision : MergeDecision}
    {output : DraftClaimCompactionOutputClaim}
    (h : DraftClaimCompactionOutputClaim.make key claim claimKind refs triples mergeDecision =
      .ok output) : output.sourceClaimRefs = refs := by
  unfold DraftClaimCompactionOutputClaim.make at h
  split at h
  · cases h
  split at h
  · cases h
  split at h
  · cases h
  split at h
  · cases h
  split at h
  · simp only [Except.ok.injEq] at h
    rw [← h]
  · cases h

theorem validateCompactedClaim_spec {allowed seen seenAfter : List String} {index : Nat}
    {claimValue : PyValue} {output : DraftClaimCompactionOutputClaim}
    (hrun : validateCompactedClaim allowed seen index claimValue = .ok (seenAfter, output))
    (hseen : seen.Nodup) :
    seenAfter = seen ++ output.sourceClaimRefs ∧ seenAfter.Nodup ∧
      output.sourceClaimRefs ⊆ allowed := by
  cases claimValue with
  | none | bool _ | int _ | str _ | list _ => simp [validateCompactedClaim] at hrun
  | dict claimValue =>
    simp only [validateCompactedClaim, bind_eq_ok] at hrun
    obtain ⟨_, _, _, _, refs, _, _, _, middle, hmiddle, _, _, _, _, _, _, _, _, _, _, _, _, made,
      hmade, hpure⟩ := hrun
    simp only [pure, Except.pure, Except.ok.injEq, Prod.mk.injEq] at hpure
    obtain ⟨rfl, rfl⟩ := hpure
    rw [sourceClaimRefs_of_make hmade]
    exact takeSourceRefs_spec hmiddle hseen

/-- After some claims the references seen are those of the claims, in order. -/
theorem validateClaims_spec {inputClaimRefs : List String} {items : List (PyValue × Nat)}
    {first last : List String × List DraftClaimCompactionOutputClaim}
    (hrun : items.foldlM (validateClaimStep inputClaimRefs) first = .ok last)
    (hseen : first.1 = first.2.flatMap (·.sourceClaimRefs)) (hnodup : first.1.Nodup)
    (hsub : first.1 ⊆ inputClaimRefs) :
    last.1 = last.2.flatMap (·.sourceClaimRefs) ∧ last.1.Nodup ∧ last.1 ⊆ inputClaimRefs := by
  induction items generalizing first with
  | nil =>
    simp only [List.foldlM_nil, pure, Except.pure, Except.ok.injEq] at hrun
    rw [← hrun]
    exact ⟨hseen, hnodup, hsub⟩
  | cons item rest ih =>
    rw [List.foldlM_cons, bind_eq_ok] at hrun
    obtain ⟨middle, hstep, hrest⟩ := hrun
    simp only [validateClaimStep, bind_eq_ok] at hstep
    obtain ⟨⟨seen, output⟩, hclaim, hpure⟩ := hstep
    simp only [pure, Except.pure, Except.ok.injEq] at hpure
    obtain ⟨heq, hmiddle, hallowed⟩ := validateCompactedClaim_spec hclaim hnodup
    apply ih hrest
    · rw [← hpure]
      simp [heq, hseen]
    · rw [← hpure]
      exact hmiddle
    · rw [← hpure]
      exact heq ▸ List.append_subset.mpr ⟨hsub, hallowed⟩

/-- The claims of a valid output list the input references, each once. -/
theorem validateCompactionOutput_perm {payload : Payload} {inputClaimRefs : List String}
    {outputs : List DraftClaimCompactionOutputClaim}
    (h : validateCompactionOutput payload inputClaimRefs = .ok outputs) :
    (outputs.flatMap (·.sourceClaimRefs)).Perm inputClaimRefs := by
  simp only [validateCompactionOutput, validateInputRefs, bind_eq_ok] at h
  obtain ⟨_, ⟨_, _, _, hunique, _⟩, _, _, _, _, items, _, ⟨seen, made⟩, hloop, _, hall, hpure⟩ := h
  simp only [pure, Except.pure, Except.ok.injEq] at hpure
  subst hpure
  have hnodup : inputClaimRefs.Nodup := of_decide_eq_true (requireThat_eq_ok hunique)
  obtain ⟨heq, hseen, hsub⟩ := validateClaims_spec hloop rfl List.nodup_nil (List.nil_subset _)
  have hall' := List.all_eq_true.mp (requireThat_eq_ok hall)
  rw [← heq]
  refine (List.perm_ext_iff_of_nodup hseen hnodup).mpr fun ref => ⟨fun href => hsub href, ?_⟩
  intro href
  simpa using hall' ref href

end CrmBot.Compaction
