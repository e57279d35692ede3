import CrmBot.Python.PyValue
import CrmBot.Python.Text

/-! `ClaimBuilderOutputValidationPolicy`.

Numbers in an output stand for integers and floats alike: the policy never asks
which of the two it has. -/

namespace CrmBot.ClaimBuilder

open CrmBot.Python

inductive ClaimBuilderOutputValidationDecision
  | validClaims
  | validEmpty
  | retrySameRoute
  | retryEmptyClaimsCheckModel
  | retryFallbackModel
  | retryLargerOutputLimitModel
  | terminalInvalid
  deriving DecidableEq, Repr

def ClaimBuilderOutputValidationDecision.value : ClaimBuilderOutputValidationDecision → String
  | .validClaims => "VALID_CLAIMS"
  | .validEmpty => "VALID_EMPTY"
  | .retrySameRoute => "RETRY_SAME_ROUTE"
  | .retryEmptyClaimsCheckModel => "RETRY_EMPTY_CLAIMS_CHECK_MODEL"
  | .retryFallbackModel => "RETRY_FALLBACK_MODEL"
  | .retryLargerOutputLimitModel => "RETRY_LARGER_OUTPUT_LIMIT_MODEL"
  | .terminalInvalid => "TERMINAL_INVALID"

inductive ClaimBuilderOutputValidationFailureReason
  | outputNotObject
  | claimsMissing
  | claimsNotList
  | claimsEmptyRetryRequired
  | claimItemNotObject
  | claimFieldSetInvalid
  | claimFieldNull
  | claimTextEmpty
  | granularityInvalid
  | possibleQuestionsNotList
  | possibleQuestionEmpty
  | exclusionScopeEmpty
  | evidenceBlockEmpty
  | evidenceBlockNotSourceExcerpt
  | latinTextNotSupportedByEvidence
  | invalidJsonRetryRequired
  | truncatedJsonRetryRequired
  deriving DecidableEq, Repr

def ClaimBuilderOutputValidationFailureReason.value :
    ClaimBuilderOutputValidationFailureReason → String
  | .outputNotObject => "OUTPUT_NOT_OBJECT"
  | .claimsMissing => "CLAIMS_MISSING"
  | .claimsNotList => "CLAIMS_NOT_LIST"
  | .claimsEmptyRetryRequired => "CLAIMS_EMPTY_RETRY_REQUIRED"
  | .claimItemNotObject => "CLAIM_ITEM_NOT_OBJECT"
  | .claimFieldSetInvalid => "CLAIM_FIELD_SET_INVALID"
  | .claimFieldNull => "CLAIM_FIELD_NULL"
  | .claimTextEmpty => "CLAIM_TEXT_EMPTY"
  | .granularityInvalid => "GRANULARITY_INVALID"
  | .possibleQuestionsNotList => "POSSIBLE_QUESTIONS_NOT_LIST"
  | .possibleQuestionEmpty => "POSSIBLE_QUESTION_EMPTY"
  | .exclusionScopeEmpty => "EXCLUSION_SCOPE_EMPTY"
  | .evidenceBlockEmpty => "EVIDENCE_BLOCK_EMPTY"
  | .evidenceBlockNotSourceExcerpt => "EVIDENCE_BLOCK_NOT_SOURCE_EXCERPT"
  | .latinTextNotSupportedByEvidence => "LATIN_TEXT_NOT_SUPPORTED_BY_EVIDENCE"
  | .invalidJsonRetryRequired => "INVALID_JSON_RETRY_REQUIRED"
  | .truncatedJsonRetryRequired => "TRUNCATED_JSON_RETRY_REQUIRED"

inductive DraftClaimGranularity
  | atomic
  | composite
  deriving DecidableEq, Repr

def DraftClaimGranularity.value : DraftClaimGranularity → String
  | .atomic => "atomic"
  | .composite => "composite"

/-- `DraftClaimGranularity(value)`. -/
def DraftClaimGranularity.ofValue? (value : String) : Option DraftClaimGranularity :=
  [DraftClaimGranularity.atomic, .composite].find? fun granularity => granularity.value = value

@[ext]
structure ValidatedClaimBuilderClaim where
  claim : String
  granularity : DraftClaimGranularity
  possibleQuestions : List String
  exclusionScope : String
  evidenceBlock : String
  claim_ne : isBlank claim = false
  possibleQuestions_ne : ∀ question ∈ possibleQuestions, isBlank question = false
  evidenceBlock_ne : isBlank evidenceBlock = false

instance : DecidableEq ValidatedClaimBuilderClaim := fun _ _ =>
  decidable_of_iff _ ValidatedClaimBuilderClaim.ext_iff.symm

/-- Claims and a failure exclude each other, as the constructor demands. -/
def ResultShape (decision : ClaimBuilderOutputValidationDecision)
    (claims : List ValidatedClaimBuilderClaim)
    (failureReason : Option ClaimBuilderOutputValidationFailureReason) : Prop :=
  match decision with
  | .validClaims => claims ≠ [] ∧ failureReason = none
  | .validEmpty => claims = [] ∧ failureReason = none
  | _ => claims = [] ∧ failureReason.isSome = true

structure ClaimBuilderOutputValidationResult where
  decision : ClaimBuilderOutputValidationDecision
  claims : List ValidatedClaimBuilderClaim
  failureReason : Option ClaimBuilderOutputValidationFailureReason
  shape : ResultShape decision claims failureReason

/-- `_failure(RETRY_SAME_ROUTE, …)`. -/
def retrySameRouteResult (reason : ClaimBuilderOutputValidationFailureReason) :
    ClaimBuilderOutputValidationResult where
  decision := .retrySameRoute
  claims := []
  failureReason := some reason
  shape := ⟨rfl, rfl⟩

structure ValidateClaimBuilderOutputCommand where
  outputPayload : PyValue
  sourceUnitText : String
  sourceUnitRef : String
  emptyClaimsAttemptCount : Nat
  sourceUnitRef_ne : isBlank sourceUnitRef = false

/-! One claim. A failure here always retries the same route. -/

def claimFields : List String := ["claim", "granularity", "possible_questions", "exclusion_scope"]

/-- `set(claim_mapping.keys()) == _CLAIM_FIELDS`. -/
def hasClaimFields (claimMapping : Payload) : Bool :=
  (claimMapping.all fun entry => entry.1 ∈ claimFields) &&
    claimFields.all fun field => (claimMapping.get field).isSome

/-- `_non_empty_string`. -/
def nonEmptyString (value : Option PyValue) (reason : ClaimBuilderOutputValidationFailureReason) :
    Except ClaimBuilderOutputValidationFailureReason { text : String // isBlank text = false } :=
  match value with
  | some (.str text) => if h : isBlank text = false then .ok ⟨text, h⟩ else .error reason
  | _ => .error reason

/-- `_string`. -/
def stringValue (value : Option PyValue) (reason : ClaimBuilderOutputValidationFailureReason) :
    Except ClaimBuilderOutputValidationFailureReason String :=
  match value with
  | some (.str text) => .ok text
  | _ => .error reason

/-- `_granularity`. -/
def granularityValue (value : Option PyValue) :
    Except ClaimBuilderOutputValidationFailureReason DraftClaimGranularity :=
  match value with
  | some (.str text) =>
    if isBlank text then .error .granularityInvalid
    else match DraftClaimGranularity.ofValue? text with
      | some granularity => .ok granularity
      | none => .error .granularityInvalid
  | _ => .error .granularityInvalid

/-- `_possible_questions`. -/
def possibleQuestions (value : Option PyValue) :
    Except ClaimBuilderOutputValidationFailureReason
      (List { text : String // isBlank text = false }) :=
  match value with
  | some (.list items) =>
    items.mapM fun item => nonEmptyString (some item) .possibleQuestionEmpty
  | _ => .error .possibleQuestionsNotList

/-- `_validate_latin_tokens_against_source_unit`: every Latin token occurs in the
source. -/
def latinTokensSupported (texts : List String) (sourceUnitText : String) : Bool :=
  texts.all fun text => (latinTokens text).all fun token =>
    decide (token ∈ latinTokens sourceUnitText)

/-- `_validate_claim_item`. -/
def validateClaimItem (command : ValidateClaimBuilderOutputCommand) (claimValue : PyValue) :
    Except ClaimBuilderOutputValidationFailureReason ValidatedClaimBuilderClaim :=
  match claimValue with
  | .dict claimMapping =>
    if ¬ hasClaimFields claimMapping then .error .claimFieldSetInvalid
    else if claimMapping.any fun entry => entry.2 = .none then .error .claimFieldNull
    else do
      let claim ← nonEmptyString (Payload.get claimMapping "claim") .claimTextEmpty
      let granularity ← granularityValue (Payload.get claimMapping "granularity")
      let questions ← possibleQuestions (Payload.get claimMapping "possible_questions")
      let exclusionScope ← stringValue (Payload.get claimMapping "exclusion_scope")
        .exclusionScopeEmpty
      if latinTokensSupported (claim.val :: exclusionScope :: questions.map Subtype.val)
          command.sourceUnitText then
        return {
          claim := claim.val
          granularity := granularity
          possibleQuestions := questions.map Subtype.val
          exclusionScope := exclusionScope
          evidenceBlock := command.sourceUnitRef
          claim_ne := claim.property
          possibleQuestions_ne := by
            intro question hquestion
            obtain ⟨text, _, htext⟩ := List.mem_map.mp hquestion
            rw [← htext]
            exact text.property
          evidenceBlock_ne := command.sourceUnitRef_ne }
      else .error .latinTextNotSupportedByEvidence
  | _ => .error .claimItemNotObject

/-- No claims at all: the answer is asked for again, then from the check model,
and only then believed. -/
def emptyClaimsResult (emptyClaimsAttemptCount : Nat) : ClaimBuilderOutputValidationResult :=
  if emptyClaimsAttemptCount = 0 then retrySameRouteResult .claimsEmptyRetryRequired
  else if emptyClaimsAttemptCount = 1 then
    { decision := .retryEmptyClaimsCheckModel, claims := []
      failureReason := some .claimsEmptyRetryRequired, shape := ⟨rfl, rfl⟩ }
  else { decision := .validEmpty, claims := [], failureReason := none, shape := ⟨rfl, rfl⟩ }

/-- The claims of a list that is not empty; the first failure ends it. -/
def claimsResult (command : ValidateClaimBuilderOutputCommand) (first : PyValue)
    (others : List PyValue) : ClaimBuilderOutputValidationResult :=
  match validateClaimItem command first with
  | .error reason => retrySameRouteResult reason
  | .ok claim => match others.mapM (validateClaimItem command) with
    | .error reason => retrySameRouteResult reason
    | .ok claims =>
      { decision := .validClaims, claims := claim :: claims, failureReason := none
        shape := ⟨List.cons_ne_nil claim claims, rfl⟩ }

/-- `ClaimBuilderOutputValidationPolicy.validate`. -/
def validateOutput (command : ValidateClaimBuilderOutputCommand) :
    ClaimBuilderOutputValidationResult :=
  match command.outputPayload with
  | .dict payload => match Payload.get payload "claims" with
    | none => retrySameRouteResult .claimsMissing
    | some (.list []) => emptyClaimsResult command.emptyClaimsAttemptCount
    | some (.list (first :: others)) => claimsResult command first others
    | some _ => retrySameRouteResult .claimsNotList
  | _ => retrySameRouteResult .outputNotObject

/-! What the policy may decide. -/

/-- The decisions an output can get. -/
def ClaimBuilderOutputValidationDecision.IsReachable :
    ClaimBuilderOutputValidationDecision → Prop
  | .validClaims | .validEmpty | .retrySameRoute | .retryEmptyClaimsCheckModel => True
  | .retryFallbackModel | .retryLargerOutputLimitModel | .terminalInvalid => False

theorem emptyClaimsResult_isReachable (emptyClaimsAttemptCount : Nat) :
    (emptyClaimsResult emptyClaimsAttemptCount).decision.IsReachable := by
  unfold emptyClaimsResult
  split
  · trivial
  · split
    · trivial
    · trivial

theorem claimsResult_isReachable (command : ValidateClaimBuilderOutputCommand) (first : PyValue)
    (others : List PyValue) : (claimsResult command first others).decision.IsReachable := by
  unfold claimsResult
  split
  · trivial
  · split
    · trivial
    · trivial

/-- The policy never asks for another model because of an output, and never gives
it up. -/
theorem validateOutput_isReachable (command : ValidateClaimBuilderOutputCommand) :
    (validateOutput command).decision.IsReachable := by
  unfold validateOutput
  split
  · split
    · trivial
    · exact emptyClaimsResult_isReachable _
    · exact claimsResult_isReachable _ _ _
    · trivial
  · trivial

end CrmBot.ClaimBuilder
