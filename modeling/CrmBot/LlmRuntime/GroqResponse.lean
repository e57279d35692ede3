import CrmBot.Python.PyValue
import Mathlib.Data.List.Infix

/-! `GroqProviderResponseMapper`, and what `GroqDispatchExecutor` makes of a
response.

Of the headers only the time is kept until which the quota is used up. The body
is decoded already. -/

namespace CrmBot.LlmRuntime

open CrmBot.Python

inductive LlmErrorKind
  | requestTooLarge
  | outputTooLarge
  | minuteLimit
  | dailyLimit
  | invalidOutput
  | validationFailed
  | emptyOutput
  | networkError
  | authError
  | unknown
  deriving DecidableEq, Repr

def LlmErrorKind.value : LlmErrorKind → String
  | .requestTooLarge => "request_too_large"
  | .outputTooLarge => "output_too_large"
  | .minuteLimit => "minute_limit"
  | .dailyLimit => "daily_limit"
  | .invalidOutput => "invalid_output"
  | .validationFailed => "validation_failed"
  | .emptyOutput => "empty_output"
  | .networkError => "network_error"
  | .authError => "auth_error"
  | .unknown => "unknown"

structure TokenUsage where
  inputTokens : Nat
  outputTokens : Nat
  deriving DecidableEq, Repr

def TokenUsage.totalTokens (usage : TokenUsage) : Nat := usage.inputTokens + usage.outputTokens

inductive LlmProviderResult
  | success (rawText : String) (usage : Option TokenUsage)
  | failure (errorKind : LlmErrorKind) (waitUntil : Option Int)
  deriving DecidableEq

structure GroqProviderHttpResponse where
  statusCode : Nat
  unavailableUntil : Option Int
  body : Payload
  statusCode_ge : 100 ≤ statusCode

def GroqProviderHttpResponse.isSuccess (response : GroqProviderHttpResponse) : Bool :=
  200 ≤ response.statusCode && response.statusCode < 300

/-! `GroqProviderResponseMapper` -/

/-- `choices[0]`, where it is an object. -/
def firstChoice (body : Payload) : Option Payload :=
  match body.get "choices" with
  | some (.list (.dict choice :: _)) => some choice
  | _ => none

/-- `_extract_chat_content`: of the first choice only the text of the message. -/
def extractChatContent (body : Payload) : String :=
  match firstChoice body with
  | none => ""
  | some choice => match choice.get "message" with
    | some (.dict message) => match Payload.get message "content" with
      | some (.str content) => content
      | _ => ""
    | _ => ""

/-- `isinstance(value, int)`, which booleans pass. -/
def intValue? : Option PyValue → Option Int
  | some (.int value) => some value
  | some (.bool value) => some (if value then 1 else 0)
  | _ => none

/-- `_extract_usage`. -/
def extractUsage (body : Payload) : Option TokenUsage :=
  match body.get "usage" with
  | some (.dict usage) =>
    let amount (key other : String) : Option Int :=
      (intValue? (Payload.get usage key)).or (intValue? (Payload.get usage other))
    match amount "prompt_tokens" "input_tokens", amount "completion_tokens" "output_tokens" with
    | some input, some output =>
      if input < 0 ∨ output < 0 then none else some ⟨input.toNat, output.toNat⟩
    | _, _ => none
  | _ => none

/-- `text.lower()`, as far as the words searched below can tell. -/
def lowerText (text : String) : List Char := text.toList.map Char.toLower

/-- `word in text`. -/
def mentions (text : List Char) (word : String) : Bool := decide (word.toList <:+: text)

/-- `_error_text`. -/
def errorText (body : Payload) : List Char :=
  match body.get "error" with
  | some (.dict error) =>
    let parts := ["message", "type", "code"].filterMap fun key =>
      match Payload.get error key with
      | some (.str part) => some part
      | _ => none
    lowerText (String.intercalate " " parts)
  | some (.str error) => lowerText error
  | _ => match body.get "message" with
    | some (.str message) => lowerText message
    | _ => []

/-- `_classify_error`. -/
def classifyError (statusCode : Nat) (body : Payload) : LlmErrorKind :=
  let anyOf (words : List String) : Bool := words.any (mentions (errorText body))
  if statusCode = 401 ∨ statusCode = 403 then .authError
  else if statusCode = 429 then
    if anyOf ["daily", "per day", "rpd", "tpd"] then .dailyLimit else .minuteLimit
  else if statusCode = 413 then .requestTooLarge
  else if statusCode = 400 then
    if anyOf ["context", "too large", "maximum context"] then .requestTooLarge
    else if anyOf ["max_completion", "completion tokens", "output"] then .outputTooLarge
    else .invalidOutput
  else if 500 ≤ statusCode ∧ statusCode < 600 then .networkError
  else .unknown

/-- `map_response`. -/
def mapResponse (response : GroqProviderHttpResponse) : LlmProviderResult :=
  if response.isSuccess then
    .success (extractChatContent response.body) (extractUsage response.body)
  else .failure (classifyError response.statusCode response.body) response.unavailableUntil

/-! `GroqDispatchExecutor` -/

inductive LlmDispatchExecutionStatus
  | succeeded
  | retryableFailed
  | terminalFailed
  deriving DecidableEq, Repr

/-- `LlmDispatchExecutionResult`, without its capacity observation. -/
structure LlmDispatchExecutionResult where
  status : LlmDispatchExecutionStatus
  finishedAt : Int
  outputPayload : Option Payload
  errorKind : Option String
  outputPayload_of_succeeded : status = .succeeded → outputPayload.isSome = true
  errorKind_iff : errorKind.isSome = true ↔ status ≠ .succeeded

theorem succeeded_without_error :
    (none : Option String).isSome = true ↔ LlmDispatchExecutionStatus.succeeded ≠ .succeeded := by
  simp

/-- `_map_error_kind_to_status`. -/
def mapErrorKindToStatus (errorKind : LlmErrorKind) (waitUntil : Option Int) :
    LlmDispatchExecutionStatus :=
  if errorKind = .minuteLimit ∧ waitUntil.isSome then .retryableFailed
  else if errorKind = .authError then .terminalFailed
  else .retryableFailed

theorem mapErrorKindToStatus_ne_succeeded (errorKind : LlmErrorKind) (waitUntil : Option Int) :
    mapErrorKindToStatus errorKind waitUntil ≠ .succeeded := by
  unfold mapErrorKindToStatus
  split
  · exact nofun
  · split
    · exact nofun
    · exact nofun

/-- The part of the parsed dispatch payload that ends up in the output. -/
structure DispatchedRoute where
  provider : String
  modelRef : String
  accountRef : String
  deriving DecidableEq

def usagePayload (usage : TokenUsage) : Payload :=
  Payload.ofEntries
    [("input_tokens", .int usage.inputTokens), ("output_tokens", .int usage.outputTokens),
      ("total_tokens", .int usage.totalTokens)]

/-- `output_payload` of a successful call. -/
def groqOutputPayload (route : DispatchedRoute) (rawText : String) (usage : Option TokenUsage) :
    Payload :=
  Payload.ofEntries
    ([("raw_text", .str rawText), ("provider", .str route.provider),
      ("model_ref", .str route.modelRef), ("account_ref", .str route.accountRef)] ++
    match usage with
    | none => []
    | some usage => [("usage", .dict (usagePayload usage))])

/-- The part of `execute_dispatch` after the transport has answered. -/
def groqDispatchResult (route : DispatchedRoute) (observedAt : Int)
    (response : GroqProviderHttpResponse) : LlmDispatchExecutionResult :=
  match mapResponse response with
  | .success rawText usage =>
    { status := .succeeded, finishedAt := observedAt
      outputPayload := some (groqOutputPayload route rawText usage), errorKind := none
      outputPayload_of_succeeded := fun _ => rfl, errorKind_iff := succeeded_without_error }
  | .failure errorKind waitUntil =>
    { status := mapErrorKindToStatus errorKind waitUntil, finishedAt := observedAt
      outputPayload := none, errorKind := some errorKind.value
      outputPayload_of_succeeded := fun h =>
        absurd h (mapErrorKindToStatus_ne_succeeded errorKind waitUntil)
      errorKind_iff := by simp [mapErrorKindToStatus_ne_succeeded] }

/-- `_terminal_invalid_dispatch_payload`. -/
def terminalInvalidDispatchPayload (finishedAt : Int) : LlmDispatchExecutionResult where
  status := .terminalFailed
  finishedAt := finishedAt
  outputPayload := none
  errorKind := some "invalid_dispatch_payload"
  outputPayload_of_succeeded := by simp
  errorKind_iff := by simp

/-- `finish_reason` of the first choice, which the mapper does not read. -/
def finishReason (body : Payload) : Option PyValue :=
  (firstChoice body).bind fun choice => choice.get "finish_reason"

/-- A successful response becomes a successful result that has nothing but the
text, the route and the usage. -/
theorem groqDispatchResult_of_isSuccess (route : DispatchedRoute) (observedAt : Int)
    {response : GroqProviderHttpResponse} (h : response.isSuccess = true) :
    (groqDispatchResult route observedAt response).status = .succeeded ∧
      (groqDispatchResult route observedAt response).finishedAt = observedAt ∧
      (groqDispatchResult route observedAt response).outputPayload =
        some (groqOutputPayload route (extractChatContent response.body)
          (extractUsage response.body)) := by
  unfold groqDispatchResult mapResponse
  rw [if_pos h]
  exact ⟨rfl, rfl, rfl⟩

/-- The keys of an output. -/
theorem get_groqOutputPayload_eq_none {route : DispatchedRoute} {rawText : String}
    {usage : Option TokenUsage} {key : String}
    (hkey : key ∉ ["raw_text", "provider", "model_ref", "account_ref", "usage"]) :
    (groqOutputPayload route rawText usage).get key = none := by
  unfold groqOutputPayload
  rw [Payload.get_ofEntries, Option.map_eq_none_iff, List.find?_eq_none]
  intro entry hentry heq
  rw [decide_eq_true_eq] at heq
  have hname := List.mem_map_of_mem (f := Prod.fst) (List.mem_reverse.mp hentry)
  rw [heq] at hname
  apply hkey
  cases usage with
  | none => exact List.mem_append_left ["usage"] hname
  | some usage => exact hname

end CrmBot.LlmRuntime
