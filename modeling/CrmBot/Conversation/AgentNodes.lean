import CrmBot.Conversation.DecisionEngine

/-! The state that flows through the agent graph, the row of the thread that keeps it from one
turn to the next, and the nodes of the graph. -/

namespace CrmBot.Conversation

open CrmBot.Python

structure ToolResultPayload where
  text : Option String
  deriving DecidableEq

/-- The fields of the graph state that `_state_payload_from_runtime_state` copies. A key
that is absent and a key that holds `None` are both `none`. -/
structure StatePayload where
  responseText : Option String
  decision : Option AgentGraphDecision
  intent : Option String
  lifecycle : Option String
  leadStatus : Option String
  cta : Option String
  topic : Option String
  requiresHuman : Bool
  features : Option FeatureMap
  dialogState : Option DialogState
  technicalFailureCount : Nat
  technicalFailureStage : Option String
  technicalFailureError : Option String
  technicalIncidentCreated : Bool
  technicalTicketId : Option String
  domain : Option String
  turnRelation : Option String
  shouldSearchKb : Option Bool
  shouldGenerateAnswer : Option Bool
  shouldOfferManager : Option Bool
  toolName : Option String
  toolResult : Option ToolResultPayload

structure AgentState extends StatePayload where
  userInput : String
  chatId : Int
  messageSent : Bool

/-- What the classifier makes of a message. -/
structure IntentExtractionResult where
  intent : String
  cta : String
  features : FeatureMap
  topic : String
  domain : String
  turnRelation : String
  shouldSearchKb : Bool
  shouldGenerateAnswer : Bool
  shouldOfferManager : Bool

inductive Delivery
  | sent
  | refused
  | raised
  deriving DecidableEq

/-- The calls of a turn to the database, the queue and the ticket tool whose failure
the nodes swallow. -/
inductive TurnCall
  | updateStatus
  | escalationTicket
  | notifyManager
  | escalationMetrics
  | saveDeliveredMessage
  | savePendingMessage
  | incidentTicket
  | incidentNotice
  | saveStateJson
  | appendEvent (eventType : String)
  | updateAnalytics
  deriving DecidableEq

/-- A message of the client, and what the services answer while it is processed. A
failing call is given by the class of its exception. -/
structure TurnInput where
  userInput : String
  chatId : Int
  hasMemory : Bool
  classification : Except String IntentExtractionResult
  toolRun : Except String ToolResultPayload
  generation : Except String String
  delivery : Delivery
  incidentTicketId : String
  raises : TurnCall → Bool

structure ThreadAnalytics where
  intent : Option String
  lifecycle : Option String
  cta : Option String
  decision : Option AgentGraphDecision

/-- The columns of a thread that the runtime reads and writes. -/
structure ThreadRecord where
  stateJson : Option StatePayload
  analytics : ThreadAnalytics

/-- `build_agent_state`. -/
def buildAgentState (input : TurnInput) : AgentState where
  responseText := none
  decision := none
  intent := none
  lifecycle := none
  leadStatus := none
  cta := none
  topic := none
  requiresHuman := false
  features := none
  dialogState := none
  technicalFailureCount := 0
  technicalFailureStage := none
  technicalFailureError := none
  technicalIncidentCreated := false
  technicalTicketId := none
  domain := none
  turnRelation := none
  shouldSearchKb := none
  shouldGenerateAnswer := none
  shouldOfferManager := none
  toolName := none
  toolResult := none
  userInput := input.userInput
  chatId := input.chatId
  messageSent := false

/-- `load_state_node` after its reads: the saved state replaces what the columns say. -/
def loadStateNode (record : ThreadRecord) (input : TurnInput) (state : AgentState) : AgentState :=
  match record.stateJson with
  | some saved => { state with toStatePayload := saved }
  | none =>
    { state with
      intent := record.analytics.intent
      lifecycle := record.analytics.lifecycle
      cta := record.analytics.cta
      decision := record.analytics.decision
      dialogState :=
        if input.hasMemory then
          some (dialogStateFromMemory (orElse record.analytics.lifecycle "cold"))
        else state.dialogState }

/-! Rules. -/

def angerKeywords : List String :=
  ["жрёт", "жрет", "тупит", "бесит", "развод", "мошенник", "недоволен", "верните деньги", "refund",
    "chargeback", "жалоба", "подавление", "невероятно дорого", "сжигаю контракт",
    "удалить аккаунт"]

def handoffRequestKeywords : List String :=
  ["позвать менеджера", "позови менеджера", "позовите менеджера", "менеджера", "оператора",
    "живого человека", "человека", "с менеджером", "с оператором", "call manager", "human",
    "operator", "manager"]

def detectHandoffRequest (methods : StrMethods) (text : String) : Bool :=
  handoffRequestKeywords.any fun keyword => contains keyword (methods.lower text)

/-- `_detect_anger`: more than half of the letters are capitals, or a keyword occurs. -/
def detectAnger (methods : StrMethods) (text : String) : Bool :=
  if angerKeywords.any fun keyword => contains keyword (methods.lower text) then true
  else
    let letters := text.toList.filter methods.isalpha
    letters.length < 2 * (letters.filter methods.isupper).length

def rulesNode (methods : StrMethods) (state : AgentState) : AgentState :=
  if state.userInput = "" then { state with decision := some .proceedToLlm }
  else
    let dialogState := mergeDialogState state.dialogState "cold"
    if detectHandoffRequest methods state.userInput then
      { state with
        decision := some .escalate
        dialogState := some (clearHandoffConfirmation dialogState) }
    else if isHandoffConfirmationPending dialogState then
      let cleared := clearHandoffConfirmation dialogState
      match resolveHandoffConfirmationReply methods state.userInput with
      | some .confirm => { state with decision := some .escalate, dialogState := some cleared }
      | some .decline =>
        { state with
          decision := some .respond
          responseText := some buildHandoffDetailsRequestedText
          requiresHuman := false
          dialogState := some cleared }
      | none => { state with decision := some .proceedToLlm, dialogState := some cleared }
    else if detectAnger methods state.userInput then
      { state with
        decision := some .respond
        requiresHuman := false
        responseText := some (buildHandoffConfirmationText state.userInput)
        dialogState := some (withHandoffConfirmationPending dialogState) }
    else { state with decision := some .proceedToLlm }

/-! The classifier. -/

def technicalClassificationFirstText : String :=
  "Не получилось обработать запрос из-за технической ошибки. " ++
    "Можете повторить запрос, а если вопрос срочный — я передам диалог менеджеру."

def technicalClassificationRepeatText : String :=
  "Техническая ошибка повторилась. Я уже передал технический инцидент владельцу проекта. " ++
    "Можете позвать менеджера, чтобы не ждать восстановления ассистента."

/-- `_technical_failure_patch` of the classifier. -/
def classificationFailure (state : AgentState) (error : String) : AgentState :=
  let count := state.technicalFailureCount + 1
  { state with
    decision := some .respond
    responseText :=
      some (if 2 ≤ count then technicalClassificationRepeatText
        else technicalClassificationFirstText)
    requiresHuman := false
    domain := some "technical_failure"
    turnRelation := some "unknown"
    shouldSearchKb := some false
    shouldGenerateAnswer := some false
    shouldOfferManager := some true
    technicalFailureCount := count
    technicalFailureStage := some "intent_extractor"
    technicalFailureError := some error }

def intentExtractorNode (input : TurnInput) (state : AgentState) : AgentState :=
  if state.userInput = "" then state
  else match input.classification with
    | .ok result =>
      { state with
        intent := some result.intent
        cta := some result.cta
        features := some result.features
        topic := some result.topic
        domain := some result.domain
        turnRelation := some result.turnRelation
        shouldSearchKb := some result.shouldSearchKb
        shouldGenerateAnswer := some result.shouldGenerateAnswer
        shouldOfferManager := some result.shouldOfferManager }
    | .error error => classificationFailure state error

/-! The policy. -/

structure PolicyDecisionContext where
  lifecycle : String
  intent : Option String
  userInput : String
  features : Option FeatureMap
  dialogState : DialogState

def PolicyDecisionContext.fromState (state : AgentState) : PolicyDecisionContext where
  lifecycle := orElse state.lifecycle "cold"
  intent := state.intent
  userInput := state.userInput
  features := state.features
  dialogState :=
    match state.dialogState with
    | some dialogState => mergeDialogState (some dialogState) "cold"
    | none => dialogStateFromMemory "cold"

structure PolicyDecisionResult where
  lifecycle : String
  decision : AgentGraphDecision
  cta : Cta
  topic : String
  leadStatus : String
  dialogState : DialogState
  responseText : Option String

/-- `to_state_patch` of a result that does not require a human, applied. -/
def PolicyDecisionResult.patch (result : PolicyDecisionResult) (previousLifecycle : String)
    (state : AgentState) : AgentState :=
  { state with
    decision := some result.decision
    cta := some result.cta.value
    topic := some result.topic
    leadStatus := some result.leadStatus
    dialogState := some result.dialogState
    lifecycle :=
      if result.lifecycle ≠ previousLifecycle then some result.lifecycle else state.lifecycle
    responseText :=
      match result.responseText with
      | some text => some text
      | none => state.responseText }

/-- `_template_policy_result`. -/
def templatePolicyResult (methods : StrMethods) (context : PolicyDecisionContext)
    (domain : String) : PolicyDecisionResult :=
  let topic :=
    if domain = "ambiguous" then orElse context.dialogState.lastTopic "other" else "other"
  let next := mergeDialogState (some (buildDialogStateUpdate methods context.dialogState
    ⟨"other", topic, .none, context.lifecycle, .respondTemplate⟩)) context.lifecycle
  { lifecycle := context.lifecycle
    decision := .respondTemplate
    cta := .none
    topic := topic
    leadStatus := orElse (some next.leadStatus) context.lifecycle
    dialogState := next
    responseText := none }

/-- `_handoff_confirmation_result`. -/
def handoffConfirmationResult (methods : StrMethods) (context : PolicyDecisionContext)
    (intent : Intent) (topic : Topic) (cta : Cta) : PolicyDecisionResult :=
  let next := withHandoffConfirmationPending (mergeDialogState
    (some (buildDialogStateUpdate methods context.dialogState
      ⟨intent.value, topic.value, cta, context.lifecycle, .respond⟩)) context.lifecycle)
  { lifecycle := context.lifecycle
    decision := .respond
    cta := cta
    topic := topic.value
    leadStatus := orElse (some next.leadStatus) context.lifecycle
    dialogState := next
    responseText := some (buildHandoffConfirmationText context.userInput) }

/-- The result of a decision that is followed. -/
def followedDecisionResult (methods : StrMethods) (context : PolicyDecisionContext)
    (intent : Intent) (topic : Topic) (decided : PolicyDecision) : PolicyDecisionResult :=
  let next := mergeDialogState (some (buildDialogStateUpdate methods context.dialogState
    ⟨intent.value, topic.value, decided.cta, decided.lifecycle.value, decided.decision⟩)) "cold"
  { lifecycle := decided.lifecycle.value
    decision := decided.decision
    cta := decided.cta
    topic := topic.value
    leadStatus := next.leadStatus
    dialogState := next
    responseText := none }

/-- The result for a message that is neither a technical failure nor answered by a template. -/
def decidedPolicyResult (methods : StrMethods) (context : PolicyDecisionContext) :
    PolicyDecisionResult :=
  let intent := normalizeIntent methods context.intent
  let topic := resolveTopic methods (some intent.value) context.features
  let decided := getDecision methods (some context.lifecycle) (some intent.value) context.features
    context.dialogState
  if decided.decision = .escalateToHuman ∧
      isHandoffConfirmationPending context.dialogState = false then
    handoffConfirmationResult methods context intent topic decided.cta
  else followedDecisionResult methods context intent topic decided

/-- `bool(text)`. -/
def isFilled (text : Option String) : Bool := text.any fun text => text ≠ ""

def templateDomains : List String := ["greeting", "out_of_domain", "ambiguous"]

/-- `str(value or fallback).strip().lower()`. -/
def signalOf (methods : StrMethods) (value : Option String) (fallback : String) : String :=
  methods.lower (strip (orElse value fallback))

def policyEngineNode (methods : StrMethods) (state : AgentState) : AgentState :=
  let context := PolicyDecisionContext.fromState state
  let domain := signalOf methods state.domain "business"
  if state.decision = some .respond ∧ isFilled state.responseText = true then
    { state with
      requiresHuman := false
      shouldSearchKb := some false
      shouldGenerateAnswer := some false
      shouldOfferManager := some (state.shouldOfferManager.getD false) }
  else if domain ∈ templateDomains ∨ state.shouldGenerateAnswer.getD true = false then
    { (templatePolicyResult methods context domain).patch context.lifecycle state with
      domain := some domain
      turnRelation := some (signalOf methods state.turnRelation "unknown")
      shouldSearchKb := some false
      shouldGenerateAnswer := some false
      requiresHuman := false }
  else (decidedPolicyResult methods context).patch context.lifecycle state

/-! Answers. -/

def greetingText : String :=
  "Здравствуйте. Я могу помочь с вопросами о сервисе, стоимости, возможностях, " ++
    "интеграциях, подключении и передаче диалога менеджеру. Напишите, что хотите уточнить."

def outOfDomainText : String :=
  "Я помогаю с вопросами по сервису, автоматизации клиентских ответов, интеграциям, " ++
    "стоимости, подключению и передаче диалога менеджеру. Переформулируйте вопрос по этим темам " ++
    "или напишите «позвать менеджера»."

def ambiguousText : String :=
  "Не до конца понял, к какому вопросу это относится. Напишите вопрос подробнее " ++
    "или скажите «позвать менеджера»."

def genericText : String :=
  "Напишите вопрос по сервису, стоимости, интеграциям или подключению. " ++
    "Также можно попросить позвать менеджера."

/-- The text of `_template_text` when the state has none yet. -/
def domainText (domain turnRelation : String) : String :=
  if domain = "technical_failure" then genericText
  else if domain = "greeting" then greetingText
  else if domain = "out_of_domain" then outOfDomainText
  else if domain = "ambiguous" ∨ turnRelation = "short_reply" then ambiguousText
  else genericText

def templateText (methods : StrMethods) (state : AgentState) : String :=
  orElse state.responseText
    (domainText (signalOf methods state.domain "") (signalOf methods state.turnRelation ""))

def templateResponseNode (methods : StrMethods) (state : AgentState) : AgentState :=
  { state with
    decision := some .respond
    responseText := some (templateText methods state)
    requiresHuman := false
    shouldSearchKb := some false
    shouldGenerateAnswer := some false }

def technicalFailureFirstText : String :=
  "Не получилось сгенерировать ответ из-за технической ошибки. " ++
    "Можете повторить запрос, а если вопрос срочный — я передам диалог менеджеру."

def technicalFailureRepeatText : String :=
  "Похоже, техническая ошибка повторилась. Я уже передал технический инцидент " ++
    "владельцу проекта. Можете позвать менеджера, чтобы не ждать восстановления ассистента."

/-- `_technical_failure_patch` of the generator. -/
def generationFailure (state : AgentState) (error : String) : AgentState :=
  let count := state.technicalFailureCount + 1
  { state with
    responseText :=
      some (if 2 ≤ count then technicalFailureRepeatText else technicalFailureFirstText)
    technicalFailureCount := count
    technicalFailureStage := some "response_generator"
    technicalFailureError := some error
    requiresHuman := false }

/-- `response_generator_node`. The generated text has passed the language check. -/
def responseGeneratorNode (input : TurnInput) (state : AgentState) : AgentState :=
  if state.decision.getD .llmGenerate ∉
      ([.llmGenerate, .respondKb, .respondTemplate] : List AgentGraphDecision) then state
  else match input.generation with
    | .ok text => { state with responseText := some text }
    | .error error => generationFailure state error

def missingToolText : String :=
  "The requested action could not be executed because no tool was selected. " ++
    "The conversation has been handed off to a manager."

def toolFailedText : String :=
  "An error occurred while executing the requested action. " ++
    "The conversation has been handed off to a manager."

def toolExecutorNode (input : TurnInput) (state : AgentState) : AgentState :=
  if isFilled state.toolName = false then
    { state with toolResult := none, requiresHuman := true, responseText := some missingToolText }
  else match input.toolRun with
    | .ok result => { state with toolResult := some result, requiresHuman := false }
    | .error _ =>
      { state with toolResult := none, requiresHuman := true, responseText := some toolFailedText }

def escalationText : String :=
  "Передал обращение менеджеру. Он ответит здесь, как только подключится."

def escalateNode (state : AgentState) : AgentState :=
  { state with requiresHuman := true, responseText := some escalationText, toolResult := none }

/-! Delivery. -/

def missingChatIdText : String :=
  "Failed to deliver the response because the chat identifier is missing. " ++
    "Please contact support."

def sendFailedText : String :=
  "The response could not be delivered right now. Please try again later or contact a manager."

def sendExceptionText : String :=
  "A technical error occurred while delivering the response. We are already looking into it."

def resolveResponseText (state : AgentState) : String :=
  match state.toolResult.bind ToolResultPayload.text with
  | some text =>
    if text = "" then orElse state.responseText "Sorry, I could not prepare a response." else text
  | none => orElse state.responseText "Sorry, I could not prepare a response."

def undelivered (text : String) (state : AgentState) : AgentState :=
  { state with messageSent := false, responseText := some text, requiresHuman := true }

def responderNode (input : TurnInput) (state : AgentState) : AgentState :=
  if state.chatId = 0 then undelivered missingChatIdText state
  else match input.delivery with
    | .sent => { state with messageSent := true, responseText := none }
    | .refused => undelivered sendFailedText state
    | .raised => undelivered sendExceptionText state

/-! Persistence. -/

/-- `should_create_technical_incident`. -/
def shouldCreateTechnicalIncident (state : AgentState) : Bool :=
  2 ≤ state.technicalFailureCount && !state.technicalIncidentCreated

def createsTechnicalIncident (input : TurnInput) (state : AgentState) : Bool :=
  shouldCreateTechnicalIncident state && !input.raises .incidentTicket

/-- The payload that `persist_node` saves. -/
def persistedPayload (input : TurnInput) (state : AgentState) : StatePayload :=
  if createsTechnicalIncident input state then
    { state.toStatePayload with
      technicalIncidentCreated := true
      technicalTicketId :=
        if input.incidentTicketId = "" then state.technicalTicketId
        else some input.incidentTicketId }
  else state.toStatePayload

/-- `update_analytics`. -/
def ThreadAnalytics.update (analytics : ThreadAnalytics) (state : AgentState) :
    ThreadAnalytics where
  intent := state.intent <|> analytics.intent
  lifecycle := state.lifecycle <|> analytics.lifecycle
  cta := state.cta <|> analytics.cta
  decision := state.decision <|> analytics.decision

/-- The row of the thread after `persist_node`. -/
def persistRecord (record : ThreadRecord) (input : TurnInput) (state : AgentState) :
    ThreadRecord where
  stateJson :=
    if input.raises .saveStateJson then record.stateJson else some (persistedPayload input state)
  analytics :=
    if input.raises .updateAnalytics then record.analytics else record.analytics.update state

end CrmBot.Conversation
