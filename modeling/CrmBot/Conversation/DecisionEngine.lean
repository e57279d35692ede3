import CrmBot.Conversation.DialogState
import CrmBot.Python.Numerals

/-! What the policy decides about a message, and what it remembers of it. -/

namespace CrmBot.Conversation

open CrmBot.Python

inductive AgentGraphDecision
  | respond
  | escalate
  | proceedToLlm
  | llmGenerate
  | respondKb
  | respondTemplate
  | callTool
  | escalateToHuman
  deriving DecidableEq

/-! Lifecycles, topics, intents and calls to action. -/

inductive Lifecycle
  | cold
  | interested
  | warm
  | handoffToManager
  | activeClient
  | angry
  deriving DecidableEq

inductive Topic
  | pricing
  | product
  | integration
  | support
  | feedback
  | other
  | handoff
  | angry
  deriving DecidableEq

inductive Intent
  | askPrice
  | askFeatures
  | askIntegration
  | pricing
  | sales
  | support
  | feedback
  | other
  | angry
  | handoffRequest
  deriving DecidableEq

inductive Cta
  | none
  | bookConsultation
  | callManager
  deriving DecidableEq

def Lifecycle.value : Lifecycle → String
  | .cold => "cold"
  | .interested => "interested"
  | .warm => "warm"
  | .handoffToManager => "handoff_to_manager"
  | .activeClient => "active_client"
  | .angry => "angry"

def Topic.value : Topic → String
  | .pricing => "pricing"
  | .product => "product"
  | .integration => "integration"
  | .support => "support"
  | .feedback => "feedback"
  | .other => "other"
  | .handoff => "handoff"
  | .angry => "angry"

def Intent.value : Intent → String
  | .askPrice => "ask_price"
  | .askFeatures => "ask_features"
  | .askIntegration => "ask_integration"
  | .pricing => "pricing"
  | .sales => "sales"
  | .support => "support"
  | .feedback => "feedback"
  | .other => "other"
  | .angry => "angry"
  | .handoffRequest => "handoff_request"

def Cta.value : Cta → String
  | .none => "none"
  | .bookConsultation => "book_consultation"
  | .callManager => "call_manager"

def validLifecycles : List Lifecycle :=
  [.cold, .interested, .warm, .handoffToManager, .activeClient, .angry]

def validTopics : List Topic :=
  [.pricing, .product, .integration, .support, .feedback, .other, .handoff, .angry]

/-- `INTENT_TO_TOPIC`. -/
def intentToTopic : List (Intent × Topic) :=
  [(.askPrice, .pricing), (.askFeatures, .product), (.askIntegration, .integration),
    (.pricing, .pricing), (.sales, .product), (.support, .support), (.feedback, .feedback),
    (.other, .other), (.angry, .angry), (.handoffRequest, .handoff)]

def Intent.topic (intent : Intent) : Topic := ((intentToTopic.lookup intent)).getD .other

/-- A value of the features of a message. Booleans are numbers. -/
inductive FeatureValue
  | number (value : ℚ)
  | text (value : String)
  | nested (values : List ℚ)
  | unread

abbrev FeatureMap := List (String × FeatureValue)

def riskFeatureKeys : List String :=
  ["frustration", "anger", "handoff", "complaint", "chargeback", "refund"]

/-- The double `0.8`. -/
def riskThreshold : ℚ := 3602879701896397 / 4503599627370496

def FeatureValue.isRisk : FeatureValue → Bool
  | .number value => riskThreshold ≤ value
  | .nested values => values.any fun value => riskThreshold ≤ value
  | .text _ | .unread => false

def featureRiskDetected (features : Option FeatureMap) : Bool :=
  match features with
  | none => false
  | some features => features.any fun entry => entry.1 ∈ riskFeatureKeys && entry.2.isRisk

section Normalizing

variable (methods : StrMethods)

/-- `(value or "").strip().lower()`. -/
def normalizedValue (value : Option String) : String := methods.lower (strip (value.getD ""))

def normalizeLifecycle (lifecycle : Option String) : Lifecycle :=
  let value := normalizedValue methods lifecycle
  if value = "hot" then .warm
  else (validLifecycles.find? fun known => known.value = value).getD .cold

def normalizeIntent (intent : Option String) : Intent :=
  let value := normalizedValue methods intent
  match intentToTopic.find? fun known => known.1.value = value with
  | some known => known.1
  | none =>
    if value ∈ ["price", "cost", "pricing_question"] then .askPrice
    else if value ∈ ["features", "product", "what_you_do"] then .askFeatures
    else if value ∈ ["integration", "crm", "webhook"] then .askIntegration
    else .other

/-- The topic that the features name, as such or by an intent. -/
def featureTopic (features : Option FeatureMap) : Option Topic :=
  match features.bind fun features => features.lookup "topic" with
  | some (.text topic) =>
    let value := methods.lower (strip topic)
    match validTopics.find? fun known => known.value = value with
    | some known => some known
    | none => (intentToTopic.find? fun known => known.1.value = value).map Prod.snd
  | _ => none

def resolveTopic (intent : Option String) (features : Option FeatureMap) : Topic :=
  (featureTopic methods features).getD (normalizeIntent methods intent).topic

end Normalizing

/-! Transitions. -/

structure PolicyDecision where
  lifecycle : Lifecycle
  decision : AgentGraphDecision
  cta : Cta
  deriving DecidableEq

/-- `TRANSITIONS`. -/
def transitions : Lifecycle → Topic → Option PolicyDecision
  | .cold, .pricing | .cold, .product | .cold, .integration =>
    some ⟨.interested, .llmGenerate, .bookConsultation⟩
  | .cold, .support | .cold, .feedback | .cold, .other => some ⟨.cold, .llmGenerate, .none⟩
  | .interested, .pricing | .interested, .product | .interested, .integration =>
    some ⟨.warm, .llmGenerate, .bookConsultation⟩
  | .interested, .support | .interested, .feedback | .interested, .other =>
    some ⟨.interested, .llmGenerate, .none⟩
  | .warm, .pricing | .warm, .product | .warm, .integration =>
    some ⟨.warm, .llmGenerate, .callManager⟩
  | .warm, .support => some ⟨.warm, .escalateToHuman, .callManager⟩
  | .warm, .feedback | .warm, .other => some ⟨.warm, .llmGenerate, .none⟩
  | _, .handoff | _, .angry => none
  | .activeClient, _ => some ⟨.activeClient, .llmGenerate, .none⟩
  | .handoffToManager, _ => some ⟨.handoffToManager, .escalateToHuman, .callManager⟩
  | .angry, _ => some ⟨.angry, .escalateToHuman, .callManager⟩

def lookupTransition (lifecycle : Lifecycle) (topic : Topic) : PolicyDecision :=
  (transitions lifecycle topic).getD
    ((transitions lifecycle .other).getD ⟨.cold, .llmGenerate, .none⟩)

/-! Repeats. -/

def repeatSoftThreshold : Int := 2

def repeatEscalationThreshold : Int := 3

/-- `HIGH_INTENT_TOPICS`. -/
def Topic.isHighIntent : Topic → Bool
  | .pricing | .product | .integration => true
  | _ => false

/-- `_normalized_previous_value`. -/
def normalizedPreviousValue (methods : StrMethods) (value : Option String) : String :=
  normalizedValue methods value

/-- `calculate_repeat_count` for an intent that is not empty. -/
def calculateRepeatCount (methods : StrMethods) (previous : DialogState) (intent topic : String) :
    Int :=
  if intent = normalizedPreviousValue methods previous.lastIntent ∨
      topic = normalizedPreviousValue methods previous.lastTopic then
    previous.repeatCount + 1
  else 1

def initialLeadStatus (methods : StrMethods) (leadStatus lifecycle : String) : String :=
  let value := methods.lower (strip (orElse (some leadStatus) (orElse (some lifecycle) "cold")))
  if value = "hot" then "warm" else value

def isHandoffRequired (lifecycle : String) (decision : AgentGraphDecision) : Bool :=
  lifecycle ∈ ["handoff_to_manager", "angry"] || decision = .escalateToHuman

def advanceConsultationStatus (leadStatus : String) : String :=
  if leadStatus = "cold" then "interested"
  else if leadStatus = "interested" then "warm"
  else leadStatus

def advanceHighIntentTopicStatus (leadStatus : String) (repeatCount : Int) : String :=
  if repeatEscalationThreshold ≤ repeatCount then "handoff_to_manager"
  else if repeatSoftThreshold ≤ repeatCount ∧ leadStatus ∈ ["cold", "interested"] then "warm"
  else if leadStatus = "cold" then "interested"
  else leadStatus

/-- What a message is taken for: the values that the dialog state remembers. -/
structure TurnSignals where
  intent : String
  topic : String
  cta : Cta
  lifecycle : String
  decision : AgentGraphDecision

def nextLeadStatus (methods : StrMethods) (leadStatus : String) (signals : TurnSignals)
    (repeatCount : Int) : String :=
  let initial := initialLeadStatus methods leadStatus signals.lifecycle
  if isHandoffRequired signals.lifecycle signals.decision then "handoff_to_manager"
  else if signals.lifecycle = "active_client" then "active_client"
  else if signals.cta = .bookConsultation then advanceConsultationStatus initial
  else if signals.topic ∈ ["pricing", "product", "integration"] then
    advanceHighIntentTopicStatus initial repeatCount
  else initial

/-- `build_dialog_state_update` for an intent and a topic that are not empty. -/
def buildDialogStateUpdate (methods : StrMethods) (previous : DialogState)
    (signals : TurnSignals) : DialogState :=
  let repeatCount := calculateRepeatCount methods previous signals.intent signals.topic
  { lastIntent := some signals.intent
    lastCta := if signals.cta = .none then previous.lastCta else some signals.cta.value
    lastTopic := some signals.topic
    repeatCount := repeatCount
    leadStatus := nextLeadStatus methods previous.leadStatus signals repeatCount
    lifecycle := signals.lifecycle
    handoffConfirmationPending := previous.handoffConfirmationPending }

/-! The decision. -/

def humanHandoffDecision (lifecycle : Lifecycle) : PolicyDecision :=
  ⟨lifecycle, .escalateToHuman, .callManager⟩

/-- `HANDOFF_LIFECYCLES`. -/
def Lifecycle.isHandoff : Lifecycle → Bool
  | .handoffToManager | .angry => true
  | _ => false

def isHandoffSignal (intent : Intent) (topic : Topic) : Bool :=
  intent = .angry || intent = .handoffRequest || topic = .angry || topic = .handoff

def handoffLifecycleForSignal (intent : Intent) (topic : Topic) : Lifecycle :=
  if intent = .angry ∨ topic = .angry then .angry else .handoffToManager

def isRepeatEscalation (topic : Topic) (repeatCount : Int) : Bool :=
  topic.isHighIntent && repeatEscalationThreshold ≤ repeatCount

def requiresHumanHandoff (lifecycle : Lifecycle) (intent : Intent) (topic : Topic)
    (repeatCount : Int) (features : Option FeatureMap) : Option PolicyDecision :=
  if lifecycle.isHandoff then some (humanHandoffDecision lifecycle)
  else if isHandoffSignal intent topic then
    some (humanHandoffDecision (handoffLifecycleForSignal intent topic))
  else if featureRiskDetected features then some (humanHandoffDecision .handoffToManager)
  else if isRepeatEscalation topic repeatCount then some (humanHandoffDecision .handoffToManager)
  else none

def applySoftRepeatProgression (lifecycle : Lifecycle) (topic : Topic) (repeatCount : Int)
    (decision : PolicyDecision) : PolicyDecision :=
  if topic.isHighIntent = false then decision
  else if repeatCount < repeatSoftThreshold then decision
  else match lifecycle with
    | .cold => ⟨.interested, decision.decision, .bookConsultation⟩
    | .interested => ⟨.warm, decision.decision, .bookConsultation⟩
    | .warm => ⟨decision.lifecycle, decision.decision, .callManager⟩
    | _ => decision

def activeClientDecision (lifecycle : Lifecycle) (decision : PolicyDecision) : PolicyDecision :=
  if lifecycle ≠ .activeClient then decision else ⟨.activeClient, .llmGenerate, .none⟩

/-- `LLM_TOPICS`. -/
def Topic.isLlm : Topic → Bool
  | .support | .feedback | .other => true
  | _ => false

def llmTopicDecision (topic : Topic) (decision : PolicyDecision) : PolicyDecision :=
  if topic.isLlm = false then decision
  else if decision.decision = .escalateToHuman then decision
  else if decision.cta = .bookConsultation ∨ decision.cta = .callManager then
    { decision with decision := .llmGenerate }
  else { decision with decision := .llmGenerate, cta := .none }

def getDecision (methods : StrMethods) (lifecycle intent : Option String)
    (features : Option FeatureMap) (dialogState : DialogState) : PolicyDecision :=
  let normalizedLifecycle := normalizeLifecycle methods lifecycle
  let normalizedIntent := normalizeIntent methods intent
  let topic := resolveTopic methods (some normalizedIntent.value) features
  let repeatCount := calculateRepeatCount methods dialogState normalizedIntent.value topic.value
  match requiresHumanHandoff normalizedLifecycle normalizedIntent topic repeatCount features with
  | some handoff => handoff
  | none =>
    llmTopicDecision topic (activeClientDecision normalizedLifecycle
      (applySoftRepeatProgression normalizedLifecycle topic repeatCount
        (lookupTransition normalizedLifecycle topic)))

end CrmBot.Conversation
