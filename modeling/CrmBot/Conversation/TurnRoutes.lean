import CrmBot.Conversation.AgentGraph

/-! The ways of a turn through the graph.

The rules and the policy choose the way. Each way ends with one delivery and one
save, and none meets a decision for which the graph has no edge. -/

namespace CrmBot.Conversation

/-- The way of a turn from the rules to the responder. -/
inductive TurnRoute
  | rulesAnswer
  | handoffRequest
  | policyAnswer
  | template
  | generation
  | policyHandoff
  deriving DecidableEq

def TurnRoute.nodes : TurnRoute → List AgentGraphNode
  | .rulesAnswer => []
  | .handoffRequest => [.escalate]
  | .policyAnswer => [.intentExtractor, .policyEngine]
  | .template => [.intentExtractor, .policyEngine, .templateResponse]
  | .generation => [.intentExtractor, .policyEngine, .commercialContextLookup, .kbSearch,
      .responseGenerator]
  | .policyHandoff => [.intentExtractor, .policyEngine, .escalate]

section Turn

variable (methods : StrMethods) (record : ThreadRecord) (input : TurnInput)

/-- The state that the rules read. -/
def loadedState : AgentState := loadStateNode record input (buildAgentState input)

def ruledState : AgentState := rulesNode methods (loadedState record input)

def classifiedState : AgentState := intentExtractorNode input (ruledState methods record input)

def decidedState : AgentState := policyEngineNode methods (classifiedState methods record input)

def turnRoute : TurnRoute :=
  match (ruledState methods record input).decision with
  | some .respond => .rulesAnswer
  | some .escalate => .handoffRequest
  | _ =>
    match (decidedState methods record input).decision with
    | some .respond => .policyAnswer
    | some .respondTemplate => .template
    | some .llmGenerate => .generation
    | _ => .policyHandoff

/-- The state that a way brings to the responder. -/
def routeAnswer : TurnRoute → AgentState
  | .rulesAnswer => ruledState methods record input
  | .handoffRequest => escalateNode (ruledState methods record input)
  | .policyAnswer => decidedState methods record input
  | .template => templateResponseNode methods (decidedState methods record input)
  | .generation => responseGeneratorNode input (decidedState methods record input)
  | .policyHandoff => escalateNode (decidedState methods record input)

/-- The state that the responder reads. -/
def answeredState : AgentState :=
  routeAnswer methods record input (turnRoute methods record input)

/-- The state that is saved. -/
def finalState : AgentState := responderNode input (answeredState methods record input)

/-- What a turn does before its delivery. -/
def routeEffects : List TurnEffect :=
  match turnRoute methods record input with
  | .rulesAnswer => []
  | .handoffRequest => escalateEffects input
  | .policyAnswer | .template | .generation =>
    policyEffects methods input (classifiedState methods record input)
  | .policyHandoff =>
    policyEffects methods input (classifiedState methods record input) ++ escalateEffects input

/-- The run of the turn, written out. -/
def turnRun : GraphRun where
  state := finalState methods record input
  visited :=
    [.loadState, .rulesCheck] ++ (turnRoute methods record input).nodes ++ [.responder, .persist]
  effects := routeEffects methods record input ++
    responderEffects input (answeredState methods record input) ++
    persistEffects input (finalState methods record input)

end Turn

variable {methods : StrMethods} {record : ThreadRecord} {input : TurnInput}

/-! Decisions. -/

theorem rulesNode_decision (methods : StrMethods) (state : AgentState) :
    (rulesNode methods state).decision = some .respond ∨
      (rulesNode methods state).decision = some .escalate ∨
      (rulesNode methods state).decision = some .proceedToLlm := by
  unfold rulesNode
  dsimp only
  split_ifs
  · exact .inr (.inr rfl)
  · exact .inr (.inl rfl)
  · split
    · exact .inr (.inl rfl)
    · exact .inl rfl
    · exact .inr (.inr rfl)
  · exact .inl rfl
  · exact .inr (.inr rfl)

theorem lookupTransition_decision (lifecycle : Lifecycle) (topic : Topic) :
    (lookupTransition lifecycle topic).decision = .llmGenerate ∨
      (lookupTransition lifecycle topic).decision = .escalateToHuman := by
  cases lifecycle <;> cases topic <;> decide

theorem applySoftRepeatProgression_decision (lifecycle : Lifecycle) (topic : Topic)
    (repeatCount : Int) (decided : PolicyDecision) :
    (applySoftRepeatProgression lifecycle topic repeatCount decided).decision =
      decided.decision := by
  unfold applySoftRepeatProgression
  split_ifs
  · rfl
  · rfl
  · cases lifecycle <;> rfl

theorem activeClientDecision_decision (lifecycle : Lifecycle) (decided : PolicyDecision) :
    (activeClientDecision lifecycle decided).decision = decided.decision ∨
      (activeClientDecision lifecycle decided).decision = .llmGenerate := by
  unfold activeClientDecision
  split_ifs
  · exact .inl rfl
  · exact .inr rfl

theorem llmTopicDecision_decision (topic : Topic) (decided : PolicyDecision) :
    (llmTopicDecision topic decided).decision = decided.decision ∨
      (llmTopicDecision topic decided).decision = .llmGenerate := by
  unfold llmTopicDecision
  split_ifs
  · exact .inl rfl
  · exact .inl rfl
  · exact .inr rfl
  · exact .inr rfl

theorem requiresHumanHandoff_decision {lifecycle : Lifecycle} {intent : Intent} {topic : Topic}
    {repeatCount : Int} {features : Option FeatureMap} {handoff : PolicyDecision}
    (h : requiresHumanHandoff lifecycle intent topic repeatCount features = some handoff) :
    ∃ stage, handoff = humanHandoffDecision stage := by
  unfold requiresHumanHandoff at h
  split_ifs at h <;> exact ⟨_, (Option.some.inj h).symm⟩

/-- The policy answers or hands off, and does nothing else. -/
theorem getDecision_decision (methods : StrMethods) (lifecycle intent : Option String)
    (features : Option FeatureMap) (dialogState : DialogState) :
    (getDecision methods lifecycle intent features dialogState).decision = .llmGenerate ∨
      (getDecision methods lifecycle intent features dialogState).decision = .escalateToHuman := by
  unfold getDecision
  dsimp only
  split
  · next handoff hhandoff =>
    obtain ⟨stage, rfl⟩ := requiresHumanHandoff_decision hhandoff
    exact .inr rfl
  · generalize normalizeLifecycle methods lifecycle = stage
    generalize resolveTopic _ _ _ = topic
    generalize calculateRepeatCount _ _ _ _ = repeatCount
    have hlookup := lookupTransition_decision stage topic
    rw [← applySoftRepeatProgression_decision stage topic repeatCount] at hlookup
    generalize applySoftRepeatProgression _ _ _ _ = decided at hlookup ⊢
    rcases llmTopicDecision_decision topic (activeClientDecision stage decided) with h | h
    · rw [h]
      rcases activeClientDecision_decision stage decided with h | h
      · rw [h]
        exact hlookup
      · exact .inl h
    · exact .inl h

theorem decidedPolicyResult_decision (methods : StrMethods) (context : PolicyDecisionContext) :
    (decidedPolicyResult methods context).decision = .respond ∨
      (decidedPolicyResult methods context).decision = .llmGenerate ∨
      (decidedPolicyResult methods context).decision = .escalateToHuman := by
  unfold decidedPolicyResult
  dsimp only
  split_ifs
  · exact .inl rfl
  · exact .inr (getDecision_decision _ _ _ _ _)

theorem policyEngineNode_decision (methods : StrMethods) (state : AgentState) :
    (policyEngineNode methods state).decision = some .respond ∨
      (policyEngineNode methods state).decision = some .respondTemplate ∨
      (policyEngineNode methods state).decision = some .llmGenerate ∨
      (policyEngineNode methods state).decision = some .escalateToHuman := by
  unfold policyEngineNode
  dsimp only
  split_ifs with hearly
  · exact .inl hearly.1
  · exact .inr (.inl rfl)
  · rcases decidedPolicyResult_decision methods
      (PolicyDecisionContext.fromState state) with h | h | h
    · exact .inl (congrArg some h)
    · exact .inr (.inr (.inl (congrArg some h)))
    · exact .inr (.inr (.inr (congrArg some h)))

/-! Runs of the graph. -/

theorem runGraph_next {fuel : Nat} (node target : AgentGraphNode) {run : GraphRun}
    (h : edgeFrom node (run.visit methods record input node).state = .next target) :
    runGraph methods record input (fuel + 1) node run =
      runGraph methods record input fuel target (run.visit methods record input node) := by
  rw [runGraph]
  simp only [h]

/-- The responder delivers, and the turn ends with the save. -/
theorem runGraph_responder (fuel : Nat) (run : GraphRun) :
    runGraph methods record input (fuel + 2) .responder run =
      .ok ((run.visit methods record input .responder).visit methods record input .persist) := rfl

/-- The run up to the rules. -/
def ruledRun (methods : StrMethods) (record : ThreadRecord) (input : TurnInput) : GraphRun :=
  ⟨ruledState methods record input, [.loadState, .rulesCheck], []⟩

/-- The run up to the policy. -/
def decidedRun (methods : StrMethods) (record : ThreadRecord) (input : TurnInput) : GraphRun :=
  ⟨decidedState methods record input,
    [.loadState, .rulesCheck, .intentExtractor, .policyEngine],
    policyEffects methods input (classifiedState methods record input)⟩

theorem invokeGraph_ruled (target : AgentGraphNode)
    (h : routeFromRules (ruledState methods record input) = .next target) :
    invokeGraph methods record input =
      runGraph methods record input 23 target (ruledRun methods record input) := by
  unfold invokeGraph recursionLimit
  rw [runGraph_next .loadState .rulesCheck rfl]
  exact runGraph_next .rulesCheck target h

theorem invokeGraph_decided (target : AgentGraphNode)
    (hrules : (ruledState methods record input).decision = some .proceedToLlm)
    (h : routeFromPolicy (decidedState methods record input) = .next target) :
    invokeGraph methods record input =
      runGraph methods record input 21 target (decidedRun methods record input) := by
  rw [invokeGraph_ruled .intentExtractor (by rw [routeFromRules, hrules]; rfl),
    runGraph_next .intentExtractor .policyEngine rfl]
  exact runGraph_next .policyEngine target h

theorem turnRoute_of_proceed
    (hrules : (ruledState methods record input).decision = some .proceedToLlm) :
    turnRoute methods record input =
      match (decidedState methods record input).decision with
      | some .respond => .policyAnswer
      | some .respondTemplate => .template
      | some .llmGenerate => .generation
      | _ => .policyHandoff := by
  rw [turnRoute, hrules]

/-- The run of the graph is the written-out turn. -/
theorem invokeGraph_eq : invokeGraph methods record input = .ok (turnRun methods record input) := by
  unfold turnRun finalState answeredState routeEffects
  rcases rulesNode_decision methods (loadedState record input) with h | h | h
  · have hroute : turnRoute methods record input = .rulesAnswer := by
      rw [turnRoute, ruledState, h]
    rw [hroute, invokeGraph_ruled .responder (by rw [routeFromRules, ruledState, h]; rfl),
      runGraph_responder]
    rfl
  · have hroute : turnRoute methods record input = .handoffRequest := by
      rw [turnRoute, ruledState, h]
    rw [hroute, invokeGraph_ruled .escalate (by rw [routeFromRules, ruledState, h]; rfl),
      runGraph_next .escalate .responder rfl, runGraph_responder]
    rfl
  have hproceed := turnRoute_of_proceed h
  rcases policyEngineNode_decision methods (classifiedState methods record input)
    with hdecided | hdecided | hdecided | hdecided
  · rw [decidedState, hdecided] at hproceed
    rw [hproceed, invokeGraph_decided .responder h
      (by rw [routeFromPolicy, decidedState, hdecided]; rfl), runGraph_responder]
    rfl
  · rw [decidedState, hdecided] at hproceed
    rw [hproceed, invokeGraph_decided .templateResponse h
      (by rw [routeFromPolicy, decidedState, hdecided]; rfl),
      runGraph_next .templateResponse .responder rfl, runGraph_responder]
    simp [GraphRun.visit, decidedRun, runNode, nodeEffects, TurnRoute.nodes, routeAnswer]
  · rw [decidedState, hdecided] at hproceed
    rw [hproceed, invokeGraph_decided .commercialContextLookup h
      (by rw [routeFromPolicy, decidedState, hdecided]; rfl),
      runGraph_next .commercialContextLookup .kbSearch rfl,
      runGraph_next .kbSearch .responseGenerator rfl,
      runGraph_next .responseGenerator .responder rfl, runGraph_responder]
    simp [GraphRun.visit, decidedRun, runNode, nodeEffects, TurnRoute.nodes, routeAnswer]
  · rw [decidedState, hdecided] at hproceed
    rw [hproceed, invokeGraph_decided .escalate h
      (by rw [routeFromPolicy, decidedState, hdecided]; rfl),
      runGraph_next .escalate .responder rfl, runGraph_responder]
    simp [GraphRun.visit, decidedRun, runNode, nodeEffects, TurnRoute.nodes, routeAnswer]

/-! Answers. -/

def TurnEffect.deliveredText : TurnEffect → Option String
  | .delivered text => some text
  | _ => none

def TurnEffect.recordedText : TurnEffect → Option String
  | .assistantMessage text => some text
  | _ => none

/-- The texts that the turn delivers to the client. -/
def deliveredTexts (effects : List TurnEffect) : List String :=
  effects.filterMap TurnEffect.deliveredText

/-- The texts that the turn adds to the messages of the thread. -/
def recordedTexts (effects : List TurnEffect) : List String :=
  effects.filterMap TurnEffect.recordedText

@[simp] theorem deliveredTexts_append (first second : List TurnEffect) :
    deliveredTexts (first ++ second) = deliveredTexts first ++ deliveredTexts second :=
  List.filterMap_append

@[simp] theorem recordedTexts_append (first second : List TurnEffect) :
    recordedTexts (first ++ second) = recordedTexts first ++ recordedTexts second :=
  List.filterMap_append

@[simp] theorem deliveredTexts_nil : deliveredTexts [] = [] := rfl

@[simp] theorem recordedTexts_nil : recordedTexts [] = [] := rfl

@[simp] theorem deliveredTexts_attempt (call : TurnCall) (effect : TurnEffect) :
    deliveredTexts (attempt input call effect) =
      if input.raises call then [] else effect.deliveredText.toList := by
  unfold attempt deliveredTexts
  split
  · rfl
  · cases h : effect.deliveredText <;> simp [h]

@[simp] theorem recordedTexts_attempt (call : TurnCall) (effect : TurnEffect) :
    recordedTexts (attempt input call effect) =
      if input.raises call then [] else effect.recordedText.toList := by
  unfold attempt recordedTexts
  split
  · rfl
  · cases h : effect.recordedText <;> simp [h]

@[simp] theorem deliveredTexts_ite (p : Prop) [Decidable p] (effects : List TurnEffect) :
    deliveredTexts (if p then effects else []) = if p then deliveredTexts effects else [] := by
  split <;> rfl

@[simp] theorem recordedTexts_ite (p : Prop) [Decidable p] (effects : List TurnEffect) :
    recordedTexts (if p then effects else []) = if p then recordedTexts effects else [] := by
  split <;> rfl

theorem deliveredTexts_cons (effect : TurnEffect) (rest : List TurnEffect) :
    deliveredTexts (effect :: rest) = effect.deliveredText.toList ++ deliveredTexts rest := by
  unfold deliveredTexts
  cases h : effect.deliveredText <;> simp [h]

theorem recordedTexts_cons (effect : TurnEffect) (rest : List TurnEffect) :
    recordedTexts (effect :: rest) = effect.recordedText.toList ++ recordedTexts rest := by
  unfold recordedTexts
  cases h : effect.recordedText <;> simp [h]

theorem policyEffects_silent (state : AgentState) :
    deliveredTexts (policyEffects methods input state) = [] ∧
      recordedTexts (policyEffects methods input state) = [] := by
  unfold policyEffects
  split_ifs
  · exact ⟨rfl, rfl⟩
  · exact ⟨rfl, rfl⟩
  · simp [TurnEffect.deliveredText, TurnEffect.recordedText]

theorem escalateEffects_silent : deliveredTexts (escalateEffects input) = [] ∧
    recordedTexts (escalateEffects input) = [] := by
  simp [escalateEffects, TurnEffect.deliveredText, TurnEffect.recordedText]

/-- Nothing is said to the client before the responder. -/
theorem routeEffects_silent (methods : StrMethods) (record : ThreadRecord) (input : TurnInput) :
    deliveredTexts (routeEffects methods record input) = [] ∧
    recordedTexts (routeEffects methods record input) = [] := by
  unfold routeEffects
  split
  · exact ⟨rfl, rfl⟩
  · exact escalateEffects_silent
  · exact policyEffects_silent _
  · exact policyEffects_silent _
  · exact policyEffects_silent _
  · simp [policyEffects_silent, escalateEffects_silent]

theorem deliveredTexts_persistEffects (state : AgentState) :
    deliveredTexts (persistEffects input state) = [] := by
  simp [persistEffects, TurnEffect.deliveredText]

/-- The save records the text that was not delivered. -/
theorem recordedTexts_persistEffects (state : AgentState) :
    recordedTexts (persistEffects input state) =
      if isFilled state.responseText then
        if input.raises .savePendingMessage then [] else [state.responseText.getD ""]
      else [] := by
  simp [persistEffects, TurnEffect.recordedText]

theorem resolveResponseText_ne_empty (state : AgentState) : resolveResponseText state ≠ "" := by
  have horElse (value : Option String) {fallback : String} (h : fallback ≠ "") :
      orElse value fallback ≠ "" := by
    cases value with
    | none => exact h
    | some text =>
      unfold orElse
      dsimp only
      split_ifs with hempty
      · exact h
      · exact hempty
  unfold resolveResponseText
  split
  · split_ifs with hempty
    · exact horElse _ (by decide)
    · exact hempty
  · exact horElse _ (by decide)

theorem toolExecutor_notMem_nodes (route : TurnRoute) :
    (([.loadState, .rulesCheck] ++ route.nodes ++ [.responder, .persist] :
      List AgentGraphNode).Nodup ∧
        AgentGraphNode.toolExecutor ∉
          ([.loadState, .rulesCheck] ++ route.nodes ++ [.responder, .persist] :
            List AgentGraphNode)) := by
  cases route <;> decide

/-- A turn with its only answer: the text was delivered, or it is left with the caller. -/
structure AnsweredOnce (input : TurnInput) (run : GraphRun) (text : String) : Prop where
  text_ne_empty : text ≠ ""
  delivered : deliveredTexts run.effects = if run.state.messageSent then [text] else []
  pending : run.state.responseText = if run.state.messageSent then none else some text
  recorded : recordedTexts run.effects =
    if input.raises (if run.state.messageSent then .saveDeliveredMessage else .savePendingMessage)
    then [] else [text]

/-- The responder delivers the text of the state, or leaves a notice in its place. -/
theorem responderNode_cases (input : TurnInput) (state : AgentState) :
    ((state.chatId ≠ 0 ∧ input.delivery = .sent) ∧
        responderNode input state = { state with messageSent := true, responseText := none }) ∨
      ((state.chatId = 0 ∨ input.delivery ≠ .sent) ∧
        ∃ text ∈ [missingChatIdText, sendFailedText, sendExceptionText],
          responderNode input state = undelivered text state) := by
  unfold responderNode
  split_ifs with hchat
  · exact .inr ⟨.inl hchat, _, by simp, rfl⟩
  cases hdelivery : input.delivery with
  | sent => exact .inl ⟨⟨hchat, rfl⟩, rfl⟩
  | refused => exact .inr ⟨.inr (by simp), _, by simp, rfl⟩
  | raised => exact .inr ⟨.inr (by simp), _, by simp, rfl⟩

theorem turnRun_answered : ∃ text, AnsweredOnce input (turnRun methods record input) text := by
  obtain ⟨hdelivered, hrecorded⟩ := routeEffects_silent methods record input
  generalize hanswered : answeredState methods record input = answered
  have hfinal : finalState methods record input = responderNode input answered := by
    rw [finalState, hanswered]
  have hstate : (turnRun methods record input).state = responderNode input answered := hfinal
  have heffects : (turnRun methods record input).effects = routeEffects methods record input ++
      responderEffects input answered ++ persistEffects input (responderNode input answered) := by
    rw [turnRun, hfinal, hanswered]
  rcases responderNode_cases input answered with ⟨hsent, hnode⟩ | ⟨hunsent, text, htext, hnode⟩
  · have hresponder : responderEffects input answered =
        .delivered (resolveResponseText answered) ::
          attempt input .saveDeliveredMessage
            (.assistantMessage (resolveResponseText answered)) := by
      rw [responderEffects, if_neg (by simp [hsent])]
    rw [hnode] at hstate heffects
    refine ⟨resolveResponseText answered, resolveResponseText_ne_empty _, ?_, ?_, ?_⟩
    · rw [heffects, hstate, deliveredTexts_append, deliveredTexts_append, hdelivered, hresponder,
        deliveredTexts_persistEffects, deliveredTexts_cons, deliveredTexts_attempt]
      simp [TurnEffect.deliveredText]
    · rw [hstate]
      rfl
    · rw [heffects, hstate, recordedTexts_append, recordedTexts_append, hrecorded, hresponder,
        recordedTexts_persistEffects, recordedTexts_cons, recordedTexts_attempt]
      simp [TurnEffect.recordedText, isFilled]
  · have hresponder : responderEffects input answered = [] := by
      rw [responderEffects, if_pos hunsent]
    have hne : text ≠ "" := by
      intro hempty
      subst hempty
      revert htext
      decide
    rw [hnode] at hstate heffects
    refine ⟨text, hne, ?_, ?_, ?_⟩
    · rw [heffects, hstate, deliveredTexts_append, deliveredTexts_append, hdelivered, hresponder,
        deliveredTexts_persistEffects]
      rfl
    · rw [hstate]
      rfl
    · rw [heffects, hstate, recordedTexts_append, recordedTexts_append, hrecorded, hresponder,
        recordedTexts_persistEffects]
      simp [undelivered, isFilled, hne]

/-- A turn whose thread cannot be read ends with that error. Every other turn runs to its end,
whatever the services answer: it delivers once and saves once, it runs no tool, and its one
answer reaches the client or the caller. -/
theorem invokeGraph_answers (methods : StrMethods) (input : TurnInput) :
    (∀ error, ainvoke methods input (.error error) = .error (.raised error)) ∧
    ∀ record, ∃ run, ainvoke methods input (.ok record) = .ok run ∧
      run.visited.getLast? = some .persist ∧ .responder ∈ run.visited ∧ run.visited.Nodup ∧
      .toolExecutor ∉ run.visited ∧ ∃ text, AnsweredOnce input run text := by
  refine ⟨fun _ => rfl, fun record => ?_⟩
  refine ⟨turnRun methods record input, invokeGraph_eq, ?_, ?_, ?_, ?_, turnRun_answered⟩
  · rw [turnRun, List.getLast?_append]
    rfl
  · simp [turnRun]
  · exact (toolExecutor_notMem_nodes _).1
  · exact (toolExecutor_notMem_nodes _).2

end CrmBot.Conversation
