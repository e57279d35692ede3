import CrmBot.Conversation.TurnRoutes
import CrmBot.Library.Runs

/-! What one turn does to the row of its thread.

The rules and the policy are taken apart once: the rules by the message and by the
question that is pending, the policy by the way it chooses. -/

namespace CrmBot.Conversation

/-- The row of the thread after a turn. -/
def turn (methods : StrMethods) (record : ThreadRecord) (input : TurnInput) : ThreadRecord :=
  match invokeGraph methods record input with
  | .ok run => persistRecord record input run.state
  | .error _ => record

/-- The state is saved with the row of the thread. -/
def TurnInput.saves (input : TurnInput) : Prop := input.raises .saveStateJson = false

instance (input : TurnInput) : Decidable input.saves :=
  inferInstanceAs (Decidable (input.raises .saveStateJson = false))

/-- The question whether to hand the dialog over is not answered yet. -/
def StatePayload.pending (state : StatePayload) : Bool :=
  state.dialogState.any DialogState.handoffConfirmationPending

/-- What the saved state says, if there is one. -/
def ThreadRecord.pending (record : ThreadRecord) : Bool := record.stateJson.any StatePayload.pending

variable {methods : StrMethods} {record : ThreadRecord} {input : TurnInput}

theorem turn_eq : turn methods record input =
    persistRecord record input (finalState methods record input) := by
  rw [turn, invokeGraph_eq]
  rfl

theorem turn_stateJson (h : input.saves) : (turn methods record input).stateJson =
    some (persistedPayload input (finalState methods record input)) := by
  rw [turn_eq, persistRecord, if_neg (Bool.eq_false_iff.mp h)]

theorem turn_stateJson_of_not_saves (h : ¬ input.saves) :
    (turn methods record input).stateJson = record.stateJson := by
  have hraises : input.raises .saveStateJson = true := Bool.eq_true_of_not_eq_false h
  rw [turn_eq, persistRecord, if_pos hraises]

/-! Rules. -/

/-- What the rules make of a message. -/
inductive Ruled (methods : StrMethods) (state : AgentState) : AgentState → Prop
  | silent (hempty : state.userInput = "") :
      Ruled methods state { state with decision := some .proceedToLlm }
  | request (hinput : state.userInput ≠ "")
      (hrequest : detectHandoffRequest methods state.userInput = true) :
      Ruled methods state
        { state with
          decision := some .escalate
          dialogState :=
            some (clearHandoffConfirmation (mergeDialogState state.dialogState "cold")) }
  | confirm (hinput : state.userInput ≠ "")
      (hrequest : detectHandoffRequest methods state.userInput = false)
      (hasked : state.pending = true)
      (hreply : resolveHandoffConfirmationReply methods state.userInput = some .confirm) :
      Ruled methods state
        { state with
          decision := some .escalate
          dialogState :=
            some (clearHandoffConfirmation (mergeDialogState state.dialogState "cold")) }
  | decline (hinput : state.userInput ≠ "")
      (hrequest : detectHandoffRequest methods state.userInput = false)
      (hasked : state.pending = true)
      (hreply : resolveHandoffConfirmationReply methods state.userInput = some .decline) :
      Ruled methods state
        { state with
          decision := some .respond
          responseText := some buildHandoffDetailsRequestedText
          requiresHuman := false
          dialogState :=
            some (clearHandoffConfirmation (mergeDialogState state.dialogState "cold")) }
  | takeBack (hinput : state.userInput ≠ "")
      (hrequest : detectHandoffRequest methods state.userInput = false)
      (hasked : state.pending = true)
      (hreply : resolveHandoffConfirmationReply methods state.userInput = none) :
      Ruled methods state
        { state with
          decision := some .proceedToLlm
          dialogState :=
            some (clearHandoffConfirmation (mergeDialogState state.dialogState "cold")) }
  | question (hinput : state.userInput ≠ "")
      (hrequest : detectHandoffRequest methods state.userInput = false)
      (hasked : state.pending = false) (hanger : detectAnger methods state.userInput = true) :
      Ruled methods state
        { state with
          decision := some .respond
          requiresHuman := false
          responseText := some (buildHandoffConfirmationText state.userInput)
          dialogState :=
            some (withHandoffConfirmationPending (mergeDialogState state.dialogState "cold")) }
  | proceed (hinput : state.userInput ≠ "")
      (hrequest : detectHandoffRequest methods state.userInput = false)
      (hasked : state.pending = false) (hanger : detectAnger methods state.userInput = false) :
      Ruled methods state { state with decision := some .proceedToLlm }

theorem isHandoffConfirmationPending_merge (state : AgentState) :
    isHandoffConfirmationPending (mergeDialogState state.dialogState "cold") = state.pending := by
  unfold StatePayload.pending
  cases state.dialogState <;> rfl

theorem rulesNode_ruled (methods : StrMethods) (state : AgentState) :
    Ruled methods state (rulesNode methods state) := by
  unfold rulesNode
  dsimp only
  rw [isHandoffConfirmationPending_merge]
  split_ifs with hempty hrequest hasked hanger
  · exact .silent hempty
  · exact .request hempty hrequest
  · have hrequest := Bool.eq_false_iff.mpr hrequest
    split
    · next hreply => exact .confirm hempty hrequest hasked hreply
    · next hreply => exact .decline hempty hrequest hasked hreply
    · next hreply => exact .takeBack hempty hrequest hasked hreply
  · exact .question hempty (Bool.eq_false_iff.mpr hrequest) (Bool.eq_false_iff.mpr hasked) hanger
  · exact .proceed hempty (Bool.eq_false_iff.mpr hrequest) (Bool.eq_false_iff.mpr hasked)
      (Bool.eq_false_iff.mpr hanger)

theorem ruledState_ruled (methods : StrMethods) (record : ThreadRecord) (input : TurnInput) :
    Ruled methods (loadedState record input) (ruledState methods record input) :=
  rulesNode_ruled methods _

theorem loadedState_userInput (record : ThreadRecord) (input : TurnInput) :
    (loadedState record input).userInput = input.userInput := by
  unfold loadedState loadStateNode
  cases record.stateJson <;> rfl

theorem loadedState_pending (record : ThreadRecord) (input : TurnInput) :
    (loadedState record input).pending = record.pending := by
  unfold loadedState loadStateNode ThreadRecord.pending
  cases record.stateJson with
  | some saved => rfl
  | none =>
    dsimp only
    split <;> rfl

theorem ruledState_userInput (methods : StrMethods) (record : ThreadRecord) (input : TurnInput) :
    (ruledState methods record input).userInput = input.userInput := by
  rw [← loadedState_userInput record input]
  have h := ruledState_ruled methods record input
  generalize ruledState methods record input = ruled at *
  cases h <;> rfl

/-! The policy. -/

theorem contextDialogState_pending (state : AgentState) :
    (PolicyDecisionContext.fromState state).dialogState.handoffConfirmationPending =
      state.pending := by
  unfold PolicyDecisionContext.fromState StatePayload.pending
  cases state.dialogState <;> rfl

/-- What the policy makes of a message. -/
inductive Decided (methods : StrMethods) (state : AgentState) : AgentState → Prop
  | technical (hdecision : state.decision = some .respond)
      (hfilled : isFilled state.responseText = true) :
      Decided methods state
        { state with
          requiresHuman := false
          shouldSearchKb := some false
          shouldGenerateAnswer := some false
          shouldOfferManager := some (state.shouldOfferManager.getD false) }
  | template (hfresh : ¬ (state.decision = some .respond ∧ isFilled state.responseText = true)) :
      Decided methods state
        { (templatePolicyResult methods (.fromState state)
            (signalOf methods state.domain "business")).patch
              (PolicyDecisionContext.fromState state).lifecycle state with
          domain := some (signalOf methods state.domain "business")
          turnRelation := some (signalOf methods state.turnRelation "unknown")
          shouldSearchKb := some false
          shouldGenerateAnswer := some false
          requiresHuman := false }
  | question (hfresh : ¬ (state.decision = some .respond ∧ isFilled state.responseText = true))
      (hasked : state.pending = false) (intent : Intent) (topic : Topic) (cta : Cta) :
      Decided methods state
        ((handoffConfirmationResult methods (.fromState state) intent topic cta).patch
          (PolicyDecisionContext.fromState state).lifecycle state)
  | followed (hfresh : ¬ (state.decision = some .respond ∧ isFilled state.responseText = true))
      (intent : Intent) (topic : Topic) (decided : PolicyDecision)
      (hintent : intent = normalizeIntent methods state.intent)
      (htopic : topic = resolveTopic methods (some intent.value) state.features)
      (hdecided : decided = getDecision methods
        (some (PolicyDecisionContext.fromState state).lifecycle) (some intent.value) state.features
        (PolicyDecisionContext.fromState state).dialogState)
      (hasked : decided.decision = .escalateToHuman → state.pending = true) :
      Decided methods state
        ((followedDecisionResult methods (.fromState state) intent topic decided).patch
          (PolicyDecisionContext.fromState state).lifecycle state)

theorem policyEngineNode_decided (methods : StrMethods) (state : AgentState) :
    Decided methods state (policyEngineNode methods state) := by
  unfold policyEngineNode
  dsimp only
  split_ifs with htechnical htemplate
  · exact .technical htechnical.1 htechnical.2
  · exact .template htechnical
  · unfold decidedPolicyResult
    dsimp only
    split_ifs with hhandoff
    · refine .question htechnical ?_ _ _ _
      rw [← contextDialogState_pending]
      exact hhandoff.2
    · refine .followed htechnical _ _ _ rfl rfl rfl fun hescalates => ?_
      rw [← contextDialogState_pending]
      exact Bool.eq_true_of_not_eq_false fun hfalse => hhandoff ⟨hescalates, hfalse⟩

theorem decidedState_decided (methods : StrMethods) (record : ThreadRecord) (input : TurnInput) :
    Decided methods (classifiedState methods record input) (decidedState methods record input) :=
  policyEngineNode_decided methods _

theorem templatePolicyResult_pending (methods : StrMethods) (context : PolicyDecisionContext)
    (domain : String) :
    (templatePolicyResult methods context domain).dialogState.handoffConfirmationPending =
      context.dialogState.handoffConfirmationPending := by
  unfold templatePolicyResult
  rw [mergeDialogState_pending, buildDialogStateUpdate]

theorem followedDecisionResult_pending (context : PolicyDecisionContext) (intent : Intent)
    (topic : Topic) (decided : PolicyDecision) :
    (followedDecisionResult methods context intent topic
        decided).dialogState.handoffConfirmationPending =
      context.dialogState.handoffConfirmationPending := by
  unfold followedDecisionResult
  rw [mergeDialogState_pending, buildDialogStateUpdate]

/-- The policy asks, or leaves the question as it is. -/
theorem Decided.pending_eq_or {state decided : AgentState} (h : Decided methods state decided) :
    decided.pending = state.pending ∨
      state.pending = false ∧ decided.decision = some .respond ∧
        decided.responseText = some (buildHandoffConfirmationText state.userInput) := by
  have hcontext := contextDialogState_pending state
  have hpatch (result : PolicyDecisionResult) (previous : String) :
      (result.patch previous state).pending = result.dialogState.handoffConfirmationPending := rfl
  cases h with
  | technical => exact .inl rfl
  | template =>
    left
    rw [← hcontext, ← templatePolicyResult_pending methods]
    exact hpatch _ (PolicyDecisionContext.fromState state).lifecycle
  | question _ hasked => exact .inr ⟨hasked, rfl, rfl⟩
  | followed =>
    left
    rw [hpatch, followedDecisionResult_pending, hcontext]

/-! Frames. -/

theorem intentExtractorNode_dialogState (state : AgentState) :
    (intentExtractorNode input state).dialogState = state.dialogState := by
  unfold intentExtractorNode
  split_ifs
  · rfl
  · split <;> rfl

theorem responseGeneratorNode_dialogState (state : AgentState) :
    (responseGeneratorNode input state).dialogState = state.dialogState := by
  unfold responseGeneratorNode
  split_ifs
  · split <;> rfl
  · rfl

theorem responderNode_dialogState (state : AgentState) :
    (responderNode input state).dialogState = state.dialogState := by
  rcases responderNode_cases input state with ⟨-, h⟩ | ⟨-, text, -, h⟩ <;> rw [h]
  rfl

theorem persistedPayload_dialogState (state : AgentState) :
    (persistedPayload input state).dialogState = state.dialogState := by
  unfold persistedPayload
  split <;> rfl

/-! Ways. -/

/-- The way of a turn, the decisions that chose it, and the state it brings to the responder. -/
inductive TurnCase (methods : StrMethods) (record : ThreadRecord) (input : TurnInput) : Prop
  | rulesAnswer (hrules : (ruledState methods record input).decision = some .respond)
      (hroute : turnRoute methods record input = .rulesAnswer)
      (hanswer : answeredState methods record input = ruledState methods record input)
  | handoffRequest (hrules : (ruledState methods record input).decision = some .escalate)
      (hroute : turnRoute methods record input = .handoffRequest)
      (hanswer : answeredState methods record input =
        escalateNode (ruledState methods record input))
  | policyAnswer (hrules : (ruledState methods record input).decision = some .proceedToLlm)
      (hpolicy : (decidedState methods record input).decision = some .respond)
      (hroute : turnRoute methods record input = .policyAnswer)
      (hanswer : answeredState methods record input = decidedState methods record input)
  | template (hrules : (ruledState methods record input).decision = some .proceedToLlm)
      (hpolicy : (decidedState methods record input).decision = some .respondTemplate)
      (hroute : turnRoute methods record input = .template)
      (hanswer : answeredState methods record input =
        templateResponseNode methods (decidedState methods record input))
  | generation (hrules : (ruledState methods record input).decision = some .proceedToLlm)
      (hpolicy : (decidedState methods record input).decision = some .llmGenerate)
      (hroute : turnRoute methods record input = .generation)
      (hanswer : answeredState methods record input =
        responseGeneratorNode input (decidedState methods record input))
  | policyHandoff (hrules : (ruledState methods record input).decision = some .proceedToLlm)
      (hpolicy : (decidedState methods record input).decision = some .escalateToHuman)
      (hroute : turnRoute methods record input = .policyHandoff)
      (hanswer : answeredState methods record input =
        escalateNode (decidedState methods record input))

theorem turn_cases (methods : StrMethods) (record : ThreadRecord) (input : TurnInput) :
    TurnCase methods record input := by
  have hanswer {route : TurnRoute} (h : turnRoute methods record input = route) :
      answeredState methods record input = routeAnswer methods record input route := by
    rw [answeredState, h]
  rcases rulesNode_decision methods (loadedState record input) with hrules | hrules | hrules
  · have hroute : turnRoute methods record input = .rulesAnswer := by
      rw [turnRoute, ruledState, hrules]
    exact .rulesAnswer hrules hroute (hanswer hroute)
  · have hroute : turnRoute methods record input = .handoffRequest := by
      rw [turnRoute, ruledState, hrules]
    exact .handoffRequest hrules hroute (hanswer hroute)
  have hroute := turnRoute_of_proceed hrules
  rcases policyEngineNode_decision methods (classifiedState methods record input)
    with hpolicy | hpolicy | hpolicy | hpolicy
  all_goals rw [decidedState, hpolicy] at hroute
  · exact .policyAnswer hrules hpolicy hroute (hanswer hroute)
  · exact .template hrules hpolicy hroute (hanswer hroute)
  · exact .generation hrules hpolicy hroute (hanswer hroute)
  · exact .policyHandoff hrules hpolicy hroute (hanswer hroute)

/-! A thread and its messages. -/

/-- The methods of `str` on ASCII texts. -/
def asciiMethods : StrMethods where
  lower text := String.ofList (text.toList.map Char.toLower)
  isalpha := Char.isAlpha
  isupper := Char.isUpper

def freshThread : ThreadRecord := ⟨none, ⟨none, none, none, none⟩⟩

/-- A message that is delivered and saved while the classifier is down. -/
def messageOf (text : String) : TurnInput where
  userInput := text
  chatId := 1
  hasMemory := false
  classification := .error "TimeoutError"
  toolRun := .error "TimeoutError"
  generation := .error "TimeoutError"
  delivery := .sent
  incidentTicketId := "t-1"
  raises _ := false

end CrmBot.Conversation
