import CrmBot.Conversation.LifecycleProgress
import CrmBot.Conversation.TechnicalIncidents

/-! What the saved state carries from one turn to the next.

The saved state keeps the whole state of a turn, its answer included. What no node of a
later turn overwrites is read there as if it had just happened. -/

namespace CrmBot.Conversation

open Runs

section Turn

variable (methods : StrMethods) (record : ThreadRecord) (input : TurnInput)

/-- The notice that is left in the place of an answer which was not delivered. -/
def noticeOf : Option String :=
  if input.chatId = 0 then some missingChatIdText
  else match input.delivery with
    | .sent => none
    | .refused => some sendFailedText
    | .raised => some sendExceptionText

/-- The turn needs a human: it hands the dialog over, or its answer is not delivered. -/
def CallsHuman : Prop := Escalates methods record input ∨ noticeOf input ≠ none

/-- The ways of a turn that take back that a human is needed. -/
def ResetsHuman : Prop :=
  match turnRoute methods record input with
  | .rulesAnswer | .template => True
  | .policyAnswer => input.misclassifies = true
  | .generation => input.generation.isOk = false
  | .handoffRequest | .policyHandoff => False

/-- The turn tells the event log of a ticket. -/
def AnnouncesTicket : Prop :=
  ∃ run, invokeGraph methods record input = .ok run ∧ .ticketCreated ∈ run.effects

end Turn

def ThreadRecord.requiresHuman (record : ThreadRecord) : Bool :=
  record.stateJson.any StatePayload.requiresHuman

variable {methods : StrMethods} {record : ThreadRecord} {input : TurnInput}

theorem responderNode_notice (state : AgentState) (hchat : state.chatId = input.chatId) :
    (responderNode input state).responseText = noticeOf input ∧
      (responderNode input state).requiresHuman =
        (state.requiresHuman || (noticeOf input).isSome) := by
  unfold responderNode noticeOf
  rw [hchat]
  split_ifs
  · exact ⟨rfl, (Bool.or_true _).symm⟩
  · cases input.delivery
    · exact ⟨rfl, (Bool.or_false _).symm⟩
    · exact ⟨rfl, (Bool.or_true _).symm⟩
    · exact ⟨rfl, (Bool.or_true _).symm⟩

/-! Frames. -/

theorem classifiedState_carried (methods : StrMethods) (record : ThreadRecord)
    (input : TurnInput) :
    (classifiedState methods record input).chatId = (ruledState methods record input).chatId ∧
      (classifiedState methods record input).requiresHuman =
        ((ruledState methods record input).requiresHuman && !input.misclassifies) ∧
      (input.misclassifies = false → (classifiedState methods record input).decision =
          (ruledState methods record input).decision ∧
        (classifiedState methods record input).responseText =
          (ruledState methods record input).responseText) := by
  have hinput := ruledState_userInput methods record input
  rw [classifiedState, intentExtractorNode, hinput, TurnInput.misclassifies]
  split_ifs with hempty
  · simp [hempty]
  · cases hclassification : input.classification with
    | ok result => simp [Except.isOk, Except.toBool]
    | error error => simp [classificationFailure, hempty, Except.isOk, Except.toBool]

theorem answeredState_chatId (methods : StrMethods) (record : ThreadRecord) (input : TurnInput) :
    (answeredState methods record input).chatId = input.chatId := by
  have hloaded : (loadedState record input).chatId = input.chatId := by
    unfold loadedState loadStateNode
    cases record.stateJson <;> rfl
  have hruled : (ruledState methods record input).chatId = input.chatId := by
    rw [← hloaded]
    have h := ruledState_ruled methods record input
    generalize ruledState methods record input = ruled at *
    cases h <;> rfl
  have hdecided : (decidedState methods record input).chatId = input.chatId := by
    rw [← hruled, ← (classifiedState_carried methods record input).1]
    have h := decidedState_decided methods record input
    generalize decidedState methods record input = decided at *
    cases h <;> rfl
  cases turn_cases methods record input with
  | rulesAnswer _ _ hanswer => rw [hanswer, hruled]
  | handoffRequest _ _ hanswer => rw [hanswer, ← hruled]; rfl
  | policyAnswer _ _ _ hanswer => rw [hanswer, hdecided]
  | template _ _ _ hanswer => rw [hanswer, ← hdecided]; rfl
  | generation _ _ _ hanswer =>
    rw [hanswer, ← hdecided, responseGeneratorNode]
    split_ifs
    · split <;> rfl
    · rfl
  | policyHandoff _ _ _ hanswer => rw [hanswer, ← hdecided]; rfl

theorem loadedState_carried (record : ThreadRecord) (input : TurnInput) :
    (loadedState record input).requiresHuman = record.requiresHuman ∧
      (loadedState record input).responseText =
        record.stateJson.bind StatePayload.responseText := by
  unfold loadedState loadStateNode ThreadRecord.requiresHuman
  cases record.stateJson <;> exact ⟨rfl, rfl⟩

/-- A message that the rules leave to the policy is not answered yet, and what was said about a
human stands. -/
theorem ruledState_carried
    (hrules : (ruledState methods record input).decision = some .proceedToLlm) :
    (ruledState methods record input).requiresHuman = record.requiresHuman ∧
      (ruledState methods record input).responseText =
        record.stateJson.bind StatePayload.responseText := by
  rw [← (loadedState_carried record input).1, ← (loadedState_carried record input).2]
  have h := ruledState_ruled methods record input
  generalize ruledState methods record input = ruled at *
  cases h with
  | silent => exact ⟨rfl, rfl⟩
  | request => cases hrules
  | confirm => cases hrules
  | decline => cases hrules
  | takeBack => exact ⟨rfl, rfl⟩
  | question => cases hrules
  | proceed => exact ⟨rfl, rfl⟩

theorem ruledState_answers (hrules : (ruledState methods record input).decision = some .respond) :
    (ruledState methods record input).requiresHuman = false := by
  have h := ruledState_ruled methods record input
  generalize ruledState methods record input = ruled at *
  cases h with
  | silent => cases hrules
  | request => cases hrules
  | confirm => cases hrules
  | decline => rfl
  | takeBack => cases hrules
  | question => rfl
  | proceed => cases hrules

/-- The policy lets the flag stand, unless it answers a failure or chooses a template. -/
theorem decidedState_requiresHuman
    (hrules : (ruledState methods record input).decision = some .proceedToLlm) :
    (decidedState methods record input).requiresHuman =
      if (decidedState methods record input).decision = some .respondTemplate then false
      else record.requiresHuman && !input.misclassifies := by
  obtain ⟨-, hhuman, hclassified⟩ := classifiedState_carried methods record input
  rw [(ruledState_carried hrules).1] at hhuman
  rw [hrules] at hclassified
  rw [← hhuman]
  have h := decidedState_decided methods record input
  generalize decidedState methods record input = decided at *
  generalize classifiedState methods record input = classified at *
  cases h with
  | technical hdecision =>
    have hfails : input.misclassifies = true := by
      refine Bool.eq_true_of_not_eq_false fun hclassifies => ?_
      rw [(hclassified hclassifies).1] at hdecision
      cases hdecision
    rw [if_neg (by rw [hdecision]; simp), hhuman, hfails]
    exact (Bool.and_false _).symm
  | template => rfl
  | question => rfl
  | followed _ intent topic decision _ _ hdecision =>
    have hne : decision.decision ≠ .respondTemplate := by
      rw [hdecision]
      rcases getDecision_decision methods
        (some (PolicyDecisionContext.fromState classified).lifecycle) (some intent.value)
        classified.features
        (PolicyDecisionContext.fromState classified).dialogState with h | h
      all_goals rw [h]; decide
    refine (if_neg ?_).symm
    exact fun heq => hne (Option.some.inj heq)

/-- After a turn a human is needed when the turn needs one, or when one was needed before and the
turn did not take it back. -/
theorem finalState_requiresHuman :
    (finalState methods record input).requiresHuman = true ↔ CallsHuman methods record input ∨
      record.requiresHuman = true ∧ ¬ ResetsHuman methods record input := by
  have hnotice := (responderNode_notice (answeredState methods record input)
    (answeredState_chatId methods record input)).2
  have hdecided (h : (ruledState methods record input).decision = some .proceedToLlm) :=
    decidedState_requiresHuman h
  have hfails (h : input.misclassifies = true) :=
    (decidedState_of_misclassifies methods record h).1
  rw [finalState, hnotice, CallsHuman, escalates_iff, ResetsHuman]
  cases turn_cases methods record input with
  | rulesAnswer hrules hroute hanswer =>
    simp [hroute, hanswer, ruledState_answers hrules, Option.isSome_iff_ne_none]
  | handoffRequest _ hroute hanswer => simp [hroute, hanswer, escalateNode]
  | policyAnswer hrules hpolicy hroute hanswer =>
    simp [hroute, hanswer, hdecided hrules, hpolicy, Option.isSome_iff_ne_none, or_comm]
  | template hrules hpolicy hroute hanswer =>
    simp [hroute, hanswer, templateResponseNode, Option.isSome_iff_ne_none]
  | generation hrules hpolicy hroute hanswer =>
    have hclassifies : input.misclassifies = false := by
      refine Bool.eq_false_iff.mpr fun h => ?_
      rw [hfails h] at hpolicy
      cases hpolicy
    have hhuman := hdecided hrules
    rw [hpolicy, if_neg (by simp), hclassifies, Bool.not_false, Bool.and_true] at hhuman
    rw [hroute, hanswer, responseGeneratorNode, if_neg (by rw [hpolicy]; decide)]
    cases input.generation with
    | ok text => simp [hhuman, Option.isSome_iff_ne_none, Except.isOk, Except.toBool, or_comm]
    | error error =>
      simp [generationFailure, Option.isSome_iff_ne_none, Except.isOk, Except.toBool]
  | policyHandoff _ _ hroute hanswer => simp [hroute, hanswer, escalateNode]

/-! Announced tickets. -/

theorem announcesTicket_iff : AnnouncesTicket methods record input ↔
    input.raises (.appendEvent "ticket_created") = false ∧
      (finalState methods record input).requiresHuman = true := by
  have hattempt {call : TurnCall} {effect : TurnEffect} :
      TurnEffect.ticketCreated ∈ attempt input call effect ↔
        input.raises call = false ∧ TurnEffect.ticketCreated = effect := by
    unfold attempt
    cases input.raises call <;> simp
  have hite {p : Prop} [Decidable p] {effects : List TurnEffect} :
      TurnEffect.ticketCreated ∈ (if p then effects else []) ↔
        p ∧ TurnEffect.ticketCreated ∈ effects := by
    split_ifs with h <;> simp [h]
  have hpolicy (state : AgentState) :
      TurnEffect.ticketCreated ∉ policyEffects methods input state := by
    unfold policyEffects
    split_ifs <;> simp [hattempt]
  have hescalate : TurnEffect.ticketCreated ∉ escalateEffects input := by
    simp [escalateEffects, hattempt]
  have hroute : TurnEffect.ticketCreated ∉ routeEffects methods record input := by
    unfold routeEffects
    split
    · exact List.not_mem_nil
    · exact hescalate
    · exact hpolicy _
    · exact hpolicy _
    · exact hpolicy _
    · simp [hpolicy, hescalate]
  have hresponder (state : AgentState) :
      TurnEffect.ticketCreated ∉ responderEffects input state := by
    unfold responderEffects
    split_ifs <;> simp [hattempt]
  unfold AnnouncesTicket
  rw [invokeGraph_eq]
  constructor
  · rintro ⟨run, hrun, hmem⟩
    cases hrun
    simp only [turnRun, List.mem_append, hroute, hresponder, false_or] at hmem
    simpa [persistEffects, hattempt, hite, and_comm] using hmem
  · rintro ⟨hraises, hhuman⟩
    refine ⟨_, rfl, ?_⟩
    simp [turnRun, persistEffects, hattempt, hite, hraises, hhuman]

theorem turn_carried (hsaves : input.saves) : (turn methods record input).requiresHuman =
      (finalState methods record input).requiresHuman ∧
    (turn methods record input).stateJson.bind StatePayload.responseText =
      (finalState methods record input).responseText := by
  rw [ThreadRecord.requiresHuman, turn_stateJson hsaves]
  unfold persistedPayload
  split_ifs <;> exact ⟨rfl, rfl⟩

theorem turn_requiresHuman_iff : (turn methods record input).requiresHuman = true ↔
    (input.saves ∧ CallsHuman methods record input) ∨
      record.requiresHuman = true ∧ (input.saves → ¬ ResetsHuman methods record input) := by
  by_cases hsaves : input.saves
  · rw [(turn_carried hsaves).1, finalState_requiresHuman]
    simp [hsaves]
  · rw [ThreadRecord.requiresHuman, turn_stateJson_of_not_saves hsaves, ThreadRecord.requiresHuman]
    simp [hsaves]

/-- The event log is told of a ticket by the turns that need a human, and by every later turn
until one takes it back. -/
theorem ticketCreated_iff (hfresh : record.stateJson = none) (inputs : List TurnInput)
    (input : TurnInput) :
    AnnouncesTicket methods (inputs.foldl (turn methods) record) input ↔
      input.raises (.appendEvent "ticket_created") = false ∧
        (CallsHuman methods (inputs.foldl (turn methods) record) input ∨
          ¬ ResetsHuman methods (inputs.foldl (turn methods) record) input ∧
            ∃ before calling after, inputs = before ++ calling :: after ∧
              (calling.saves ∧ CallsHuman methods (before.foldl (turn methods) record) calling) ∧
              EveryStep (turn methods)
                (fun record later => later.saves → ¬ ResetsHuman methods record later)
                (turn methods (before.foldl (turn methods) record) calling) after) := by
  have hcarried : (inputs.foldl (turn methods) record).requiresHuman = true ↔
      ∃ before calling after, inputs = before ++ calling :: after ∧
        (calling.saves ∧ CallsHuman methods (before.foldl (turn methods) record) calling) ∧
        EveryStep (turn methods)
          (fun record later => later.saves → ¬ ResetsHuman methods record later)
          (turn methods (before.foldl (turn methods) record) calling) after := by
    constructor
    · intro h
      exact exists_cause (fun record : ThreadRecord => record.requiresHuman = true)
        (fun _ _ => turn_requiresHuman_iff.mp) (by simp [ThreadRecord.requiresHuman, hfresh]) h
    · rintro ⟨before, calling, after, rfl, hcalls, hafter⟩
      exact flag_of_cause (fun record : ThreadRecord => record.requiresHuman = true)
        (fun _ _ h => turn_requiresHuman_iff.mpr (.inl h))
        (fun _ _ hflag hkeeps => turn_requiresHuman_iff.mpr (.inr ⟨hflag, hkeeps⟩)) hcalls hafter
  rw [announcesTicket_iff, finalState_requiresHuman, hcarried]
  simp only [and_comm]

/-- A client who has called a manager, and then asks for the price. -/
theorem ticketCreated_again : AnnouncesTicket asciiMethods
    ([messageOf "call manager"].foldl (turn asciiMethods) freshThread) askPrice := by
  refine (ticketCreated_iff rfl [messageOf "call manager"] askPrice).mpr
    ⟨rfl, .inr ⟨?_, [], messageOf "call manager", [], rfl, ⟨rfl, .inl ?_⟩, trivial⟩⟩
  · have hroute : turnRoute asciiMethods
        ([messageOf "call manager"].foldl (turn asciiMethods) freshThread) askPrice =
          .generation := by
      decide +kernel
    unfold ResetsHuman
    rw [hroute]
    decide
  · rw [escalates_iff]
    exact .inl (by decide +kernel)

/-! Notices in the place of templates. -/

/-- The notice of the last turn whose state was saved. -/
def lastNotice (inputs : List TurnInput) : Option String :=
  (inputs.filter fun input => input.saves).getLast?.bind noticeOf

theorem stateJson_responseText (hfresh : record.stateJson = none) (inputs : List TurnInput) :
    (inputs.foldl (turn methods) record).stateJson.bind StatePayload.responseText =
      lastNotice inputs := by
  induction inputs using List.reverseRecOn with
  | nil => rw [List.foldl_nil, hfresh]; rfl
  | append_singleton inputs last ih =>
    rw [List.foldl_append, List.foldl_cons, List.foldl_nil, lastNotice, List.filter_append]
    by_cases hsaves : last.saves
    · rw [(turn_carried hsaves).2, finalState, (responderNode_notice _
        (answeredState_chatId methods _ last)).1]
      simp [hsaves]
    · rw [turn_stateJson_of_not_saves hsaves, ih]
      simp [hsaves, lastNotice]

theorem noticeOf_ne_empty {text : String} (h : noticeOf input = some text) : text ≠ "" := by
  unfold noticeOf at h
  split_ifs at h
  · cases h
    decide
  · split at h <;> cases h <;> decide

theorem lastNotice_ne_empty {inputs : List TurnInput} {text : String}
    (h : lastNotice inputs = some text) : text ≠ "" := by
  obtain ⟨last, -, hnotice⟩ := Option.bind_eq_some_iff.mp h
  exact noticeOf_ne_empty hnotice

/-- The policy that chooses a template leaves the text of the state. -/
theorem decidedState_responseText
    (hrules : (ruledState methods record input).decision = some .proceedToLlm)
    (hpolicy : (decidedState methods record input).decision = some .respondTemplate) :
    (decidedState methods record input).responseText =
      record.stateJson.bind StatePayload.responseText := by
  have hclassifies : input.misclassifies = false := by
    refine Bool.eq_false_iff.mpr fun h => ?_
    rw [(decidedState_of_misclassifies methods record h).1] at hpolicy
    cases hpolicy
  have hclassified := (classifiedState_carried methods record input).2.2 hclassifies
  rw [(ruledState_carried hrules).2] at hclassified
  rw [← hclassified.2]
  have h := decidedState_decided methods record input
  generalize decidedState methods record input = decided at *
  generalize classifiedState methods record input = classified at *
  cases h with
  | technical hdecision => exact absurd (hpolicy.symm.trans hdecision) (by simp)
  | template => rfl
  | question => cases hpolicy
  | followed _ intent topic decision _ _ hdecision =>
    have hdecisions := getDecision_decision methods
      (some (PolicyDecisionContext.fromState classified).lifecycle) (some intent.value)
      classified.features (PolicyDecisionContext.fromState classified).dialogState
    rw [← hdecision] at hdecisions
    have heq : decision.decision = .respondTemplate := Option.some.inj hpolicy
    rw [heq] at hdecisions
    exact absurd hdecisions (by decide)

/-- A greeting, and what else is answered by a template, gets the template of its domain, unless
the answer of the last saved turn was not delivered: then it gets the notice of that failure. -/
theorem template_answer (hfresh : record.stateJson = none) {inputs : List TurnInput}
    (hroute : turnRoute methods (inputs.foldl (turn methods) record) input = .template) :
    (answeredState methods (inputs.foldl (turn methods) record) input).responseText =
      some ((lastNotice inputs).getD (domainText
        (signalOf methods
          (decidedState methods (inputs.foldl (turn methods) record) input).domain "")
        (signalOf methods
          (decidedState methods (inputs.foldl (turn methods) record) input).turnRelation ""))) := by
  have hcarried : (inputs.foldl (turn methods) record).stateJson.bind StatePayload.responseText =
      lastNotice inputs := stateJson_responseText hfresh inputs
  generalize inputs.foldl (turn methods) record = last at *
  cases turn_cases methods last input with
  | template hrules hpolicy _ hanswer =>
    have htext := decidedState_responseText hrules hpolicy
    rw [hcarried] at htext
    rw [hanswer, templateResponseNode, templateText, htext]
    dsimp only
    cases hnotice : lastNotice inputs with
    | none => rfl
    | some text => rw [orElse, if_neg (lastNotice_ne_empty hnotice), Option.getD_some]
  | rulesAnswer _ hother => rw [hroute] at hother; cases hother
  | handoffRequest _ hother => rw [hroute] at hother; cases hother
  | policyAnswer _ _ hother => rw [hroute] at hother; cases hother
  | generation _ _ hother => rw [hroute] at hother; cases hother
  | policyHandoff _ _ hother => rw [hroute] at hother; cases hother

def greeting : TurnInput where
  userInput := "Hello"
  chatId := 1
  hasMemory := false
  classification := .ok
    { intent := "other"
      cta := "none"
      features := []
      topic := "other"
      domain := "greeting"
      turnRelation := "new_topic"
      shouldSearchKb := false
      shouldGenerateAnswer := false
      shouldOfferManager := false }
  toolRun := .error "ToolNotFoundError"
  generation := .ok ""
  delivery := .sent
  incidentTicketId := "t-1"
  raises _ := false

/-- A client whose greeting follows an answer that was not delivered. -/
theorem template_answer_greeting : (answeredState asciiMethods
    ([{ askPrice with delivery := .refused }].foldl (turn asciiMethods) freshThread)
      greeting).responseText = some sendFailedText := by
  rw [template_answer rfl (by decide +kernel)]
  rfl

end CrmBot.Conversation
