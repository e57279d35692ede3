import CrmBot.Conversation.LifecycleProgress
import CrmBot.Conversation.CarriedFlags
import CrmBot.Library.Streaks

/-! The repeat count of a dialog.

The count is kept next to the last intent and the last topic, and each turn compares its
own with these two only. It is the streak of the messages that were classified and saved:
the number of the latest ones that each share the intent or the topic of the one before. -/

namespace CrmBot.Conversation

open Runs Streaks CrmBot.Python

/-- A message shares its intent or its topic with an earlier one. -/
def SharesSignal (later earlier : String × String) : Prop :=
  later.1 = earlier.1 ∨ later.2 = earlier.2

section Turn

variable (methods : StrMethods) (record : ThreadRecord) (input : TurnInput)

/-- The intent and the topic that the policy remembers of the message. -/
def signalOfTurn : Option (String × String) :=
  if (ruledState methods record input).decision = some .proceedToLlm ∧
      input.misclassifies = false then
    (decidedState methods record input).dialogState.bind fun dialogState =>
      dialogState.lastIntent.bind fun intent => dialogState.lastTopic.map fun topic =>
        (intent, topic)
  else none

/-- What the saved state remembers of the message. -/
def remembered : List (String × String) :=
  if input.saves then (signalOfTurn methods record input).toList else []

end Turn

/-- A name that is stored and read back as it is. -/
structure Named (methods : StrMethods) (name : String) : Prop where
  ne_empty : name ≠ ""
  strip_eq : strip name = name
  lower_eq : methods.lower name = name

/-- The dialog state remembers the streak of the signals, which are listed with the latest first. -/
structure Remembers (methods : StrMethods) (dialogState : Option DialogState)
    (signals : List (String × String)) (count : ℕ) : Prop where
  named : ∀ signal ∈ signals, Named methods signal.1 ∧ Named methods signal.2
  streak : IsStreak SharesSignal signals count
  lastIntent : dialogState.bind DialogState.lastIntent = signals.head?.map Prod.fst
  lastTopic : dialogState.bind DialogState.lastTopic = signals.head?.map Prod.snd
  repeatCount : (dialogState.map DialogState.repeatCount).getD 0 = count

variable {methods : StrMethods} {record : ThreadRecord} {input : TurnInput}

/-! Names. -/

theorem named_of_letters (hnames : KeepsNames methods) {name : String} (hne : name ≠ "")
    (hstrip : strip name = name)
    (hletters : (name.toList.all fun c => c.isLower || c == '_') = true) : Named methods name :=
  ⟨hne, hstrip, hnames.lower_eq hletters⟩

theorem named_topic (hnames : KeepsNames methods) (topic : Topic) : Named methods topic.value := by
  refine named_of_letters hnames ?_ ?_ ?_ <;> cases topic <;> decide +kernel

theorem named_intent (hnames : KeepsNames methods) (intent : Intent) :
    Named methods intent.value := by
  refine named_of_letters hnames ?_ ?_ ?_ <;> cases intent <;> decide +kernel

theorem Named.optionalText {name : String} (h : Named methods name) :
    optionalText (some name) = some name := by
  rw [Conversation.optionalText, Option.bind_some, h.strip_eq, if_neg h.ne_empty]

theorem Named.normalizedPreviousValue {name : String} (h : Named methods name) :
    normalizedPreviousValue methods (some name) = name := by
  rw [Conversation.normalizedPreviousValue, normalizedValue, Option.getD_some, h.strip_eq,
    h.lower_eq]

/-! Dialog states. -/

theorem remembers_none : Remembers methods none [] 0 where
  named := List.forall_mem_nil _
  streak := isStreak_nil
  lastIntent := rfl
  lastTopic := rfl
  repeatCount := rfl

theorem remembers_default (lifecycle : String) :
    Remembers methods (some (defaultDialogState lifecycle)) [] 0 where
  named := List.forall_mem_nil _
  streak := isStreak_nil
  lastIntent := rfl
  lastTopic := rfl
  repeatCount := rfl

variable {signals : List (String × String)} {count : ℕ}

theorem Remembers.eq_nil (h : Remembers methods none signals count) : signals = [] ∧ count = 0 := by
  have hhead := h.lastIntent
  cases signals with
  | nil => exact ⟨rfl, Nat.le_zero.mp h.streak.le_length⟩
  | cons signal rest => cases hhead

/-- What is remembered does not change when the dialog state is read. -/
theorem Remembers.merge {dialogState : Option DialogState}
    (h : Remembers methods dialogState signals count) (lifecycle : String) :
    Remembers methods (some (mergeDialogState dialogState lifecycle)) signals count := by
  cases dialogState with
  | none =>
    obtain ⟨rfl, rfl⟩ := h.eq_nil
    exact remembers_default lifecycle
  | some dialogState =>
    refine ⟨h.named, h.streak, ?_, ?_, h.repeatCount⟩
    · change optionalText dialogState.lastIntent = _
      rw [show dialogState.lastIntent = signals.head?.map Prod.fst from h.lastIntent]
      cases signals with
      | nil => rfl
      | cons signal rest => exact (h.named signal List.mem_cons_self).1.optionalText
    · change optionalText dialogState.lastTopic = _
      rw [show dialogState.lastTopic = signals.head?.map Prod.snd from h.lastTopic]
      cases signals with
      | nil => rfl
      | cons signal rest => exact (h.named signal List.mem_cons_self).2.optionalText

theorem Remembers.mark {dialogState : DialogState}
    (h : Remembers methods (some dialogState) signals count) (pending : Bool) :
    Remembers methods (some (markHandoffConfirmation pending dialogState)) signals count :=
  ⟨h.named, h.streak, h.lastIntent, h.lastTopic, h.repeatCount⟩

/-- The count of a message continues the streak, or starts a new one. -/
theorem Remembers.isStreak_cons (hnames : KeepsNames methods) {previous : DialogState}
    (h : Remembers methods (some previous) signals count) {intent topic : String}
    (hintent : intent ≠ "") (htopic : topic ≠ "") :
    ∃ next : ℕ, IsStreak SharesSignal ((intent, topic) :: signals) next ∧
      calculateRepeatCount methods previous intent topic = next := by
  have hlastIntent : previous.lastIntent = signals.head?.map Prod.fst := h.lastIntent
  have hlastTopic : previous.lastTopic = signals.head?.map Prod.snd := h.lastTopic
  have hcount : previous.repeatCount = count := h.repeatCount
  unfold calculateRepeatCount
  rw [hlastIntent, hlastTopic, hcount]
  cases signals with
  | nil =>
    have hnone : normalizedPreviousValue methods none = "" := by
      unfold normalizedPreviousValue normalizedValue
      rw [Option.getD_none, show strip "" = "" by decide]
      exact hnames "" (List.forall_mem_nil _)
    refine ⟨1, isStreak_singleton, if_neg ?_⟩
    rw [List.head?_nil, Option.map_none, Option.map_none, hnone]
    exact not_or.mpr ⟨hintent, htopic⟩
  | cons signal rest =>
    obtain ⟨hnamedIntent, hnamedTopic⟩ := h.named signal List.mem_cons_self
    rw [List.head?_cons, Option.map_some, Option.map_some, hnamedIntent.normalizedPreviousValue,
      hnamedTopic.normalizedPreviousValue]
    by_cases hshares : SharesSignal (intent, topic) signal
    · exact ⟨count + 1, h.streak.cons_linked hshares, if_pos hshares⟩
    · exact ⟨1, isStreak_cons_of_not_linked hshares, if_neg hshares⟩

theorem Remembers.build (hnames : KeepsNames methods) {previous : DialogState}
    (h : Remembers methods (some previous) signals count) (turnSignals : TurnSignals)
    (hintent : Named methods turnSignals.intent) (htopic : Named methods turnSignals.topic) :
    ∃ next : ℕ, Remembers methods (some (buildDialogStateUpdate methods previous turnSignals))
      ((turnSignals.intent, turnSignals.topic) :: signals) next := by
  obtain ⟨next, hstreak, hnext⟩ := h.isStreak_cons hnames hintent.ne_empty htopic.ne_empty
  refine ⟨next, ?_, hstreak, rfl, rfl, hnext⟩
  rw [List.forall_mem_cons]
  exact ⟨⟨hintent, htopic⟩, h.named⟩

/-! Turns. -/

/-- The dialog state that is saved with the thread. -/
def ThreadRecord.dialogState (record : ThreadRecord) : Option DialogState :=
  record.stateJson.bind StatePayload.dialogState

theorem loadedState_remembers (h : Remembers methods record.dialogState signals count) :
    Remembers methods (loadedState record input).dialogState signals count := by
  unfold loadedState loadStateNode
  unfold ThreadRecord.dialogState at h
  cases hjson : record.stateJson with
  | some saved =>
    rw [hjson] at h
    exact h
  | none =>
    rw [hjson] at h
    obtain ⟨rfl, rfl⟩ := h.eq_nil
    dsimp only
    split_ifs
    · exact remembers_default _
    · exact remembers_none

theorem ruledState_remembers (h : Remembers methods record.dialogState signals count) :
    Remembers methods (ruledState methods record input).dialogState signals count := by
  have hloaded : Remembers methods (loadedState record input).dialogState signals count :=
    loadedState_remembers h
  have hmarked (pending : Bool) := (hloaded.merge "cold").mark pending
  have hruled := ruledState_ruled methods record input
  generalize ruledState methods record input = ruled at *
  cases hruled with
  | silent => exact hloaded
  | request => exact hmarked false
  | confirm => exact hmarked false
  | decline => exact hmarked false
  | takeBack => exact hmarked false
  | question => exact hmarked true
  | proceed => exact hloaded

theorem contextDialogState_remembers {state : AgentState}
    (h : Remembers methods state.dialogState signals count) :
    Remembers methods (some (PolicyDecisionContext.fromState state).dialogState) signals count := by
  unfold PolicyDecisionContext.fromState
  cases hdialog : state.dialogState with
  | none =>
    rw [hdialog] at h
    obtain ⟨rfl, rfl⟩ := h.eq_nil
    exact remembers_default "cold"
  | some dialogState =>
    rw [hdialog] at h
    exact h.merge "cold"

/-- A policy that is asked remembers the message, whatever it decides. -/
theorem Decided.remembers (hnames : KeepsNames methods) {state decided : AgentState}
    (h : Decided methods state decided)
    (hfresh : ¬ (state.decision = some .respond ∧ isFilled state.responseText = true))
    (hstate : Remembers methods state.dialogState signals count) :
    ∃ signal next, Remembers methods decided.dialogState (signal :: signals) next := by
  have hcontext := contextDialogState_remembers hstate
  cases h with
  | technical hdecision hfilled => exact absurd ⟨hdecision, hfilled⟩ hfresh
  | template =>
    have htopic (domain : String) : Named methods (if domain = "ambiguous" then
        orElse (PolicyDecisionContext.fromState state).dialogState.lastTopic "other"
        else "other") := by
      have hother := named_topic hnames .other
      split_ifs
      · rw [show (PolicyDecisionContext.fromState state).dialogState.lastTopic =
          signals.head?.map Prod.snd from hcontext.lastTopic]
        cases signals with
        | nil => exact hother
        | cons signal rest =>
          obtain ⟨-, hnamed⟩ := hcontext.named signal List.mem_cons_self
          unfold orElse
          dsimp only [List.head?_cons, Option.map_some]
          rw [if_neg hnamed.ne_empty]
          exact hnamed
      · exact hother
    obtain ⟨next, hnext⟩ := hcontext.build hnames ⟨_, _, .none, _, .respondTemplate⟩
      (named_intent hnames .other) (htopic (signalOf methods state.domain "business"))
    exact ⟨_, next, hnext.merge _⟩
  | question _ _ intent topic cta =>
    obtain ⟨next, hnext⟩ := hcontext.build hnames ⟨_, _, cta, _, .respond⟩
      (named_intent hnames intent) (named_topic hnames topic)
    exact ⟨_, next, (hnext.merge _).mark true⟩
  | followed _ intent topic decided =>
    obtain ⟨next, hnext⟩ := hcontext.build hnames ⟨_, _, decided.cta, _, decided.decision⟩
      (named_intent hnames intent) (named_topic hnames topic)
    exact ⟨_, next, hnext.merge _⟩

theorem classifiedState_remembers (h : Remembers methods record.dialogState signals count) :
    Remembers methods (classifiedState methods record input).dialogState signals count := by
  rw [classifiedState, intentExtractorNode_dialogState]
  exact ruledState_remembers h

/-- A message that is classified is new to the policy. -/
theorem classifiedState_fresh (hrules : (ruledState methods record input).decision =
    some .proceedToLlm) (hclassifies : input.misclassifies = false) :
    ¬ ((classifiedState methods record input).decision = some .respond ∧
      isFilled (classifiedState methods record input).responseText = true) := by
  obtain ⟨-, -, hkeeps⟩ := classifiedState_carried methods record input
  rintro ⟨hrespond, -⟩
  rw [(hkeeps hclassifies).1, hrules] at hrespond
  cases hrespond

theorem decidedState_remembers_of_misclassifies
    (h : Remembers methods record.dialogState signals count)
    (hfails : input.misclassifies = true) :
    Remembers methods (decidedState methods record input).dialogState signals count := by
  have hdecided := decidedState_decided methods record input
  have hstate : Remembers methods (classifiedState methods record input).dialogState signals
      count := classifiedState_remembers h
  have hanswered : (classifiedState methods record input).decision = some .respond ∧
      isFilled (classifiedState methods record input).responseText = true := by
    obtain ⟨error, hclassified⟩ := classifiedState_of_misclassifies methods record hfails
    rw [hclassified]
    unfold classificationFailure
    dsimp only
    split_ifs <;> decide +kernel
  generalize decidedState methods record input = decided at *
  cases hdecided with
  | technical => exact hstate
  | template hfresh => exact absurd hanswered hfresh
  | question hfresh => exact absurd hanswered hfresh
  | followed hfresh => exact absurd hanswered hfresh

theorem signalOfTurn_of_not_proceed
    (hrules : (ruledState methods record input).decision ≠ some .proceedToLlm) :
    signalOfTurn methods record input = none :=
  if_neg fun h => hrules h.1

theorem signalOfTurn_eq_some (hrules : (ruledState methods record input).decision =
    some .proceedToLlm) (hclassifies : input.misclassifies = false)
    {signal : String × String} (hdecided : Remembers methods
      (decidedState methods record input).dialogState (signal :: signals) count) :
    signalOfTurn methods record input = some signal := by
  have hintent := hdecided.lastIntent
  have htopic := hdecided.lastTopic
  rw [signalOfTurn, if_pos ⟨hrules, hclassifies⟩]
  cases hdialog : (decidedState methods record input).dialogState with
  | none =>
    rw [hdialog] at hintent
    cases hintent
  | some dialogState =>
    rw [hdialog, Option.bind_some, List.head?_cons, Option.map_some] at hintent htopic
    rw [Option.bind_some, hintent, Option.bind_some, htopic, Option.map_some]

/-- What the policy leaves in the dialog state. -/
theorem decidedState_remembers (hnames : KeepsNames methods)
    (h : Remembers methods record.dialogState signals count)
    (hrules : (ruledState methods record input).decision = some .proceedToLlm) :
    ∃ next, Remembers methods (decidedState methods record input).dialogState
      ((signalOfTurn methods record input).toList ++ signals) next := by
  by_cases hfails : input.misclassifies = true
  · have hnone : signalOfTurn methods record input = none :=
      if_neg fun hsignal => Bool.false_ne_true (hsignal.2.symm.trans hfails)
    rw [hnone]
    exact ⟨count, decidedState_remembers_of_misclassifies h hfails⟩
  · have hclassifies := Bool.eq_false_iff.mpr hfails
    obtain ⟨signal, next, hnext⟩ := (decidedState_decided methods record input).remembers hnames
      (classifiedState_fresh hrules hclassifies) (classifiedState_remembers h)
    rw [signalOfTurn_eq_some hrules hclassifies hnext]
    exact ⟨next, hnext⟩

theorem answeredState_remembers (hnames : KeepsNames methods)
    (h : Remembers methods record.dialogState signals count) (input : TurnInput) :
    ∃ next, Remembers methods (answeredState methods record input).dialogState
      ((signalOfTurn methods record input).toList ++ signals) next := by
  have hruled : Remembers methods (ruledState methods record input).dialogState signals count :=
    ruledState_remembers h
  cases turn_cases methods record input with
  | rulesAnswer hrules _ hanswer =>
    rw [hanswer, signalOfTurn_of_not_proceed (by rw [hrules]; simp)]
    exact ⟨count, hruled⟩
  | handoffRequest hrules _ hanswer =>
    rw [hanswer, signalOfTurn_of_not_proceed (by rw [hrules]; simp)]
    exact ⟨count, hruled⟩
  | policyAnswer hrules _ _ hanswer =>
    rw [hanswer]
    exact decidedState_remembers hnames h hrules
  | template hrules _ _ hanswer =>
    rw [hanswer]
    exact decidedState_remembers hnames h hrules
  | generation hrules _ _ hanswer =>
    rw [hanswer, responseGeneratorNode_dialogState]
    exact decidedState_remembers hnames h hrules
  | policyHandoff hrules _ _ hanswer =>
    rw [hanswer]
    exact decidedState_remembers hnames h hrules

theorem turn_remembers (hnames : KeepsNames methods)
    (h : Remembers methods record.dialogState signals count) :
    ∃ next, Remembers methods (turn methods record input).dialogState
      ((remembered methods record input).reverse ++ signals) next := by
  unfold remembered
  split_ifs with hsaves
  · obtain ⟨next, hnext⟩ := answeredState_remembers hnames h input
    have hdialog : (turn methods record input).dialogState =
        (answeredState methods record input).dialogState := by
      rw [ThreadRecord.dialogState, turn_stateJson hsaves, Option.bind_some,
        persistedPayload_dialogState, finalState, responderNode_dialogState]
    rw [hdialog, show (signalOfTurn methods record input).toList.reverse =
      (signalOfTurn methods record input).toList by cases signalOfTurn methods record input <;> rfl]
    exact ⟨next, hnext⟩
  · rw [ThreadRecord.dialogState, turn_stateJson_of_not_saves hsaves]
    exact ⟨count, h⟩

/-! The third time. -/

theorem normalizeIntent_value (hnames : KeepsNames methods) (intent : Intent) :
    normalizeIntent methods (some intent.value) = intent := by
  have hnamed := named_intent hnames intent
  unfold normalizeIntent normalizedValue
  rw [Option.getD_some, hnamed.strip_eq, hnamed.lower_eq]
  cases intent <;> decide

theorem Topic.value_injective {first second : Topic} (h : first.value = second.value) :
    first = second := by
  revert h
  cases first <;> cases second <;> decide

/-- A repeat that is far enough calls for a manager, whatever else is known. -/
theorem getDecision_of_repeat {lifecycle : Option String} {intent : Intent}
    {features : Option FeatureMap} {dialogState : DialogState} (hnames : KeepsNames methods)
    (h : isRepeatEscalation (resolveTopic methods (some intent.value) features)
      (calculateRepeatCount methods dialogState intent.value
        (resolveTopic methods (some intent.value) features).value) = true) :
    (getDecision methods lifecycle (some intent.value) features dialogState).decision =
      .escalateToHuman := by
  unfold getDecision
  dsimp only
  rw [normalizeIntent_value hnames]
  split
  · next handoff hhandoff =>
    obtain ⟨stage, rfl⟩ := requiresHumanHandoff_decision hhandoff
    rfl
  · next hnone =>
    unfold requiresHumanHandoff at hnone
    split_ifs at hnone

/-- A policy that does not ask on the third time was asked already. -/
theorem Decided.asks_of_repeat (hnames : KeepsNames methods) {state decided : AgentState}
    (h : Decided methods state decided) (hasked : state.pending = false)
    (hfresh : ¬ (state.decision = some .respond ∧ isFilled state.responseText = true))
    (htemplate : decided.decision ≠ some .respondTemplate)
    (hstate : Remembers methods state.dialogState signals count) {intent : String} {topic : Topic}
    (hintent : decided.dialogState.bind DialogState.lastIntent = some intent)
    (hlast : decided.dialogState.bind DialogState.lastTopic = some topic.value)
    (htopic : topic.isHighIntent = true) {next : ℕ}
    (hstreak : IsStreak SharesSignal ((intent, topic.value) :: signals) next)
    (hthird : 3 ≤ next) :
    decided.decision = some .respond ∧
      decided.responseText = some (buildHandoffConfirmationText state.userInput) := by
  have hcontext := contextDialogState_remembers hstate
  cases h with
  | technical hdecision hfilled => exact absurd ⟨hdecision, hfilled⟩ hfresh
  | template => exact absurd rfl htemplate
  | question => exact ⟨rfl, rfl⟩
  | followed _ intent' topic' decision hnormal hresolved hdecision hescalates =>
    have hnamedIntent := named_intent hnames intent'
    have hnamedTopic := named_topic hnames topic'
    obtain ⟨repeats, hrepeats, hcount⟩ := hcontext.isStreak_cons hnames hnamedIntent.ne_empty
      hnamedTopic.ne_empty
    obtain ⟨built, hbuilt⟩ := hcontext.build hnames ⟨_, _, decision.cta, _, decision.decision⟩
      hnamedIntent hnamedTopic
    obtain rfl : intent'.value = intent :=
      Option.some.inj ((hbuilt.merge "cold").lastIntent.symm.trans hintent)
    obtain rfl : topic' = topic :=
      Topic.value_injective (Option.some.inj ((hbuilt.merge "cold").lastTopic.symm.trans hlast))
    obtain rfl : repeats = next := hrepeats.unique hstreak
    have hrepeat : isRepeatEscalation topic' (calculateRepeatCount methods
        (PolicyDecisionContext.fromState state).dialogState intent'.value topic'.value) = true := by
      rw [hcount, isRepeatEscalation, htopic, Bool.true_and, decide_eq_true_eq]
      exact Int.ofNat_le.mpr hthird
    have hescalate : decision.decision = .escalateToHuman := by
      rw [hdecision]
      rw [hresolved] at hrepeat
      exact getDecision_of_repeat hnames hrepeat
    exact absurd (hasked.symm.trans (hescalates hescalate)) Bool.false_ne_true

/-- A message that stays on a topic of the product for the third time is answered by the
question. -/
theorem answeredState_asks (hnames : KeepsNames methods)
    (h : Remembers methods record.dialogState signals count) (hmessage : input.userInput ≠ "")
    {intent : String} {topic : Topic} {next : ℕ}
    (hsignal : signalOfTurn methods record input = some (intent, topic.value))
    (hroute : turnRoute methods record input ≠ .template) (htopic : topic.isHighIntent = true)
    (hstreak : IsStreak SharesSignal ((intent, topic.value) :: signals) next)
    (hthird : 3 ≤ next) :
    (answeredState methods record input).responseText =
      some (buildHandoffConfirmationText input.userInput) := by
  have hproceeds : (ruledState methods record input).decision = some .proceedToLlm ∧
      input.misclassifies = false := by
    by_contra hnot
    rw [signalOfTurn, if_neg hnot] at hsignal
    cases hsignal
  obtain ⟨hrules, hclassifies⟩ := hproceeds
  have hdecided := decidedState_remembers hnames h hrules
  obtain ⟨repeats, hrepeats⟩ := hdecided
  rw [hsignal] at hrepeats
  have hasked : (classifiedState methods record input).pending = false := by
    rw [classifiedState_pending]
    exact Bool.eq_false_iff.mpr fun hpending => hmessage (silent_of_pending hrules hpending).2
  have htemplate : (decidedState methods record input).decision ≠ some .respondTemplate := by
    intro hdecision
    apply hroute
    rw [turnRoute_of_proceed hrules, hdecision]
  obtain ⟨hdecision, htext⟩ := (decidedState_decided methods record input).asks_of_repeat hnames
    hasked (classifiedState_fresh hrules hclassifies) htemplate (classifiedState_remembers h)
    hrepeats.lastIntent hrepeats.lastTopic htopic hstreak hthird
  have hanswer : answeredState methods record input = decidedState methods record input := by
    rw [answeredState, turnRoute_of_proceed hrules, hdecision]
    rfl
  rw [hanswer, htext, classifiedState_userInput]

/-- The repeat count of a dialog that started without a saved state is the streak of its
messages. The third message of a streak is answered by the question when its topic is one of the
product and no template answers it. -/
theorem repeatCount_isStreak (hnames : KeepsNames methods) {record : ThreadRecord}
    (hfresh : record.stateJson = none) (inputs : List TurnInput) :
    ∃ count : ℕ,
      IsStreak SharesSignal (outputs (turn methods) (remembered methods) record inputs).reverse
        count ∧
      (((inputs.foldl (turn methods) record).dialogState.map DialogState.repeatCount).getD 0 =
        count) ∧
      ∀ (input : TurnInput) (intent : String) (topic : Topic) (next : ℕ), input.userInput ≠ "" →
        signalOfTurn methods (inputs.foldl (turn methods) record) input =
          some (intent, topic.value) →
        turnRoute methods (inputs.foldl (turn methods) record) input ≠ .template →
        topic.isHighIntent = true →
        IsStreak SharesSignal ((intent, topic.value) ::
          (outputs (turn methods) (remembered methods) record inputs).reverse) next → 3 ≤ next →
        (answeredState methods (inputs.foldl (turn methods) record) input).responseText =
          some (buildHandoffConfirmationText input.userInput) := by
  have hrun : ∃ count, Remembers methods (inputs.foldl (turn methods) record).dialogState
      (outputs (turn methods) (remembered methods) record inputs).reverse count := by
    induction inputs using List.reverseRecOn with
    | nil =>
      refine ⟨0, ?_⟩
      rw [List.foldl_nil, ThreadRecord.dialogState, hfresh]
      exact remembers_none
    | append_singleton inputs last ih =>
      obtain ⟨count, hcount⟩ := ih
      rw [outputs_append_singleton, List.reverse_append, List.foldl_append, List.foldl_cons,
        List.foldl_nil]
      exact turn_remembers hnames hcount
  obtain ⟨count, hcount⟩ := hrun
  refine ⟨count, hcount.streak, hcount.repeatCount, ?_⟩
  intro input intent topic next hmessage hsignal hroute htopic hstreak hthird
  exact answeredState_asks hnames hcount hmessage hsignal hroute htopic hstreak hthird

/-! A client who asks for the price three times. -/

theorem askedTwice_remembered :
    (outputs (turn asciiMethods) (remembered asciiMethods) freshThread
      [askPrice, askPrice]).reverse = [("pricing", "pricing"), ("pricing", "pricing")] := by
  decide +kernel

theorem isStreak_three :
    IsStreak SharesSignal [("pricing", "pricing"), ("pricing", "pricing"), ("pricing", "pricing")]
      3 := by
  have hshares : SharesSignal ("pricing", "pricing") ("pricing", "pricing") := Or.inl rfl
  exact (isStreak_singleton.cons_linked hshares).cons_linked hshares

theorem repeatCount_isStreak_askPrice :
    (answeredState asciiMethods ([askPrice, askPrice].foldl (turn asciiMethods) freshThread)
      askPrice).responseText = some (buildHandoffConfirmationText "Price?") := by
  have hfresh : freshThread.stateJson = none := rfl
  obtain ⟨count, -, -, hasks⟩ :=
    repeatCount_isStreak asciiMethods_keepsNames hfresh [askPrice, askPrice]
  rw [askedTwice_remembered] at hasks
  refine hasks askPrice "pricing" .pricing 3 ?_ ?_ ?_ rfl isStreak_three (Nat.le_refl 3)
  · decide
  · decide +kernel
  · decide +kernel

end CrmBot.Conversation
