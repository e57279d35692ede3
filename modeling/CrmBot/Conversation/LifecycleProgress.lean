import CrmBot.Conversation.HandoffConsent

/-! The lifecycle of a client only goes forward.

A state that is lost leaves the row as it was, so that the order also holds in runs
whose saves fail. -/

namespace CrmBot.Conversation

open Runs CrmBot.Python

/-- `str.lower` leaves the names of the policy as they are. -/
def KeepsNames (methods : StrMethods) : Prop :=
  ∀ text : String, (∀ c ∈ text.toList, c.isLower = true ∨ c = '_') → methods.lower text = text

/-- The lifecycle that the next turn of the thread loads. -/
def ThreadRecord.lifecycle (record : ThreadRecord) : Option String :=
  match record.stateJson with
  | some saved => saved.lifecycle
  | none => record.analytics.lifecycle

def ThreadRecord.stage (methods : StrMethods) (record : ThreadRecord) : Lifecycle :=
  normalizeLifecycle methods record.lifecycle

/-- The order of the lifecycles. -/
def Lifecycle.canBecome : Lifecycle → Lifecycle → Bool
  | .cold, .activeClient => false
  | .cold, _ => true
  | .interested, .cold | .interested, .activeClient => false
  | .interested, _ => true
  | .warm, .cold | .warm, .interested | .warm, .activeClient => false
  | .warm, _ => true
  | .activeClient, .cold | .activeClient, .interested | .activeClient, .warm => false
  | .activeClient, _ => true
  | .handoffToManager, later => later = .handoffToManager
  | .angry, later => later = .angry

variable {methods : StrMethods} {record : ThreadRecord} {input : TurnInput}

theorem Lifecycle.canBecome_refl (stage : Lifecycle) : stage.canBecome stage = true := by
  cases stage <;> rfl

theorem Lifecycle.canBecome_trans {first second third : Lifecycle}
    (hfirst : first.canBecome second = true) (hsecond : second.canBecome third = true) :
    first.canBecome third = true := by
  revert hfirst hsecond
  cases first <;> cases second <;> cases third <;> decide

/-! Decisions. -/

theorem canBecome_lookupTransition (stage : Lifecycle) (topic : Topic) :
    stage.canBecome (lookupTransition stage topic).lifecycle = true := by
  cases stage <;> cases topic <;> rfl

theorem canBecome_applySoftRepeatProgression {stage : Lifecycle} (topic : Topic)
    (repeatCount : Int) {decided : PolicyDecision}
    (h : stage.canBecome decided.lifecycle = true) :
    stage.canBecome (applySoftRepeatProgression stage topic repeatCount decided).lifecycle =
      true := by
  unfold applySoftRepeatProgression
  split_ifs
  · exact h
  · exact h
  · cases stage <;> first | rfl | exact h

theorem canBecome_activeClientDecision {stage : Lifecycle} {decided : PolicyDecision}
    (h : stage.canBecome decided.lifecycle = true) :
    stage.canBecome (activeClientDecision stage decided).lifecycle = true := by
  unfold activeClientDecision
  split_ifs with hactive
  · exact h
  · rw [not_not.mp hactive]
    rfl

theorem llmTopicDecision_lifecycle (topic : Topic) (decided : PolicyDecision) :
    (llmTopicDecision topic decided).lifecycle = decided.lifecycle := by
  unfold llmTopicDecision
  split_ifs <;> rfl

theorem canBecome_requiresHumanHandoff {stage : Lifecycle} {intent : Intent} {topic : Topic}
    {repeatCount : Int} {features : Option FeatureMap} {handoff : PolicyDecision}
    (h : requiresHumanHandoff stage intent topic repeatCount features = some handoff) :
    stage.canBecome handoff.lifecycle = true ∧ handoff.lifecycle.isHandoff = true := by
  unfold requiresHumanHandoff at h
  split_ifs at h with hstage
  · cases h
    exact ⟨stage.canBecome_refl, hstage⟩
  all_goals cases h
  · unfold handoffLifecycleForSignal humanHandoffDecision
    dsimp only
    split_ifs <;> cases stage <;> first | exact ⟨rfl, rfl⟩ | exact absurd rfl hstage
  · cases stage <;> first | exact ⟨rfl, rfl⟩ | exact absurd rfl hstage
  · cases stage <;> first | exact ⟨rfl, rfl⟩ | exact absurd rfl hstage

theorem getDecision_canBecome (lifecycle intent : Option String) (features : Option FeatureMap)
    (dialogState : DialogState) :
    (normalizeLifecycle methods lifecycle).canBecome
      (getDecision methods lifecycle intent features dialogState).lifecycle = true := by
  unfold getDecision
  dsimp only
  split
  · next handoff hhandoff => exact (canBecome_requiresHumanHandoff hhandoff).1
  · rw [llmTopicDecision_lifecycle]
    exact canBecome_activeClientDecision
      (canBecome_applySoftRepeatProgression _ _ (canBecome_lookupTransition _ _))

/-- A decision that is answered by the generator does not move the client to a handoff. -/
theorem getDecision_isHandoff {lifecycle intent : Option String} {features : Option FeatureMap}
    {dialogState : DialogState}
    (h : (getDecision methods lifecycle intent features dialogState).decision ≠ .escalateToHuman) :
    (getDecision methods lifecycle intent features dialogState).lifecycle.isHandoff = false := by
  unfold getDecision at h ⊢
  dsimp only at h ⊢
  split
  · next handoff hhandoff =>
    obtain ⟨stage, rfl⟩ := requiresHumanHandoff_decision hhandoff
    simp [hhandoff, humanHandoffDecision] at h
  · next hnone =>
    have hstage : (normalizeLifecycle methods lifecycle).isHandoff = false := by
      unfold requiresHumanHandoff at hnone
      split_ifs at hnone with hstage
      exact Bool.eq_false_iff.mpr hstage
    rw [llmTopicDecision_lifecycle]
    generalize normalizeLifecycle methods lifecycle = stage at *
    generalize resolveTopic _ _ _ = topic
    generalize calculateRepeatCount _ _ _ _ = repeatCount
    unfold activeClientDecision applySoftRepeatProgression
    split_ifs
    · revert hstage
      cases stage <;> cases topic <;> decide
    · revert hstage
      cases stage <;> cases topic <;> decide
    · revert hstage
      cases stage <;> cases topic <;> decide
    · rfl

/-! Names. -/

theorem KeepsNames.lower_eq (hnames : KeepsNames methods) {text : String}
    (hletters : (text.toList.all fun c => c.isLower || c == '_') = true) :
    methods.lower text = text := by
  apply hnames
  simpa only [List.all_eq_true, Bool.or_eq_true, beq_iff_eq] using hletters

theorem normalizeLifecycle_value (hnames : KeepsNames methods) (stage : Lifecycle) :
    normalizeLifecycle methods (some stage.value) = stage := by
  have hlower : methods.lower (strip stage.value) = stage.value := by
    have hstrip : strip stage.value = stage.value := by cases stage <;> decide +kernel
    rw [hstrip]
    apply hnames.lower_eq
    cases stage <;> decide +kernel
  unfold normalizeLifecycle normalizedValue
  rw [Option.getD_some, hlower]
  cases stage <;> decide

/-- No lifecycle is the first one. -/
theorem normalizeLifecycle_orElse (hnames : KeepsNames methods) (lifecycle : Option String) :
    normalizeLifecycle methods (some (orElse lifecycle "cold")) =
      normalizeLifecycle methods lifecycle := by
  have hempty : normalizeLifecycle methods (some "") = .cold := by
    have hlower : methods.lower (strip "") = "" := by
      rw [show strip "" = "" by decide]
      exact hnames.lower_eq rfl
    unfold normalizeLifecycle normalizedValue
    rw [Option.getD_some, hlower]
    decide
  have hcold := normalizeLifecycle_value hnames .cold
  cases lifecycle with
  | none => exact hcold.trans hempty.symm
  | some text =>
    unfold orElse
    dsimp only
    split_ifs with htext
    · rw [htext, hempty]
      exact hcold
    · rfl

/-! Turns. -/

/-- The rules leave the lifecycle that the turn loaded. -/
theorem ruledState_lifecycle (methods : StrMethods) (record : ThreadRecord) (input : TurnInput) :
    (ruledState methods record input).lifecycle = (loadedState record input).lifecycle := by
  have h := ruledState_ruled methods record input
  generalize ruledState methods record input = ruled at *
  cases h <;> rfl

theorem classifiedState_lifecycle (methods : StrMethods) (record : ThreadRecord)
    (input : TurnInput) : (classifiedState methods record input).lifecycle =
      (loadedState record input).lifecycle := by
  rw [← ruledState_lifecycle, classifiedState, intentExtractorNode]
  split_ifs
  · rfl
  · split <;> rfl

/-- The policy leaves the lifecycle, or decides the next one. -/
theorem Decided.lifecycle_eq_or {state decided : AgentState} (h : Decided methods state decided) :
    decided.lifecycle = state.lifecycle ∨
      ∃ decision : PolicyDecision, decided.lifecycle = some decision.lifecycle.value ∧
        decided.decision = some decision.decision ∧
        (normalizeLifecycle methods (some (orElse state.lifecycle "cold"))).canBecome
          decision.lifecycle = true ∧
        (decision.decision ≠ .escalateToHuman → decision.lifecycle.isHandoff = false) := by
  cases h with
  | technical => exact .inl rfl
  | template =>
    left
    dsimp only [PolicyDecisionResult.patch, templatePolicyResult]
    rw [if_neg (not_not.mpr rfl)]
  | question =>
    left
    dsimp only [PolicyDecisionResult.patch, handoffConfirmationResult]
    rw [if_neg (not_not.mpr rfl)]
  | followed _ intent topic decision hintent htopic hdecision =>
    dsimp only [PolicyDecisionResult.patch, followedDecisionResult]
    split_ifs with hlifecycle
    · refine .inr ⟨decision, rfl, rfl, ?_, ?_⟩
      · rw [hdecision]
        exact getDecision_canBecome _ _ _ _
      · rw [hdecision]
        exact getDecision_isHandoff
    · exact .inl rfl

theorem answeredState_lifecycle (methods : StrMethods) (record : ThreadRecord)
    (input : TurnInput) :
    (answeredState methods record input).lifecycle = (loadedState record input).lifecycle ∨
      (ruledState methods record input).decision = some .proceedToLlm ∧
        (answeredState methods record input).lifecycle =
          (decidedState methods record input).lifecycle := by
  have hruled := ruledState_lifecycle methods record input
  cases turn_cases methods record input with
  | rulesAnswer _ _ hanswer => exact .inl (by rw [hanswer, hruled])
  | handoffRequest _ _ hanswer => exact .inl (by rw [hanswer, ← hruled]; rfl)
  | policyAnswer hrules _ _ hanswer => exact .inr ⟨hrules, by rw [hanswer]⟩
  | template hrules _ _ hanswer => exact .inr ⟨hrules, by rw [hanswer]; rfl⟩
  | generation hrules _ _ hanswer =>
    refine .inr ⟨hrules, ?_⟩
    rw [hanswer, responseGeneratorNode]
    split_ifs
    · split <;> rfl
    · rfl
  | policyHandoff hrules _ _ hanswer => exact .inr ⟨hrules, by rw [hanswer]; rfl⟩

theorem finalState_lifecycle : (finalState methods record input).lifecycle =
    (answeredState methods record input).lifecycle := by
  rw [finalState]
  rcases responderNode_cases input (answeredState methods record input) with
    ⟨-, h⟩ | ⟨-, text, -, h⟩ <;> rw [h]
  rfl

theorem loadedState_lifecycle (record : ThreadRecord) (input : TurnInput) :
    (loadedState record input).lifecycle = record.lifecycle := by
  unfold loadedState loadStateNode ThreadRecord.lifecycle
  cases record.stateJson <;> rfl

/-- A turn leaves the lifecycle, or moves it forward; it moves it to a handoff only without a
message. -/
theorem finalState_stage (hnames : KeepsNames methods) (record : ThreadRecord) (input : TurnInput) :
    (finalState methods record input).lifecycle = record.lifecycle ∨
      ∃ stage : Lifecycle, (finalState methods record input).lifecycle = some stage.value ∧
        (record.stage methods).canBecome stage = true ∧
        (stage.isHandoff = true → input.userInput = "" ∧ Escalates methods record input) := by
  rw [finalState_lifecycle]
  rcases answeredState_lifecycle methods record input with
    hsame | ⟨hrules, hdecided⟩
  · rw [hsame, loadedState_lifecycle]
    exact .inl rfl
  rw [hdecided]
  have hclassified := classifiedState_lifecycle methods record input
  rw [loadedState_lifecycle] at hclassified
  rcases (decidedState_decided methods record input).lifecycle_eq_or with
    hsame | ⟨decision, hlifecycle, hdecision, hforward, hkeeps⟩
  · rw [hsame, hclassified]
    exact .inl rfl
  · refine .inr ⟨decision.lifecycle, hlifecycle, ?_, fun hhandoff => ?_⟩
    · rw [hclassified, normalizeLifecycle_orElse hnames] at hforward
      exact hforward
    · have hescalates : decision.decision = .escalateToHuman := by
        by_contra hne
        rw [hkeeps hne] at hhandoff
        cases hhandoff
      rw [hescalates] at hdecision
      refine ⟨(silent_of_policyHandoff hrules hdecision).2, ?_⟩
      rw [escalates_iff, turnRoute_of_proceed hrules, hdecision]
      exact .inr rfl

theorem turn_lifecycle (methods : StrMethods) (record : ThreadRecord) (input : TurnInput) :
    (turn methods record input).lifecycle = record.lifecycle ∨
      (turn methods record input).lifecycle = (finalState methods record input).lifecycle := by
  by_cases hsaves : input.saves
  · right
    rw [ThreadRecord.lifecycle, turn_stateJson hsaves]
    dsimp only
    unfold persistedPayload
    split_ifs <;> rfl
  · unfold ThreadRecord.lifecycle
    rw [turn_stateJson_of_not_saves hsaves]
    cases hjson : record.stateJson with
    | some saved => exact .inl rfl
    | none =>
      rw [turn_eq, persistRecord]
      dsimp only
      split_ifs
      · exact .inl rfl
      · unfold ThreadAnalytics.update
        cases hfinal : (finalState methods record input).lifecycle with
        | none => exact .inl rfl
        | some lifecycle => exact .inr rfl

/-- The lifecycle of a client never goes back, whatever is said, classified or lost, and it
reaches a handoff only by a turn that hands the dialog over without a message. -/
theorem lifecycle_goes_forward (hnames : KeepsNames methods) (record : ThreadRecord)
    (inputs : List TurnInput) :
    (record.stage methods).canBecome ((inputs.foldl (turn methods) record).stage methods) = true ∧
      (((inputs.foldl (turn methods) record).stage methods).isHandoff = true →
        (record.stage methods).isHandoff = true ∨
          ∃ before silent after, inputs = before ++ silent :: after ∧ silent.userInput = "" ∧
            Escalates methods (before.foldl (turn methods) record) silent) := by
  have hstep (record : ThreadRecord) (input : TurnInput) :
      (turn methods record input).stage methods = record.stage methods ∨
        (record.stage methods).canBecome ((turn methods record input).stage methods) = true ∧
          (((turn methods record input).stage methods).isHandoff = true →
            input.userInput = "" ∧ Escalates methods record input) := by
    unfold ThreadRecord.stage
    rcases turn_lifecycle methods record input with h | h
    · exact .inl (by rw [h])
    · rw [h]
      rcases finalState_stage hnames record input with
        hsame | ⟨stage, hstage, hforward, hhandoff⟩
      · exact .inl (by rw [hsame])
      · rw [hstage, normalizeLifecycle_value hnames]
        exact .inr ⟨hforward, hhandoff⟩
  constructor
  · induction inputs using List.reverseRecOn with
    | nil => exact Lifecycle.canBecome_refl _
    | append_singleton inputs last ih =>
      rw [List.foldl_append, List.foldl_cons, List.foldl_nil]
      rcases hstep (inputs.foldl (turn methods) record) last with hsame | ⟨hforward, -⟩
      · rw [hsame]
        exact ih
      · exact Lifecycle.canBecome_trans ih hforward
  · intro h
    by_cases hstart : (record.stage methods).isHandoff = true
    · exact .inl hstart
    right
    have hcause (record : ThreadRecord) (input : TurnInput)
        (hflag : ((turn methods record input).stage methods).isHandoff = true) :
        (input.userInput = "" ∧ Escalates methods record input) ∨
          (record.stage methods).isHandoff = true ∧ True := by
      rcases hstep record input with hsame | ⟨-, hhandoff⟩
      · exact .inr ⟨hsame ▸ hflag, trivial⟩
      · exact .inl (hhandoff hflag)
    obtain ⟨before, silent, after, hsplit, ⟨hempty, hescalates⟩, -⟩ :=
      exists_cause (fun record : ThreadRecord => (record.stage methods).isHandoff = true) hcause
        hstart h
    exact ⟨before, silent, after, hsplit, hempty, hescalates⟩

/-! A client who asks for the price. -/

theorem toLower_eq_self {c : Char} (h : c.isLower = true ∨ c = '_') : c.toLower = c := by
  rcases h with h | rfl
  · unfold Char.isLower at h
    unfold Char.toLower
    rw [dif_neg]
    rintro ⟨-, hle⟩
    simp only [Bool.and_eq_true, decide_eq_true_eq] at h
    exact absurd (UInt32.le_trans h.1 hle) (by decide)
  · rfl

theorem asciiMethods_keepsNames : KeepsNames asciiMethods := by
  intro text htext
  have hmap : text.toList.map Char.toLower = text.toList :=
    (List.map_congr_left fun c hc => toLower_eq_self (htext c hc)).trans (List.map_id' _)
  change String.ofList (text.toList.map Char.toLower) = text
  rw [hmap, String.ofList_toList]

/-- A message that the classifier takes for a question about the price. -/
def askPrice : TurnInput where
  userInput := "Price?"
  chatId := 1
  hasMemory := false
  classification := .ok
    { intent := "pricing"
      cta := "none"
      features := []
      topic := "pricing"
      domain := "business"
      turnRelation := "new_topic"
      shouldSearchKb := true
      shouldGenerateAnswer := true
      shouldOfferManager := false }
  toolRun := .error "ToolNotFoundError"
  generation := .ok "100"
  delivery := .sent
  incidentTicketId := "t-1"
  raises _ := false

theorem askPrice_goes_forward : (freshThread.stage asciiMethods).canBecome
    (([askPrice, askPrice].foldl (turn asciiMethods) freshThread).stage asciiMethods) = true :=
  (lifecycle_goes_forward asciiMethods_keepsNames freshThread [askPrice, askPrice]).1

end CrmBot.Conversation
