import CrmBot.Conversation.TurnSteps

/-! A dialog is handed to a manager when the client asks for it or agrees to it.

A turn that asks the client leaves the question pending in the saved state. The rules
take the question back when they read a message, whatever it says. -/

namespace CrmBot.Conversation

open Runs

section Turn

variable (methods : StrMethods)

/-- The turn goes through the node that hands the dialog to a manager. -/
def Escalates (record : ThreadRecord) (input : TurnInput) : Prop :=
  ∃ run, invokeGraph methods record input = .ok run ∧ .escalate ∈ run.visited

/-- The turn asks the client whether to hand the dialog to a manager, and leaves the question
in the saved state. -/
structure AsksHandoff (record : ThreadRecord) (input : TurnInput) : Prop where
  text : (answeredState methods record input).responseText =
    some (buildHandoffConfirmationText input.userInput)
  pending : (answeredState methods record input).pending = true
  saves : input.saves

/-- The question of one of the messages stands: only turns without a message, or whose state
was lost, came after it. -/
def QuestionStands (record : ThreadRecord) (inputs : List TurnInput) : Prop :=
  ∃ before asking after, inputs = before ++ asking :: after ∧
    AsksHandoff methods (before.foldl (turn methods) record) asking ∧
    ∀ later ∈ after, later.saves → later.userInput = ""

end Turn

variable {methods : StrMethods} {record : ThreadRecord} {input : TurnInput}

theorem escalates_iff : Escalates methods record input ↔
    turnRoute methods record input = .handoffRequest ∨
      turnRoute methods record input = .policyHandoff := by
  unfold Escalates
  rw [invokeGraph_eq]
  constructor
  · rintro ⟨run, hrun, hvisited⟩
    cases hrun
    revert hvisited
    simp only [turnRun]
    cases turnRoute methods record input <;> decide
  · intro h
    refine ⟨_, rfl, ?_⟩
    simp only [turnRun]
    rcases h with h | h <;> rw [h] <;> decide

/-- A question that the rules leave to the policy was pending before, and there was no message
to take it back. -/
theorem silent_of_pending (hrules : (ruledState methods record input).decision = some .proceedToLlm)
    (hpending : (ruledState methods record input).pending = true) :
    record.pending = true ∧ input.userInput = "" := by
  have hruled := ruledState_ruled methods record input
  rw [← loadedState_pending record input,
    ← loadedState_userInput record input]
  generalize loadedState record input = loaded at *
  generalize ruledState methods record input = ruled at *
  cases hruled with
  | silent hempty => exact ⟨hpending, hempty⟩
  | request => cases hrules
  | confirm => cases hrules
  | decline => cases hrules
  | takeBack => cases hpending
  | question => cases hrules
  | proceed _ _ hasked => exact absurd (hasked.symm.trans hpending) Bool.false_ne_true

theorem classifiedState_pending : (classifiedState methods record input).pending =
    (ruledState methods record input).pending := by
  unfold StatePayload.pending classifiedState
  rw [intentExtractorNode_dialogState]

/-- The policy hands a dialog over only without a message, while a question is pending. -/
theorem silent_of_policyHandoff
    (hrules : (ruledState methods record input).decision = some .proceedToLlm)
    (hpolicy : (decidedState methods record input).decision = some .escalateToHuman) :
    record.pending = true ∧ input.userInput = "" := by
  refine silent_of_pending hrules ?_
  rw [← classifiedState_pending]
  have hdecided := decidedState_decided methods record input
  generalize classifiedState methods record input = classified at *
  generalize decidedState methods record input = decided at *
  cases hdecided with
  | technical hdecision => rw [hpolicy] at hdecision; cases hdecision
  | template => cases hpolicy
  | question => cases hpolicy
  | followed _ _ _ _ _ _ _ hasked => exact hasked (Option.some.inj hpolicy)

theorem rules_escalate_iff (hinput : input.userInput ≠ "") :
    (ruledState methods record input).decision = some .escalate ↔
      detectHandoffRequest methods input.userInput = true ∨
        resolveHandoffConfirmationReply methods input.userInput = some .confirm ∧
          record.pending = true := by
  have hruled := ruledState_ruled methods record input
  rw [← loadedState_pending record input]
  rw [← loadedState_userInput record input] at hinput ⊢
  generalize loadedState record input = loaded at *
  generalize ruledState methods record input = ruled at *
  cases hruled with
  | silent hempty => exact absurd hempty hinput
  | request _ hrequest => simp [hrequest]
  | confirm _ _ hasked hreply => simp [hasked, hreply]
  | decline _ hrequest _ hreply => simp [hrequest, hreply]
  | takeBack _ hrequest _ hreply => simp [hrequest, hreply]
  | question _ hrequest hasked => simp [hrequest, hasked]
  | proceed _ hrequest hasked => simp [hrequest, hasked]

theorem escalates_iff_of_message (hinput : input.userInput ≠ "") :
    Escalates methods record input ↔ detectHandoffRequest methods input.userInput = true ∨
      resolveHandoffConfirmationReply methods input.userInput = some .confirm ∧
        record.pending = true := by
  rw [escalates_iff, ← rules_escalate_iff hinput]
  cases turn_cases methods record input with
  | rulesAnswer hrules hroute => simp [hrules, hroute]
  | handoffRequest hrules hroute => simp [hrules, hroute]
  | policyAnswer hrules _ hroute => simp [hrules, hroute]
  | template hrules _ hroute => simp [hrules, hroute]
  | generation hrules _ hroute => simp [hrules, hroute]
  | policyHandoff hrules hpolicy => exact absurd (silent_of_policyHandoff hrules hpolicy).2 hinput

theorem pending_of_silent_escalates (hempty : input.userInput = "")
    (h : Escalates methods record input) : record.pending = true := by
  rw [escalates_iff] at h
  cases turn_cases methods record input with
  | handoffRequest hrules =>
    have hruled := ruledState_ruled methods record input
    rw [← loadedState_userInput record input] at hempty
    generalize loadedState record input = loaded at *
    generalize ruledState methods record input = ruled at *
    cases hruled with
    | silent => cases hrules
    | request hinput => exact absurd hempty hinput
    | confirm hinput => exact absurd hempty hinput
    | decline => cases hrules
    | takeBack => cases hrules
    | question => cases hrules
    | proceed => cases hrules
  | policyHandoff hrules hpolicy => exact (silent_of_policyHandoff hrules hpolicy).1
  | rulesAnswer _ hroute => rw [hroute] at h; rcases h with h | h <;> cases h
  | policyAnswer _ _ hroute => rw [hroute] at h; rcases h with h | h <;> cases h
  | template _ _ hroute => rw [hroute] at h; rcases h with h | h <;> cases h
  | generation _ _ hroute => rw [hroute] at h; rcases h with h | h <;> cases h

/-! The question in the saved state. -/

theorem finalState_pending : (finalState methods record input).pending =
    (answeredState methods record input).pending := by
  unfold StatePayload.pending finalState
  rw [responderNode_dialogState]

/-- The rules that answer leave a question pending only when they have just asked it. -/
theorem asked_of_rules (hrules : (ruledState methods record input).decision ≠ some .proceedToLlm)
    (hpending : (ruledState methods record input).pending = true) :
    (ruledState methods record input).decision = some .respond ∧
      (ruledState methods record input).responseText =
        some (buildHandoffConfirmationText input.userInput) := by
  have hruled := ruledState_ruled methods record input
  rw [← loadedState_userInput record input]
  generalize loadedState record input = loaded at *
  generalize ruledState methods record input = ruled at *
  cases hruled with
  | silent => exact absurd rfl hrules
  | request => cases hpending
  | confirm => cases hpending
  | decline => cases hpending
  | takeBack => exact absurd rfl hrules
  | question => exact ⟨rfl, rfl⟩
  | proceed => exact absurd rfl hrules

theorem classifiedState_userInput (methods : StrMethods) (record : ThreadRecord)
    (input : TurnInput) : (classifiedState methods record input).userInput = input.userInput := by
  rw [← ruledState_userInput methods record input]
  unfold classifiedState intentExtractorNode
  split_ifs
  · rfl
  · split <;> rfl

/-- The policy leaves a question pending only when it has just asked it, or when it was. -/
theorem asked_of_policy (hpending : (decidedState methods record input).pending = true) :
    (classifiedState methods record input).pending = true ∨
      (decidedState methods record input).decision = some .respond ∧
        (decidedState methods record input).responseText =
          some (buildHandoffConfirmationText input.userInput) := by
  rw [← classifiedState_userInput methods record input]
  rcases (decidedState_decided methods record input).pending_eq_or with h | h
  · exact .inl (h.symm.trans hpending)
  · exact .inr h.2

theorem answeredState_pending_of_policy
    (hrules : (ruledState methods record input).decision = some .proceedToLlm) :
    (answeredState methods record input).pending = (decidedState methods record input).pending := by
  cases turn_cases methods record input with
  | rulesAnswer hrespond => exact absurd (hrespond.symm.trans hrules) (by simp)
  | handoffRequest hescalate => exact absurd (hescalate.symm.trans hrules) (by simp)
  | policyAnswer _ _ _ hanswer => rw [hanswer]
  | template _ _ _ hanswer => rw [hanswer]; rfl
  | generation _ _ _ hanswer =>
    rw [hanswer]
    unfold StatePayload.pending
    rw [responseGeneratorNode_dialogState]
  | policyHandoff _ _ _ hanswer => rw [hanswer]; rfl

/-- A turn leaves a question pending when it asks it, or when it was pending and no message
was read. -/
theorem answeredState_pending (hpending : (answeredState methods record input).pending = true) :
    (answeredState methods record input).responseText =
        some (buildHandoffConfirmationText input.userInput) ∨
      record.pending = true ∧ input.userInput = "" := by
  have hpolicy (hrules : (ruledState methods record input).decision = some .proceedToLlm) :
      record.pending = true ∧ input.userInput = "" ∨
        (decidedState methods record input).decision = some .respond ∧
          (decidedState methods record input).responseText =
            some (buildHandoffConfirmationText input.userInput) := by
    rw [answeredState_pending_of_policy hrules] at hpending
    refine (asked_of_policy hpending).imp_left fun hclassified => ?_
    rw [classifiedState_pending] at hclassified
    exact silent_of_pending hrules hclassified
  cases turn_cases methods record input with
  | rulesAnswer hrules _ hanswer =>
    rw [hanswer] at hpending ⊢
    exact .inl (asked_of_rules (by rw [hrules]; simp) hpending).2
  | handoffRequest hrules _ hanswer =>
    rw [hanswer] at hpending
    have hasked := asked_of_rules (by rw [hrules]; simp) hpending
    exact absurd (hrules.symm.trans hasked.1) (by simp)
  | policyAnswer hrules _ _ hanswer =>
    rw [hanswer]
    exact (hpolicy hrules).symm.imp_left And.right
  | template hrules hdecision _ _ =>
    exact .inr ((hpolicy hrules).resolve_right fun h => by simp [hdecision] at h)
  | generation hrules hdecision _ _ =>
    exact .inr ((hpolicy hrules).resolve_right fun h => by simp [hdecision] at h)
  | policyHandoff hrules hdecision _ _ =>
    exact .inr ((hpolicy hrules).resolve_right fun h => by simp [hdecision] at h)

theorem turn_pending_of_saves (hsaves : input.saves) : (turn methods record input).pending =
    (answeredState methods record input).pending := by
  rw [ThreadRecord.pending, turn_stateJson hsaves, Option.any_some, ← finalState_pending]
  unfold StatePayload.pending
  rw [persistedPayload_dialogState]

theorem turn_pending_of_not_saves (hsaves : ¬ input.saves) :
    (turn methods record input).pending = record.pending := by
  rw [ThreadRecord.pending, turn_stateJson_of_not_saves hsaves, ThreadRecord.pending]

/-- A question that is pending after a turn was asked by the turn, or the turn read no message. -/
theorem pending_of_turn (h : (turn methods record input).pending = true) :
    AsksHandoff methods record input ∨
      record.pending = true ∧ (input.saves → input.userInput = "") := by
  by_cases hsaves : input.saves
  · rw [turn_pending_of_saves hsaves] at h
    rcases answeredState_pending h with hasked | ⟨hpending, hempty⟩
    · exact .inl ⟨hasked, h, hsaves⟩
    · exact .inr ⟨hpending, fun _ => hempty⟩
  · rw [turn_pending_of_not_saves hsaves] at h
    exact .inr ⟨h, fun h => absurd h hsaves⟩

/-- Without a message the question stays. -/
theorem turn_pending_of_silent (hpending : record.pending = true)
    (hsilent : input.saves → input.userInput = "") :
    (turn methods record input).pending = true := by
  by_cases hsaves : input.saves
  swap
  · rwa [turn_pending_of_not_saves hsaves]
  have hempty := hsilent hsaves
  rw [turn_pending_of_saves hsaves]
  rw [← loadedState_pending record input] at hpending
  rw [← loadedState_userInput record input] at hempty
  have hruled := ruledState_ruled methods record input
  have hrules : (ruledState methods record input).decision = some .proceedToLlm ∧
      (ruledState methods record input).pending = true ∧
      (ruledState methods record input).userInput = "" := by
    generalize loadedState record input = loaded at *
    generalize ruledState methods record input = ruled at *
    cases hruled with
    | silent => exact ⟨rfl, hpending, hempty⟩
    | request hinput => exact absurd hempty hinput
    | confirm hinput => exact absurd hempty hinput
    | decline hinput => exact absurd hempty hinput
    | takeBack hinput => exact absurd hempty hinput
    | question hinput => exact absurd hempty hinput
    | proceed hinput => exact absurd hempty hinput
  have hclassified : classifiedState methods record input = ruledState methods record input := by
    rw [classifiedState, intentExtractorNode, if_pos hrules.2.2]
  rw [answeredState_pending_of_policy hrules.1]
  rcases (decidedState_decided methods record input).pending_eq_or with h | h
  · rw [h, hclassified]
    exact hrules.2.1
  · rw [hclassified] at h
    exact absurd (h.1.symm.trans hrules.2.1) Bool.false_ne_true

theorem pending_iff_questionStands (hfresh : record.stateJson = none) (inputs : List TurnInput) :
    (inputs.foldl (turn methods) record).pending = true ↔ QuestionStands methods record inputs := by
  constructor
  · intro h
    obtain ⟨before, asking, after, hsplit, hasks, hafter⟩ := exists_cause
      (fun state : ThreadRecord => state.pending = true)
      (fun _ _ hpending => pending_of_turn hpending)
      (by simp [ThreadRecord.pending, hfresh]) h
    exact ⟨before, asking, after, hsplit, hasks, everyStep_event_iff.mp hafter⟩
  · rintro ⟨before, asking, after, rfl, hasks, hafter⟩
    have hlater : EveryStep (turn methods) (fun _ later => later.saves → later.userInput = "")
        (turn methods (before.foldl (turn methods) record) asking) after :=
      everyStep_event_iff.mpr hafter
    refine flag_of_cause (fun state : ThreadRecord => state.pending = true) ?_
      (fun _ _ => turn_pending_of_silent) hasks hlater
    intro state event hcause
    rw [turn_pending_of_saves hcause.saves]
    exact hcause.pending

/-- A message hands the dialog to a manager exactly when it asks for one, or agrees to a question
that stands; no handoff happens without a message unless a question stands. -/
theorem handoff_answers_client {record : ThreadRecord} (hfresh : record.stateJson = none)
    (inputs : List TurnInput) (input : TurnInput) :
    (input.userInput ≠ "" →
        (Escalates methods (inputs.foldl (turn methods) record) input ↔
          detectHandoffRequest methods input.userInput = true ∨
            resolveHandoffConfirmationReply methods input.userInput = some .confirm ∧
              QuestionStands methods record inputs)) ∧
      (input.userInput = "" → Escalates methods (inputs.foldl (turn methods) record) input →
        QuestionStands methods record inputs) := by
  rw [← pending_iff_questionStands hfresh]
  exact ⟨escalates_iff_of_message, pending_of_silent_escalates⟩

/-! A client who is asked, and agrees. -/

theorem refund_asks : AsksHandoff asciiMethods freshThread (messageOf "Refund now") where
  text := by decide +kernel
  pending := by decide +kernel
  saves := rfl

theorem handoff_answers_client_yes :
    Escalates asciiMethods ([messageOf "Refund now"].foldl (turn asciiMethods) freshThread)
      (messageOf "Yes") := by
  refine ((handoff_answers_client rfl [messageOf "Refund now"] (messageOf "Yes")).1
    (by decide)).mpr
      (.inr ⟨by decide +kernel, [], messageOf "Refund now", [], rfl, refund_asks, ?_⟩)
  exact List.forall_mem_nil _

end CrmBot.Conversation
