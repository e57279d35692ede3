import CrmBot.Conversation.TurnSteps

/-! Tickets for technical failures.

The failures of a thread are counted and never forgiven: from the second one on, every
save opens a ticket until the saved state tells of one. -/

namespace CrmBot.Conversation

open Runs

/-- The classifier fails on the message. -/
def TurnInput.misclassifies (input : TurnInput) : Bool :=
  input.userInput ≠ "" && !input.classification.isOk

section Turn

variable (methods : StrMethods) (record : ThreadRecord) (input : TurnInput)

/-- The turn answers with a text about a technical failure: the classifier or the generator
has failed. -/
def failsTechnically : Bool :=
  match turnRoute methods record input with
  | .policyAnswer => input.misclassifies
  | .generation => !input.generation.isOk
  | _ => false

def TurnEffect.isIncidentTicket : TurnEffect → Bool
  | .technicalIncidentTicket => true
  | _ => false

/-- The tickets for technical failures that the turn opens. -/
def incidentTickets : ℕ :=
  match invokeGraph methods record input with
  | .ok run => run.effects.countP TurnEffect.isIncidentTicket
  | .error _ => 0

/-- The tickets among them of which the saved state does not tell. -/
def lostTickets : ℕ :=
  if input.saves then 0 else incidentTickets methods record input

/-- One for a failure that the saved state counts. -/
def savedFailure : ℕ :=
  if input.saves ∧ failsTechnically methods record input = true then 1 else 0

end Turn

def ThreadRecord.incidentCreated (record : ThreadRecord) : Bool :=
  record.stateJson.any StatePayload.technicalIncidentCreated

def ThreadRecord.failureCount (record : ThreadRecord) : ℕ :=
  (record.stateJson.map StatePayload.technicalFailureCount).getD 0

variable {methods : StrMethods} {record : ThreadRecord} {input : TurnInput}

/-! Frames. -/

theorem loadedState_failures (record : ThreadRecord) (input : TurnInput) :
    (loadedState record input).technicalFailureCount = record.failureCount ∧
      (loadedState record input).technicalIncidentCreated = record.incidentCreated := by
  unfold loadedState loadStateNode ThreadRecord.failureCount ThreadRecord.incidentCreated
  cases record.stateJson <;> exact ⟨rfl, rfl⟩

theorem ruledState_failures (methods : StrMethods) (record : ThreadRecord) (input : TurnInput) :
    (ruledState methods record input).technicalFailureCount = record.failureCount ∧
      (ruledState methods record input).technicalIncidentCreated = record.incidentCreated := by
  rw [← (loadedState_failures record input).1, ← (loadedState_failures record input).2]
  have h := ruledState_ruled methods record input
  generalize ruledState methods record input = ruled at *
  cases h <;> exact ⟨rfl, rfl⟩

theorem Decided.failures {state decided : AgentState} (h : Decided methods state decided) :
    decided.technicalFailureCount = state.technicalFailureCount ∧
      decided.technicalIncidentCreated = state.technicalIncidentCreated := by
  cases h <;> exact ⟨rfl, rfl⟩

theorem finalState_failures (methods : StrMethods) (record : ThreadRecord) (input : TurnInput) :
    (finalState methods record input).technicalFailureCount =
      (answeredState methods record input).technicalFailureCount ∧
    (finalState methods record input).technicalIncidentCreated =
      (answeredState methods record input).technicalIncidentCreated := by
  rw [finalState]
  rcases responderNode_cases input (answeredState methods record input) with
    ⟨-, h⟩ | ⟨-, text, -, h⟩ <;> rw [h] <;> exact ⟨rfl, rfl⟩

theorem classifiedState_failures (methods : StrMethods) (record : ThreadRecord)
    (input : TurnInput) :
    (classifiedState methods record input).technicalFailureCount =
        record.failureCount + (if input.misclassifies then 1 else 0) ∧
      (classifiedState methods record input).technicalIncidentCreated = record.incidentCreated := by
  obtain ⟨hcount, hcreated⟩ := ruledState_failures methods record input
  have hinput := ruledState_userInput methods record input
  rw [classifiedState, intentExtractorNode, hinput, TurnInput.misclassifies]
  split_ifs with hempty hfails hfails
  · simp [hempty] at hfails
  · exact ⟨hcount, hcreated⟩
  · cases hclassification : input.classification with
    | ok result => simp [hclassification, Except.isOk, Except.toBool] at hfails
    | error error => exact ⟨congrArg (· + 1) hcount, hcreated⟩
  · cases hclassification : input.classification with
    | ok result => exact ⟨hcount, hcreated⟩
    | error error => simp [hclassification, hempty, Except.isOk, Except.toBool] at hfails

theorem classifiedState_of_misclassifies (methods : StrMethods) (record : ThreadRecord)
    (h : input.misclassifies = true) :
    ∃ error, classifiedState methods record input =
      classificationFailure (ruledState methods record input) error := by
  have hinput := ruledState_userInput methods record input
  unfold TurnInput.misclassifies at h
  simp only [Bool.and_eq_true, decide_eq_true_eq] at h
  cases hclassification : input.classification with
  | ok result => simp [hclassification, Except.isOk, Except.toBool] at h
  | error error =>
    refine ⟨error, ?_⟩
    rw [classifiedState, intentExtractorNode, hinput, if_neg h.1, hclassification]

/-- A classifier that fails on a message is answered by the policy at once. -/
theorem decidedState_of_misclassifies (methods : StrMethods) (record : ThreadRecord)
    (h : input.misclassifies = true) :
    (decidedState methods record input).decision = some .respond ∧
      (decidedState methods record input).responseText =
        some (if 2 ≤ record.failureCount + 1 then technicalClassificationRepeatText
          else technicalClassificationFirstText) := by
  obtain ⟨error, hclassified⟩ := classifiedState_of_misclassifies methods record h
  have hfilled : isFilled (classificationFailure (ruledState methods record input)
      error).responseText = true := by
    unfold classificationFailure
    dsimp only
    split_ifs <;> decide +kernel
  rw [decidedState, hclassified, policyEngineNode]
  dsimp only
  rw [if_pos ⟨rfl, hfilled⟩, ← (ruledState_failures methods record input).1]
  exact ⟨rfl, rfl⟩

/-- A turn counts its technical failure, and no node takes back that a ticket was opened. -/
theorem answeredState_failures : (answeredState methods record input).technicalFailureCount =
      record.failureCount + (if failsTechnically methods record input then 1 else 0) ∧
    (answeredState methods record input).technicalIncidentCreated = record.incidentCreated := by
  have hruled := ruledState_failures methods record input
  have hdecided := (decidedState_decided methods record input).failures
  obtain ⟨hcount, hcreated⟩ := classifiedState_failures methods record input
  rw [hcount, hcreated] at hdecided
  have hclassifies (h : (decidedState methods record input).decision ≠ some .respond) :
      input.misclassifies = false :=
    Bool.eq_false_iff.mpr fun hfails => h (decidedState_of_misclassifies methods record hfails).1
  unfold failsTechnically
  cases turn_cases methods record input with
  | rulesAnswer _ hroute hanswer =>
    rw [hanswer, hroute]
    exact hruled
  | handoffRequest _ hroute hanswer =>
    rw [hanswer, hroute]
    exact hruled
  | policyAnswer _ _ hroute hanswer =>
    rw [hanswer, hroute]
    exact hdecided
  | template _ hpolicy hroute hanswer =>
    rw [hclassifies (by rw [hpolicy]; simp)] at hdecided
    rw [hanswer, hroute]
    exact hdecided
  | generation _ hpolicy hroute hanswer =>
    rw [hclassifies (by rw [hpolicy]; simp)] at hdecided
    rw [hanswer, hroute, responseGeneratorNode, if_neg (by rw [hpolicy]; decide)]
    cases hgeneration : input.generation with
    | ok text => exact hdecided
    | error error =>
      exact ⟨congrArg (· + 1) hdecided.1, hdecided.2⟩
  | policyHandoff _ hpolicy hroute hanswer =>
    rw [hclassifies (by rw [hpolicy]; simp)] at hdecided
    rw [hanswer, hroute]
    exact hdecided

/-! Tickets. -/

theorem countP_attempt (call : TurnCall) (effect : TurnEffect) :
    (attempt input call effect).countP TurnEffect.isIncidentTicket =
      if input.raises call = false ∧ effect.isIncidentTicket = true then 1 else 0 := by
  unfold attempt
  cases hraises : input.raises call <;> cases hticket : effect.isIncidentTicket <;> simp [hticket]

theorem routeEffects_countP :
    (routeEffects methods record input).countP TurnEffect.isIncidentTicket = 0 := by
  have hpolicy (state : AgentState) :
      (policyEffects methods input state).countP TurnEffect.isIncidentTicket = 0 := by
    unfold policyEffects
    split_ifs
    · rfl
    · rfl
    · simp [countP_attempt, TurnEffect.isIncidentTicket]
  have hescalate : (escalateEffects input).countP TurnEffect.isIncidentTicket = 0 := by
    simp [escalateEffects, countP_attempt, TurnEffect.isIncidentTicket]
  unfold routeEffects
  split
  · rfl
  · exact hescalate
  · exact hpolicy _
  · exact hpolicy _
  · exact hpolicy _
  · rw [List.countP_append, hpolicy, hescalate]

theorem incidentTickets_eq : incidentTickets methods record input =
    if createsTechnicalIncident input (finalState methods record input) then 1 else 0 := by
  have hresponder (state : AgentState) :
      (responderEffects input state).countP TurnEffect.isIncidentTicket = 0 := by
    unfold responderEffects
    split_ifs
    · rfl
    · simp [countP_attempt, TurnEffect.isIncidentTicket]
  have hite (p : Prop) [Decidable p] (effects : List TurnEffect) :
      (if p then effects else []).countP TurnEffect.isIncidentTicket =
        if p then effects.countP TurnEffect.isIncidentTicket else 0 := by
    split_ifs <;> rfl
  rw [incidentTickets, invokeGraph_eq]
  dsimp only [turnRun]
  rw [List.countP_append, List.countP_append, routeEffects_countP, hresponder]
  simp only [persistEffects, List.countP_append, hite, countP_attempt, TurnEffect.isIncidentTicket]
  simp [createsTechnicalIncident, ite_and]

theorem incidentTickets_eq_one_iff : incidentTickets methods record input = 1 ↔
    2 ≤ record.failureCount + (if failsTechnically methods record input then 1 else 0) ∧
      record.incidentCreated = false ∧ input.raises .incidentTicket = false := by
  have hfinal := finalState_failures methods record input
  rw [answeredState_failures.1, answeredState_failures.2] at hfinal
  rw [incidentTickets_eq, createsTechnicalIncident, shouldCreateTechnicalIncident, hfinal.1,
    hfinal.2]
  simp [and_assoc]

/-- A turn keeps the account of the tickets, and counts its failure when it is saved. -/
theorem turn_tickets (methods : StrMethods) (record : ThreadRecord) (input : TurnInput) :
    incidentTickets methods record input + record.incidentCreated.toNat =
      lostTickets methods record input + (turn methods record input).incidentCreated.toNat ∧
    (turn methods record input).failureCount =
      record.failureCount + savedFailure methods record input := by
  have hfinal := finalState_failures methods record input
  rw [answeredState_failures.1, answeredState_failures.2] at hfinal
  unfold lostTickets savedFailure
  by_cases hsaves : input.saves
  · have hcount : (turn methods record input).failureCount =
        (finalState methods record input).technicalFailureCount := by
      rw [ThreadRecord.failureCount, turn_stateJson hsaves]
      unfold persistedPayload
      split_ifs <;> rfl
    have hcreated : (turn methods record input).incidentCreated =
        (createsTechnicalIncident input (finalState methods record input) ||
          (finalState methods record input).technicalIncidentCreated) := by
      rw [ThreadRecord.incidentCreated, turn_stateJson hsaves]
      unfold persistedPayload
      split_ifs with hcreates <;> simp [hcreates]
    rw [hcount, hcreated, hfinal.1, hfinal.2, incidentTickets_eq, if_pos hsaves]
    refine ⟨?_, by simp [hsaves]⟩
    have hexclusive : createsTechnicalIncident input (finalState methods record input) = true →
        record.incidentCreated = false := by
      rw [← hfinal.2]
      simp only [createsTechnicalIncident, shouldCreateTechnicalIncident, Bool.and_eq_true,
        Bool.not_eq_true', decide_eq_true_eq]
      exact fun h => h.1.2
    cases hcreates : createsTechnicalIncident input (finalState methods record input) with
    | false => simp
    | true => simp [hexclusive hcreates]
  · have hjson : (turn methods record input).stateJson = record.stateJson :=
      turn_stateJson_of_not_saves hsaves
    have hcreated : (turn methods record input).incidentCreated = record.incidentCreated := by
      rw [ThreadRecord.incidentCreated, hjson, ThreadRecord.incidentCreated]
    have hcount : (turn methods record input).failureCount = record.failureCount := by
      rw [ThreadRecord.failureCount, hjson, ThreadRecord.failureCount]
    rw [hcreated, hcount, if_neg hsaves, if_neg (fun h => hsaves h.1)]
    exact ⟨rfl, rfl⟩

/-! Texts. -/

def repeatTexts : List String := [technicalClassificationRepeatText, technicalFailureRepeatText]

/-- The text of a technical failure tells of a ticket from the second failure on. -/
theorem text_of_failure (hfails : failsTechnically methods record input = true) :
    ∃ first ∉ repeatTexts, ∃ again ∈ repeatTexts,
      (answeredState methods record input).responseText =
        some (if 0 < record.failureCount then again else first) := by
  have hcondition : (2 ≤ record.failureCount + 1) = (0 < record.failureCount) := by
    apply propext
    omega
  unfold failsTechnically at hfails
  cases turn_cases methods record input with
  | rulesAnswer _ hroute => rw [hroute] at hfails; cases hfails
  | handoffRequest _ hroute => rw [hroute] at hfails; cases hfails
  | template _ _ hroute => rw [hroute] at hfails; cases hfails
  | policyHandoff _ _ hroute => rw [hroute] at hfails; cases hfails
  | policyAnswer _ _ hroute hanswer =>
    rw [hroute] at hfails
    refine ⟨technicalClassificationFirstText, by decide +kernel,
      technicalClassificationRepeatText, by decide +kernel, ?_⟩
    rw [hanswer, (decidedState_of_misclassifies methods record hfails).2]
    simp only [hcondition]
  | generation _ hpolicy hroute hanswer =>
    rw [hroute] at hfails
    refine ⟨technicalFailureFirstText, by decide +kernel,
      technicalFailureRepeatText, by decide +kernel, ?_⟩
    have hclassifies : input.misclassifies = false := by
      refine Bool.eq_false_iff.mpr fun h => ?_
      rw [(decidedState_of_misclassifies methods record h).1] at hpolicy
      cases hpolicy
    have hcount : (decidedState methods record input).technicalFailureCount =
        record.failureCount := by
      rw [(decidedState_decided methods record input).failures.1,
        (classifiedState_failures methods record input).1, hclassifies]
      rfl
    rw [hanswer, responseGeneratorNode, if_neg (by rw [hpolicy]; decide)]
    cases hgeneration : input.generation with
    | ok text => simp [hgeneration, Except.isOk, Except.toBool] at hfails
    | error error =>
      dsimp only [generationFailure]
      simp only [hcount, hcondition]

/-- The tickets for technical failures of a thread, over any run: all but the last one were
forgotten with a state that was lost, the next one is opened by the first save that knows of two
failures and of no ticket, and no client is told of a ticket that was not asked for. -/
theorem technical_incidents (methods : StrMethods) (record : ThreadRecord)
    (inputs : List TurnInput) :
    totalCost (turn methods) (incidentTickets methods) record inputs +
        record.incidentCreated.toNat =
      totalCost (turn methods) (lostTickets methods) record inputs +
        (inputs.foldl (turn methods) record).incidentCreated.toNat ∧
    (inputs.foldl (turn methods) record).failureCount = record.failureCount +
      totalCost (turn methods) (savedFailure methods) record inputs ∧
    ∀ input, let last := inputs.foldl (turn methods) record
      (incidentTickets methods last input = 1 ↔
        2 ≤ last.failureCount + (if failsTechnically methods last input then 1 else 0) ∧
          last.incidentCreated = false ∧ input.raises .incidentTicket = false) ∧
      (failsTechnically methods last input = true →
        (∃ text ∈ repeatTexts, (answeredState methods last input).responseText = some text) →
          last.incidentCreated = true ∨ incidentTickets methods last input = 1 ∨
            input.raises .incidentTicket = true) := by
  refine ⟨?_, ?_, fun input => ⟨incidentTickets_eq_one_iff, ?_⟩⟩
  · induction inputs generalizing record with
    | nil => rfl
    | cons input rest ih =>
      have hturn := (turn_tickets methods record input).1
      have hrest := ih (turn methods record input)
      rw [totalCost, totalCost, List.foldl_cons]
      omega
  · induction inputs generalizing record with
    | nil => rfl
    | cons input rest ih =>
      have hturn := (turn_tickets methods record input).2
      rw [totalCost, List.foldl_cons, ih, hturn, Nat.add_assoc]
  · rintro hfails ⟨text, htext, hanswer⟩
    obtain ⟨first, hfirst, again, hagain, hresponse⟩ := text_of_failure hfails
    rw [hanswer, Option.some.injEq] at hresponse
    split_ifs at hresponse with hcount
    · rw [incidentTickets_eq_one_iff, hfails, if_pos rfl]
      cases (inputs.foldl (turn methods) record).incidentCreated with
      | true => exact .inl rfl
      | false =>
        cases input.raises .incidentTicket with
        | true => exact .inr (.inr rfl)
        | false => exact .inr (.inl ⟨by omega, rfl, rfl⟩)
    · rw [hresponse] at htext
      exact absurd htext hfirst

end CrmBot.Conversation
