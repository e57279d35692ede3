import CrmBot.CapacityAdmissionQueue.OrphanLease

/-! Whether an admission pass stays within the budget of its command, and whether it
returns a result at all.

The budget that the pass works with is what the reservation port answers, and it is
left as it is for an item with an execute command. Whatever the ports answer ends up in
one result, which its own checks may refuse. -/

namespace CrmBot.CapacityAdmissionQueue

open Relational CrmBot.Python CrmBot.ExecutionRuntime FailingFold

def requiredTokens (items : List AdmittedItemSummary) : Nat :=
  (items.map AdmittedItemSummary.requiredWindowTokens).sum

/-- The items are no more than the remaining requests, and need no more than the
remaining tokens. -/
structure WithinBudget (budget : WindowBudget) (items : List AdmittedItemSummary) : Prop where
  requests : items.length ≤ budget.remainingRequests
  dailyRequests : items.length ≤ budget.remainingDailyRequests
  tokens : requiredTokens items ≤ budget.remainingTokens
  dailyTokens : requiredTokens items ≤ budget.remainingDailyTokens

variable {State : Type} (ports : AdmissionPorts State) (command : PassCommand)

/-- The pass returns a result that satisfies its own checks, and what it admits is
within the budget of the command. -/
def Reports (start : State) : Prop :=
  ∃ result final, admissionPass ports command start = .ok (result, final) ∧
    result.validate = .ok () ∧ WithinBudget command.budget result.admittedItems

/-! What the ports must answer. -/

/-- An item that can be admitted and summarised: it is in the lane of the command, and
it fits into what the items before it have left of the budget of the command. -/
structure ItemFits (progress : PassProgress State) (selected : SelectableWorkItem)
    (execution : LeasedWorkItemRecord) (projection : ProjectionLeaseResult) : Prop where
  lane : selected.laneKey = command.laneKey
  projectionLane : projection.laneKey = command.laneKey
  inputTokens_le : selected.reportedInputTokens ≤ selected.requiredWindowTokens
  payload : ∃ context, dispatchContextFromSchedulePayload execution.schedulePayload = .ok context
  requests : progress.admittedItems.length < command.budget.remainingRequests
  dailyRequests : progress.admittedItems.length < command.budget.remainingDailyRequests
  tokens : requiredTokens progress.admittedItems + selected.requiredWindowTokens ≤
    command.budget.remainingTokens
  dailyTokens : requiredTokens progress.admittedItems + selected.requiredWindowTokens ≤
    command.budget.remainingDailyTokens

/-- The reservation is for the kind, the provider and the model of the lane. -/
def ReservesLane (reservation : ReservationSummary) : Prop :=
  reservation.lane.laneKey.workKind = command.laneKey.workKind ∧
    reservation.lane.laneKey.provider = command.laneKey.provider ∧
    reservation.lane.laneKey.modelRef = command.laneKey.modelRef

/-- An item with an execute command comes after no started attempt, and a started
attempt after no execute command. -/
def AnswerFits (progress : PassProgress State) : RoundAnswer → Prop
  | .skipped _ | .conflict _ _ | .denied _ _ _ _ _ => True
  | .appended selected execution projection _ _ =>
    ItemFits command progress selected execution projection ∧ progress.startedAttempts = []
  | .started selected execution projection _ _ reservation =>
    ItemFits command progress selected execution projection ∧ progress.executeCommandRefs = [] ∧
      ReservesLane command reservation

/-- The calls of a round are answered, and the answer fits. -/
def RoundFits (index : Nat) (progress : PassProgress State) : Prop :=
  ∃ answer next,
    RoundCalls ports command index progress.budget progress.state answer next ∧
      AnswerFits command progress answer

/-- The projection leases and the started attempts name the items that were selected. -/
def NamesItems (progress : PassProgress State) : Prop :=
  sameMembers (progress.admittedItems.map AdmittedItemSummary.workItemId)
      (progress.projectionLeases.map ProjectionLeaseSummary.workItemId) = true ∧
    (progress.startedAttempts = [] ∨
      sameMembers (progress.startedAttempts.map StartedAttemptSummary.workItemId)
        (progress.admittedItems.map AdmittedItemSummary.workItemId) = true)

def PassOutcome.progress? : PassOutcome State → Option (PassProgress State)
  | .running progress => some progress
  | .stopped progress _ => some progress
  | .raised _ => none

/-- The lane of the command can be reported, every round is answered by items that fit,
and the answers name these items. -/
structure PassFits (start : State) : Prop where
  lane : command.laneKey.hasTexts = true
  rounds : ∀ index progress, index < command.maxAdmittedItems →
    passRounds ports command start index = .running progress →
      RoundFits ports command index progress
  names : ∀ last,
    (passRounds ports command start command.maxAdmittedItems).progress? = some last →
      NamesItems last

/-! Lists that grow together. -/

variable {ports command} {index : Nat} {progress last : PassProgress State} {start : State}

structure Balanced (progress : PassProgress State) : Prop where
  leases : progress.projectionLeases.length = progress.admittedItems.length
  reservations : progress.capacityReservations.length = progress.startedAttempts.length
  refs : progress.startedAttempts.length + progress.executeCommandRefs.length =
    progress.admittedItems.length
  refTexts : ∀ ref ∈ progress.executeCommandRefs, isBlank ref = false

theorem PassOutcome.progress?_ofExcept {admitted : Except Fault (PassProgress State)} :
    (PassOutcome.ofExcept admitted).progress? = some last ↔ admitted = .ok last := by
  cases admitted with
  | error fault => simp [PassOutcome.ofExcept, PassOutcome.progress?]
  | ok progress => simp [PassOutcome.ofExcept, PassOutcome.progress?]

theorem passRound_progress?_iff :
    (passRound ports command index progress).progress? = some last ↔
      ∃ answer next, RoundCalls ports command index progress.budget progress.state answer next ∧
        (settleAnswer { progress with state := next } answer).progress? = some last := by
  constructor
  · intro h
    have hcalls : (∃ fault, passRound ports command index progress = .raised fault) ∨
        ∃ answer next, RoundCalls ports command index progress.budget progress.state answer next ∧
          passRound ports command index progress =
            settleAnswer { progress with state := next } answer := passRound_calls rfl
    rcases hcalls with ⟨fault, hraised⟩ | ⟨answer, next, hcalls, hsettled⟩
    · rw [hraised] at h
      cases h
    · rw [hsettled] at h
      exact ⟨answer, next, hcalls, h⟩
  · rintro ⟨answer, next, hcalls, hsettled⟩
    rw [passRound_of_calls hcalls]
    exact hsettled

theorem Balanced.appendCommand {selected : SelectableWorkItem} {execution : LeasedWorkItemRecord}
    {projection : ProjectionLeaseResult} {executeCommandRef : String}
    (h : Balanced progress) (htext : isBlank executeCommandRef = false)
    (happend : progress.append selected execution projection executeCommandRef = .ok last) :
    Balanced last := by
  obtain ⟨hadmits, _, hreservations, hstarted, hrefs⟩ := PassProgress.append_admits happend
  obtain ⟨item, _, hitems⟩ := hadmits.item
  obtain ⟨lease, _, hleases⟩ := hadmits.lease
  have hbefore := h.refs
  constructor
  · rw [hleases, hitems, List.length_append, List.length_append, h.leases]
    rfl
  · rw [hreservations, hstarted]
    exact h.reservations
  · rw [hstarted, hrefs, hitems, List.length_append, List.length_append]
    simp only [List.length_singleton]
    omega
  · rw [hrefs]
    intro ref hmem
    rcases List.mem_append.mp hmem with hold | hnew
    · exact h.refTexts ref hold
    · rw [List.mem_singleton.mp hnew]
      exact htext

theorem Balanced.startAttempt {selected : SelectableWorkItem} {execution : LeasedWorkItemRecord}
    {projection : ProjectionLeaseResult} {attempt : StartedAttemptSummary}
    {budgetAfter : WindowBudget} {reservation : ReservationSummary} (h : Balanced progress)
    (hstart : progress.start selected execution projection attempt budgetAfter reservation =
      .ok last) : Balanced last := by
  obtain ⟨hadmits, _, hreservations, hstarted, hrefs⟩ := PassProgress.start_admits hstart
  obtain ⟨item, _, hitems⟩ := hadmits.item
  obtain ⟨lease, _, hleases⟩ := hadmits.lease
  have hbefore := h.refs
  constructor
  · rw [hleases, hitems, List.length_append, List.length_append, h.leases]
    rfl
  · rw [hreservations, hstarted, List.length_append, List.length_append, h.reservations]
    rfl
  · rw [hstarted, hrefs, hitems, List.length_append, List.length_append]
    simp only [List.length_singleton]
    omega
  · rw [hrefs]
    exact h.refTexts

theorem passRounds_zero (ports : AdmissionPorts State) (command : PassCommand) (start : State) :
    (passRounds ports command start 0).progress? = some
      { state := start, budget := command.budget, admittedItems := [], projectionLeases := []
        capacityReservations := [], startedAttempts := [], executeCommandRefs := [] } := rfl

theorem Balanced.settle {answer : RoundAnswer} (h : Balanced progress)
    (hlast : (settleAnswer progress answer).progress? = some last) : Balanced last := by
  cases answer with
  | skipped _ | conflict _ _ | denied _ _ _ _ _ =>
    cases hlast
    exact h
  | appended selected execution projection executeCommandRef htext =>
    exact h.appendCommand htext (PassOutcome.progress?_ofExcept.mp hlast)
  | started selected execution projection attempt budgetAfter reservation =>
    exact h.startAttempt (PassOutcome.progress?_ofExcept.mp hlast)

theorem balanced_of_rounds {rounds : Nat}
    (h : (passRounds ports command start rounds).progress? = some last) : Balanced last := by
  induction rounds generalizing last with
  | zero =>
    cases h
    exact ⟨rfl, rfl, rfl, nofun⟩
  | succ rounds ih =>
    unfold passRounds at h
    split at h
    · next progress hrunning =>
      have hbefore : Balanced progress := ih (congrArg PassOutcome.progress? hrunning)
      obtain ⟨answer, next, _, hsettled⟩ := passRound_progress?_iff.mp h
      have hmoved : Balanced { progress with state := next } :=
        ⟨hbefore.leases, hbefore.reservations, hbefore.refs, hbefore.refTexts⟩
      exact hmoved.settle hsettled
    · exact ih h

/-! What the checks of the result say of the lists. -/

/-- The lanes and kinds of what was admitted so far, and the budget it takes. -/
structure Kept (command : PassCommand) (progress : PassProgress State) : Prop where
  items : ∀ item ∈ progress.admittedItems, item.lane.laneKey = command.laneKey
  leases : ∀ lease ∈ progress.projectionLeases, lease.lane.laneKey = command.laneKey
  reservations : ∀ reservation ∈ progress.capacityReservations, ReservesLane command reservation
  oneKind : progress.startedAttempts = [] ∨ progress.executeCommandRefs = []
  within : WithinBudget command.budget progress.admittedItems

theorem withinBudget_nil (budget : WindowBudget) : WithinBudget budget [] :=
  ⟨Nat.zero_le _, Nat.zero_le _, Nat.zero_le _, Nat.zero_le _⟩

theorem kept_of_empty (hbalanced : Balanced progress) (hempty : progress.admittedItems = []) :
    Kept command progress ∧ NamesItems progress := by
  have hrefs := hbalanced.refs
  have hleases := hbalanced.leases
  rw [hempty, List.length_nil] at hrefs hleases
  have hstarted : progress.startedAttempts = [] := List.length_eq_zero_iff.mp (by omega)
  have hnoLease : progress.projectionLeases = [] := List.length_eq_zero_iff.mp hleases
  have hreservations := hbalanced.reservations
  rw [hstarted, List.length_nil, List.length_eq_zero_iff] at hreservations
  constructor
  · constructor
    · simp [hempty]
    · simp [hnoLease]
    · simp [hreservations]
    · exact .inl hstarted
    · rw [hempty]
      exact withinBudget_nil _
  · unfold NamesItems
    rw [hempty, hnoLease]
    exact ⟨rfl, .inl hstarted⟩

theorem hasTexts_workKind {lane : LaneKey} (h : lane.hasTexts = true) :
    isBlank lane.workKind = false := by
  simp only [LaneKey.hasTexts, Bool.and_eq_true, Bool.not_eq_true'] at h
  exact h.1.1.1

theorem reservationLaneMatches_iff {reservation : ReservationSummary} {lane : LaneSummary}
    (hlane : lane.laneKey = command.laneKey) :
    reservationLaneMatches reservation.lane lane = true ↔ ReservesLane command reservation := by
  unfold reservationLaneMatches ReservesLane
  rw [hlane]
  simp only [Bool.and_eq_true, decide_eq_true_eq, and_assoc]

/-- The checks of a result with admitted items. -/
theorem admittedReport_valid_iff {lane : LaneSummary} (hbalanced : Balanced progress)
    (hlane : lane.laneKey = command.laneKey) (hne : progress.admittedItems ≠ []) :
    (admittedReport command progress lane).Valid ∧
        WithinBudget command.budget progress.admittedItems ↔
      Kept command progress ∧ NamesItems progress := by
  constructor
  · rintro ⟨hvalid, hwithin⟩
    have hone : progress.startedAttempts = [] ∨ progress.executeCommandRefs = [] := by
      rcases hvalid.reservations_length with hnone | hall
      · have hlength := hbalanced.reservations
        have hreservations : progress.capacityReservations = [] := hnone
        rw [hreservations] at hlength
        exact .inl (List.length_eq_zero_iff.mp hlength.symm)
      · have hlength : progress.capacityReservations.length = progress.admittedItems.length := hall
        have hrefs := hbalanced.refs
        have hreservations := hbalanced.reservations
        exact .inr (List.length_eq_zero_iff.mp (by omega))
    refine ⟨⟨?_, ?_, ?_, hone, hwithin⟩, hvalid.leaseIds, hvalid.attemptIds⟩
    · intro item hmem
      rw [← hlane]
      exact LaneSummary.eq_iff.mp (hvalid.itemLanes item hmem)
    · intro lease hmem
      rw [← hlane]
      exact LaneSummary.eq_iff.mp (hvalid.leaseLanes lease hmem)
    · intro reservation hmem
      exact (reservationLaneMatches_iff hlane).mp (hvalid.reservationLanes reservation hmem)
  · rintro ⟨hkept, hleaseIds, hattemptIds⟩
    have htexts : command.laneKey.hasTexts = true := by
      rw [← hlane]
      exact lane.hasTexts
    refine ⟨?_, hkept.within⟩
    constructor
    · exact command.workflowRunId_text
    · exact command.phase_text
    · exact command.operationKey_text
    · exact hasTexts_workKind htexts
    · exact congrArg LaneKey.workKind hlane
    · intro item hmem
      exact LaneSummary.eq_iff.mpr ((hkept.items item hmem).trans hlane.symm)
    · intro lease hmem
      exact LaneSummary.eq_iff.mpr ((hkept.leases lease hmem).trans hlane.symm)
    · intro reservation hmem
      exact (reservationLaneMatches_iff hlane).mpr (hkept.reservations reservation hmem)
    · exact hbalanced.refTexts
    · exact hne
    · exact hbalanced.leases
    · have hrefs := hbalanced.refs
      have hreservations := hbalanced.reservations
      rcases hkept.oneKind with hstarted | hcommands
      · left
        rw [hstarted] at hreservations
        exact List.length_eq_zero_iff.mp hreservations
      · right
        rw [hcommands, List.length_nil, Nat.add_zero] at hrefs
        exact hreservations.trans hrefs
    · exact hbalanced.refs
    · exact hleaseIds
    · exact hattemptIds

theorem skippedResult_of_texts (h : command.laneKey.hasTexts = true) (reason : SkippedReason) :
    ∃ lane, skippedResult command reason = .ok (skippedReport command reason lane) ∧
      (skippedReport command reason lane).validate = .ok () := by
  obtain ⟨lane, hlane⟩ := exists_laneSummary_iff.mpr h
  have hkind : lane.laneKey.workKind = command.laneKey.workKind :=
    congrArg LaneKey.workKind (laneSummary_eq_ok.mp hlane)
  have hvalid : (skippedReport command reason lane).validate = .ok () := by
    unfold PassResult.validate PassResult.validateSkipped skippedReport
    simp only [checks_eq_ok, refuseWhen_eq_ok, requireNonEmptyText_eq_ok]
    simp [command.workflowRunId_text, command.phase_text, command.operationKey_text,
      hasTexts_workKind h, hkind]
  exact ⟨lane, bind_eq_ok.mpr ⟨lane, hlane, bind_eq_ok.mpr ⟨(), hvalid, rfl⟩⟩, hvalid⟩

/-- A pass that has stopped reports within its budget exactly when the lane, the lists
and the names are in order. -/
theorem finishPass_reports_iff {reason : SkippedReason} (hbalanced : Balanced progress) :
    (∃ result final, finishPass command progress reason = .ok (result, final) ∧
        result.validate = .ok () ∧ WithinBudget command.budget result.admittedItems) ↔
      command.laneKey.hasTexts = true ∧ Kept command progress ∧ NamesItems progress := by
  by_cases hempty : progress.admittedItems = []
  · have hskipped : finishPass command progress reason =
        (skippedResult command reason >>= fun result => .ok (result, progress.state)) := by
      unfold finishPass
      rw [if_pos (List.isEmpty_iff.mpr hempty)]
      rfl
    rw [hskipped]
    constructor
    · rintro ⟨result, final, h, _⟩
      obtain ⟨_, h, _⟩ := bind_eq_ok.mp h
      obtain ⟨lane, hlane, _⟩ := bind_eq_ok.mp h
      exact ⟨exists_laneSummary_iff.mp ⟨lane, hlane⟩, kept_of_empty hbalanced hempty⟩
    · rintro ⟨htexts, _⟩
      obtain ⟨lane, hresult, hvalid⟩ := skippedResult_of_texts htexts reason
      exact ⟨_, _, bind_eq_ok.mpr ⟨_, hresult, rfl⟩, hvalid, withinBudget_nil _⟩
  · have hadmitted : finishPass command progress reason =
        (admittedResult command progress >>= fun result => .ok (result, progress.state)) := by
      unfold finishPass
      rw [if_neg (by simp [hempty])]
      rfl
    rw [hadmitted]
    constructor
    · rintro ⟨result, final, h, _, hwithin⟩
      obtain ⟨_, hresult, h⟩ := bind_eq_ok.mp h
      obtain ⟨lane, hlane, hresult⟩ := bind_eq_ok.mp hresult
      obtain ⟨_, hvalidate, hresult⟩ := bind_eq_ok.mp hresult
      cases hresult
      cases h
      have hvalid := (PassResult.validate_iff_valid rfl).mp hvalidate
      exact ⟨exists_laneSummary_iff.mp ⟨lane, hlane⟩,
        (admittedReport_valid_iff hbalanced (laneSummary_eq_ok.mp hlane) hempty).mp
          ⟨hvalid, hwithin⟩⟩
    · rintro ⟨htexts, hkept⟩
      obtain ⟨lane, hlane⟩ := exists_laneSummary_iff.mpr htexts
      obtain ⟨hvalid, hwithin⟩ :=
        (admittedReport_valid_iff hbalanced (laneSummary_eq_ok.mp hlane) hempty).mpr hkept
      have hvalidate := (PassResult.validate_iff_valid rfl).mpr hvalid
      have hresult : admittedResult command progress = .ok (admittedReport command progress lane) :=
        bind_eq_ok.mpr ⟨lane, hlane, bind_eq_ok.mpr ⟨(), hvalidate, rfl⟩⟩
      exact ⟨_, _, bind_eq_ok.mpr ⟨_, hresult, rfl⟩, hvalidate, hwithin⟩

/-! What an admission adds. -/

theorem exists_admittedItemSummary_iff {selected : SelectableWorkItem} {payload : Payload} :
    (∃ item, admittedItemSummary selected payload = .ok item) ↔
      selected.laneKey.hasTexts = true ∧
        (∃ context, dispatchContextFromSchedulePayload payload = .ok context) ∧
        isBlank selected.workItemId = false ∧
        selected.reportedInputTokens ≤ selected.requiredWindowTokens := by
  constructor
  · rintro ⟨item, h⟩
    obtain ⟨lane, hlane, h⟩ := bind_eq_ok.mp h
    obtain ⟨context, hcontext, h⟩ := bind_eq_ok.mp h
    split at h
    · next htext =>
      split at h
      · next hrequired =>
        exact ⟨exists_laneSummary_iff.mp ⟨lane, hlane⟩, ⟨context, hcontext⟩, htext, hrequired⟩
      · cases h
    · cases h
  · rintro ⟨htexts, ⟨context, hcontext⟩, htext, hrequired⟩
    obtain ⟨lane, hlane⟩ := exists_laneSummary_iff.mpr htexts
    unfold admittedItemSummary
    simp only [bind, Except.bind, hlane, hcontext, dif_pos htext, dif_pos hrequired]
    exact ⟨_, rfl⟩

theorem exists_projectionLeaseSummary_iff {projection : ProjectionLeaseResult} :
    (∃ lease, projectionLeaseSummary projection = .ok lease) ↔
      projection.laneKey.hasTexts = true := by
  constructor
  · rintro ⟨lease, h⟩
    obtain ⟨lane, hlane, _⟩ := bind_eq_ok.mp h
    exact exists_laneSummary_iff.mp ⟨lane, hlane⟩
  · intro h
    obtain ⟨lane, hlane⟩ := exists_laneSummary_iff.mpr h
    exact ⟨_, bind_eq_ok.mpr ⟨lane, hlane, rfl⟩⟩

theorem requiredTokens_append (items : List AdmittedItemSummary) (item : AdmittedItemSummary) :
    requiredTokens (items ++ [item]) = requiredTokens items + item.requiredWindowTokens := by
  unfold requiredTokens
  rw [List.map_append, List.sum_append, List.map_singleton, List.sum_singleton]

/-- The items of a pass before and after an admission. -/
structure KeptItems (command : PassCommand) (progress : PassProgress State) : Prop where
  items : ∀ item ∈ progress.admittedItems, item.lane.laneKey = command.laneKey
  leases : ∀ lease ∈ progress.projectionLeases, lease.lane.laneKey = command.laneKey
  within : WithinBudget command.budget progress.admittedItems

variable {selected : SelectableWorkItem} {execution : LeasedWorkItemRecord}
  {projection : ProjectionLeaseResult}

theorem keptItems_admits (hadmits : Admits progress selected projection last)
    (hkept : KeptItems command progress)
    (hfits : ItemFits command progress selected execution projection) :
    KeptItems command last := by
  obtain ⟨item, hitem, hitems⟩ := hadmits.item
  obtain ⟨lease, ⟨_, hleaseLane⟩, hleases⟩ := hadmits.lease
  have hlength : last.admittedItems.length = progress.admittedItems.length + 1 := by
    rw [hitems, List.length_append, List.length_singleton]
  have htokens : requiredTokens last.admittedItems =
      requiredTokens progress.admittedItems + selected.requiredWindowTokens := by
    rw [hitems, requiredTokens_append, hitem.requiredWindowTokens]
  have hfit := hfits
  refine ⟨?_, ?_, ?_⟩
  · rw [hitems]
    intro other hmem
    rcases List.mem_append.mp hmem with hold | hnew
    · exact hkept.items other hold
    · rw [List.mem_singleton.mp hnew]
      exact hitem.lane.trans hfits.lane
  · rw [hleases]
    intro other hmem
    rcases List.mem_append.mp hmem with hold | hnew
    · exact hkept.leases other hold
    · rw [List.mem_singleton.mp hnew]
      exact hleaseLane.trans hfits.projectionLane
  · constructor
    · rw [hlength]
      exact hfits.requests
    · rw [hlength]
      exact hfits.dailyRequests
    · rw [htokens]
      exact hfits.tokens
    · rw [htokens]
      exact hfits.dailyTokens

theorem keptItems_of_admits (hadmits : Admits progress selected projection last)
    (hkept : KeptItems command last)
    (hinput : selected.reportedInputTokens ≤ selected.requiredWindowTokens)
    (hpayload : ∃ context,
      dispatchContextFromSchedulePayload execution.schedulePayload = .ok context) :
    KeptItems command progress ∧ ItemFits command progress selected execution projection := by
  obtain ⟨item, hitem, hitems⟩ := hadmits.item
  obtain ⟨lease, ⟨_, hleaseLane⟩, hleases⟩ := hadmits.lease
  obtain ⟨hitemLanes, hleaseLanes, hrequests, hdailyRequests, htokens, hdailyTokens⟩ := hkept
  rw [hitems] at hitemLanes hrequests hdailyRequests htokens hdailyTokens
  rw [hleases] at hleaseLanes
  rw [List.length_append, List.length_singleton] at hrequests hdailyRequests
  rw [requiredTokens_append, hitem.requiredWindowTokens] at htokens hdailyTokens
  constructor
  · refine ⟨?_, ?_, by omega, by omega, by omega, by omega⟩
    · intro other hmem
      exact hitemLanes other (List.mem_append_left _ hmem)
    · intro other hmem
      exact hleaseLanes other (List.mem_append_left _ hmem)
  · refine ⟨?_, ?_, hinput, hpayload, hrequests, hdailyRequests, htokens, hdailyTokens⟩
    · rw [← hitem.lane]
      exact hitemLanes item (List.mem_append_right _ (List.mem_singleton_self item))
    · rw [← hleaseLane]
      exact hleaseLanes lease (List.mem_append_right _ (List.mem_singleton_self lease))

theorem Kept.keptItems (h : Kept command progress) : KeptItems command progress :=
  ⟨h.items, h.leases, h.within⟩

theorem kept_append_iff {executeCommandRef : String}
    (happend : progress.append selected execution projection executeCommandRef = .ok last) :
    Kept command last ↔ Kept command progress ∧
      ItemFits command progress selected execution projection ∧ progress.startedAttempts = [] := by
  obtain ⟨item, hitem, _⟩ := bind_eq_ok.mp happend
  obtain ⟨_, hpayload, _, hinput⟩ := exists_admittedItemSummary_iff.mp ⟨item, hitem⟩
  obtain ⟨hadmits, _, hreservations, hstarted, hrefs⟩ := PassProgress.append_admits happend
  constructor
  · intro hkept
    obtain ⟨hitems, hfits⟩ := keptItems_of_admits hadmits hkept.keptItems hinput hpayload
    have hnone : progress.startedAttempts = [] := by
      rcases hkept.oneKind with hnone | hnoRef
      · rw [← hstarted]
        exact hnone
      · rw [hrefs] at hnoRef
        exact absurd hnoRef (List.append_ne_nil_of_right_ne_nil _ (List.cons_ne_nil _ _))
    have hreserved := hkept.reservations
    rw [hreservations] at hreserved
    exact ⟨⟨hitems.items, hitems.leases, hreserved, .inl hnone, hitems.within⟩, hfits, hnone⟩
  · rintro ⟨hkept, hfits, hnone⟩
    have hitems := keptItems_admits hadmits hkept.keptItems hfits
    refine ⟨hitems.items, hitems.leases, ?_, .inl ?_, hitems.within⟩
    · rw [hreservations]
      exact hkept.reservations
    · rw [hstarted]
      exact hnone

theorem kept_start_iff {attempt : StartedAttemptSummary} {budgetAfter : WindowBudget}
    {reservation : ReservationSummary}
    (hstart : progress.start selected execution projection attempt budgetAfter reservation =
      .ok last) :
    Kept command last ↔ Kept command progress ∧
      ItemFits command progress selected execution projection ∧
        progress.executeCommandRefs = [] ∧ ReservesLane command reservation := by
  obtain ⟨item, hitem, _⟩ := bind_eq_ok.mp hstart
  obtain ⟨_, hpayload, _, hinput⟩ := exists_admittedItemSummary_iff.mp ⟨item, hitem⟩
  obtain ⟨hadmits, _, hreservations, hstarted, hrefs⟩ := PassProgress.start_admits hstart
  constructor
  · intro hkept
    obtain ⟨hitems, hfits⟩ := keptItems_of_admits hadmits hkept.keptItems hinput hpayload
    have hnone : progress.executeCommandRefs = [] := by
      rcases hkept.oneKind with hnoAttempt | hnone
      · rw [hstarted] at hnoAttempt
        exact absurd hnoAttempt (List.append_ne_nil_of_right_ne_nil _ (List.cons_ne_nil _ _))
      · rw [← hrefs]
        exact hnone
    have hreserved := hkept.reservations
    rw [hreservations] at hreserved
    refine ⟨⟨hitems.items, hitems.leases, ?_, .inr hnone, hitems.within⟩, hfits, hnone, ?_⟩
    · intro other hmem
      exact hreserved other (List.mem_append_left _ hmem)
    · exact hreserved reservation (List.mem_append_right _ (List.mem_singleton_self reservation))
  · rintro ⟨hkept, hfits, hnone, hreserves⟩
    have hitems := keptItems_admits hadmits hkept.keptItems hfits
    refine ⟨hitems.items, hitems.leases, ?_, .inr ?_, hitems.within⟩
    · rw [hreservations]
      intro other hmem
      rcases List.mem_append.mp hmem with hold | hnew
      · exact hkept.reservations other hold
      · rw [List.mem_singleton.mp hnew]
        exact hreserves
    · rw [hrefs]
      exact hnone

/-- An item that fits can be summarised, and so can its lease. -/
theorem ItemFits.summaries (hfits : ItemFits command progress selected execution projection)
    (hlane : command.laneKey.hasTexts = true) (htext : isBlank selected.workItemId = false) :
    (∃ item, admittedItemSummary selected execution.schedulePayload = .ok item) ∧
      ∃ lease, projectionLeaseSummary projection = .ok lease := by
  constructor
  · apply exists_admittedItemSummary_iff.mpr
    rw [hfits.lane]
    exact ⟨hlane, hfits.payload, htext, hfits.inputTokens_le⟩
  · apply exists_projectionLeaseSummary_iff.mpr
    rw [hfits.projectionLane]
    exact hlane

/-! One round, and all of them. -/

theorem RoundCalls.workItemId_text {budget : WindowBudget} {state next : State}
    {answer : RoundAnswer} (h : RoundCalls ports command index budget state answer next)
    (hadmitted : answer.admitted = some (selected, projection)) :
    isBlank selected.workItemId = false := by
  cases h with
  | exhausted _ | nothingFits _ _ | unavailable _ _ | notLeased _ _ _ _ | conflict _ _ _
  | denied _ _ _ => cases hadmitted
  | appended hlease hexecute =>
    cases hadmitted
    obtain ⟨htext, _⟩ := hexecute
    exact htext
  | started hlease hexecute hreserve =>
    cases hadmitted
    obtain ⟨htext, _⟩ := hexecute
    exact htext

theorem kept_settle_iff (hlane : command.laneKey.hasTexts = true) {answer : RoundAnswer}
    (htext : ∀ selected projection, answer.admitted = some (selected, projection) →
      isBlank selected.workItemId = false) :
    (∃ last, (settleAnswer progress answer).progress? = some last ∧ Kept command last) ↔
      Kept command progress ∧ AnswerFits command progress answer := by
  cases answer with
  | skipped _ | conflict _ _ | denied _ _ _ _ _ =>
    constructor
    · rintro ⟨last, hlast, hkept⟩
      cases hlast
      exact ⟨hkept, trivial⟩
    · rintro ⟨hkept, _⟩
      exact ⟨progress, rfl, hkept⟩
  | appended selected execution projection executeCommandRef _ =>
    constructor
    · rintro ⟨last, hlast, hkept⟩
      exact (kept_append_iff (PassOutcome.progress?_ofExcept.mp hlast)).mp hkept
    · rintro ⟨hkept, hfits, hnone⟩
      obtain ⟨⟨item, hitem⟩, lease, hlease⟩ :=
        hfits.summaries hlane (htext selected projection rfl)
      have happend : ∃ last,
          progress.append selected execution projection executeCommandRef = .ok last :=
        ⟨_, bind_eq_ok.mpr ⟨item, hitem, bind_eq_ok.mpr ⟨lease, hlease, rfl⟩⟩⟩
      obtain ⟨last, happend⟩ := happend
      exact ⟨last, PassOutcome.progress?_ofExcept.mpr happend,
        (kept_append_iff happend).mpr ⟨hkept, hfits, hnone⟩⟩
  | started selected execution projection attempt budgetAfter reservation =>
    constructor
    · rintro ⟨last, hlast, hkept⟩
      exact (kept_start_iff (PassOutcome.progress?_ofExcept.mp hlast)).mp hkept
    · rintro ⟨hkept, hfits, hnone, hreserves⟩
      obtain ⟨⟨item, hitem⟩, lease, hlease⟩ :=
        hfits.summaries hlane (htext selected projection rfl)
      have hstart : ∃ last,
          progress.start selected execution projection attempt budgetAfter reservation = .ok last :=
        ⟨_, bind_eq_ok.mpr ⟨item, hitem, bind_eq_ok.mpr ⟨lease, hlease, rfl⟩⟩⟩
      obtain ⟨last, hstart⟩ := hstart
      exact ⟨last, PassOutcome.progress?_ofExcept.mpr hstart,
        (kept_start_iff hstart).mpr ⟨hkept, hfits, hnone, hreserves⟩⟩

theorem answerFits_withState {answer : RoundAnswer} (next : State) :
    AnswerFits command { progress with state := next } answer ↔
      AnswerFits command progress answer := by
  have hitem : ∀ selected execution projection,
      ItemFits command { progress with state := next } selected execution projection ↔
        ItemFits command progress selected execution projection := by
    intro selected execution projection
    constructor
    · rintro ⟨hlane, hprojection, hinput, hpayload, hrequests, hdaily, htokens, hdailyTokens⟩
      exact ⟨hlane, hprojection, hinput, hpayload, hrequests, hdaily, htokens, hdailyTokens⟩
    · rintro ⟨hlane, hprojection, hinput, hpayload, hrequests, hdaily, htokens, hdailyTokens⟩
      exact ⟨hlane, hprojection, hinput, hpayload, hrequests, hdaily, htokens, hdailyTokens⟩
  cases answer with
  | skipped _ | conflict _ _ | denied _ _ _ _ _ => exact Iff.rfl
  | appended selected execution projection executeCommandRef _ =>
    exact and_congr_left fun _ => hitem selected execution projection
  | started selected execution projection attempt budgetAfter reservation =>
    exact and_congr_left fun _ => hitem selected execution projection

/-- A round keeps the lists in order exactly when its answer fits. -/
theorem kept_round_iff (hlane : command.laneKey.hasTexts = true) :
    (∃ last, (passRound ports command index progress).progress? = some last ∧
        Kept command last) ↔
      Kept command progress ∧ RoundFits ports command index progress := by
  constructor
  · rintro ⟨last, hlast, hkept⟩
    obtain ⟨answer, next, hcalls, hsettled⟩ := passRound_progress?_iff.mp hlast
    obtain ⟨⟨hitems, hleases, hreservations, hone, hwithin⟩, hfits⟩ :=
      (kept_settle_iff hlane fun _ _ => hcalls.workItemId_text).mp ⟨last, hsettled, hkept⟩
    exact ⟨⟨hitems, hleases, hreservations, hone, hwithin⟩, answer, next, hcalls,
      (answerFits_withState next).mp hfits⟩
  · rintro ⟨⟨hitems, hleases, hreservations, hone, hwithin⟩, answer, next, hcalls, hfits⟩
    have hmoved : Kept command { progress with state := next } :=
      ⟨hitems, hleases, hreservations, hone, hwithin⟩
    obtain ⟨last, hsettled, hkept⟩ :=
      (kept_settle_iff hlane fun _ _ => hcalls.workItemId_text).mpr
        ⟨hmoved, (answerFits_withState next).mpr hfits⟩
    exact ⟨last, passRound_progress?_iff.mpr ⟨answer, next, hcalls, hsettled⟩, hkept⟩

theorem passRounds_succ_of_running {rounds : Nat}
    (h : passRounds ports command start rounds = .running progress) :
    passRounds ports command start (rounds + 1) = passRound ports command rounds progress := by
  rw [passRounds, h]

theorem passRounds_succ_of_finished {rounds : Nat}
    (h : ∀ progress, passRounds ports command start rounds ≠ .running progress) :
    passRounds ports command start (rounds + 1) = passRounds ports command start rounds := by
  rw [passRounds]
  split
  · next progress hrunning => exact absurd hrunning (h progress)
  · rfl

/-- The lists stay in order up to some round exactly when every answer before fits. -/
theorem kept_rounds_iff (hlane : command.laneKey.hasTexts = true) (rounds : Nat) :
    (∃ last, (passRounds ports command start rounds).progress? = some last ∧
        Kept command last) ↔
      ∀ index progress, index < rounds →
        passRounds ports command start index = .running progress →
          RoundFits ports command index progress := by
  induction rounds with
  | zero =>
    constructor
    · intro _ index progress hindex
      omega
    · intro _
      have hbalanced : Balanced _ := balanced_of_rounds (passRounds_zero ports command start)
      exact ⟨_, passRounds_zero ports command start, (kept_of_empty hbalanced rfl).1⟩
  | succ rounds ih =>
    by_cases hrunning : ∃ progress, passRounds ports command start rounds = .running progress
    · obtain ⟨progress, hrunning⟩ := hrunning
      have hbefore : Kept command progress ↔ ∀ index progress, index < rounds →
          passRounds ports command start index = .running progress →
            RoundFits ports command index progress := by
        rw [← ih, hrunning]
        constructor
        · intro hkept
          exact ⟨progress, rfl, hkept⟩
        · rintro ⟨last, hlast, hkept⟩
          cases hlast
          exact hkept
      rw [passRounds_succ_of_running hrunning, kept_round_iff hlane, hbefore]
      constructor
      · rintro ⟨hearlier, hround⟩ index other hindex hother
        rcases Nat.lt_succ_iff_lt_or_eq.mp hindex with hlt | rfl
        · exact hearlier index other hlt hother
        · rw [hrunning] at hother
          cases hother
          exact hround
      · intro hall
        refine ⟨?_, hall rounds progress (Nat.lt_succ_self rounds) hrunning⟩
        intro index other hindex hother
        exact hall index other (by omega) hother
    · have hfinished : ∀ progress, passRounds ports command start rounds ≠ .running progress :=
        not_exists.mp hrunning
      rw [passRounds_succ_of_finished hfinished, ih]
      constructor
      · intro hearlier index other hindex hother
        rcases Nat.lt_succ_iff_lt_or_eq.mp hindex with hlt | rfl
        · exact hearlier index other hlt hother
        · exact absurd hother (hfinished other)
      · intro hall index other hindex hother
        exact hall index other (by omega) hother

theorem reports_iff_end : Reports ports command start ↔
    ∃ last, (passRounds ports command start command.maxAdmittedItems).progress? = some last ∧
      command.laneKey.hasTexts = true ∧ Kept command last ∧ NamesItems last := by
  unfold Reports admissionPass
  cases hrounds : passRounds ports command start command.maxAdmittedItems with
  | raised fault =>
    constructor
    · rintro ⟨_, _, h, _⟩
      cases h
    · rintro ⟨_, h, _⟩
      cases h
  | stopped last reason =>
    have hbalanced : Balanced last := balanced_of_rounds (congrArg PassOutcome.progress? hrounds)
    dsimp only
    rw [finishPass_reports_iff hbalanced]
    constructor
    · intro h
      exact ⟨last, rfl, h⟩
    · rintro ⟨_, hlast, h⟩
      cases hlast
      exact h
  | running last =>
    have hbalanced : Balanced last := balanced_of_rounds (congrArg PassOutcome.progress? hrounds)
    dsimp only
    rw [finishPass_reports_iff hbalanced]
    constructor
    · intro h
      exact ⟨last, rfl, h⟩
    · rintro ⟨_, hlast, h⟩
      cases hlast
      exact h

/-- A pass stays within the budget of its command and returns a valid result exactly when
its lane can be reported, every round is answered by items that fit, and the answers
name these items. -/
theorem reports_iff (ports : AdmissionPorts State) (command : PassCommand) (start : State) :
    Reports ports command start ↔ PassFits ports command start := by
  rw [reports_iff_end]
  constructor
  · rintro ⟨last, hlast, hlane, hkept, hnames⟩
    refine ⟨hlane, (kept_rounds_iff hlane _).mp ⟨last, hlast, hkept⟩, ?_⟩
    intro other hother
    rw [hlast] at hother
    cases hother
    exact hnames
  · rintro ⟨hlane, hrounds, hnames⟩
    obtain ⟨last, hlast, hkept⟩ := (kept_rounds_iff hlane _).mpr hrounds
    exact ⟨last, hlast, hlane, hkept, hnames last hlast⟩

/-! Two items of the whole budget. -/

def twoItemStore : ExecutionStore where
  workItems :=
    { rows := [{ item := .fresh "first" "section" (Eq.refl false), createdAt := 0, updatedAt := 0
                 updated_ge := epoch_le_epoch },
        { item := .fresh "second" "section" (Eq.refl false), createdAt := 0, updatedAt := 0
          updated_ge := epoch_le_epoch }]
      key_nodup := by decide }
  schedules :=
    { rows := [{ workItemId := "first", idempotencyKey := "first", payloadHash := "hash"
                 payload := [] },
        { workItemId := "second", idempotencyKey := "second", payloadHash := "hash"
          payload := [] }]
      key_nodup := by decide
      unique_nodup := by decide }
  attempts := .empty
  dispatches := .empty

def twoItemTables : PassTables Unit where
  execution := twoItemStore
  queue := wholeBudgetQueue sampleDrain sampleDrain_budget_pos
  rest := ()

/-- Some items are started, the others get an execute command. A reservation is
always granted, and answers what it leaves of the budget. -/
def executesBy (starts : String → Bool) : PassEnvironment Unit where
  lower := lowerLatin
  selectionLocked _ _ := false
  executionLocked _ _ := false
  projectionLocked _ _ := false
  eventId _ := "event"
  previewCapacity _ _ _ budget _ := .ok (.available budget, ())
  reserveCapacity _ _ _ selected lane budget _ expiresAt := do
    let lane ← laneSummary lane
    if htext : isBlank selected.workItemId = false then
      .ok (.reserved
        { remainingRequests := budget.remainingRequests - 1
          remainingTokens := budget.remainingTokens - selected.requiredWindowTokens
          remainingDailyRequests := budget.remainingDailyRequests - 1
          remainingDailyTokens := budget.remainingDailyTokens - selected.requiredWindowTokens }
        { reservationRef := "reservation", workItemId := selected.workItemId, lane
          reservedRequests := 1, reservedTokens := selected.requiredWindowTokens, expiresAt
          reservationRef_text := by decide, workItemId_text := htext
          reservedRequests_pos := Nat.one_pos, reservedTokens_pos := selected.required_pos }, ())
    else .error (.valueError "work_item_id must be non-empty")
  startOrAppendExecution _ selected _ execution _ _ _ :=
    if starts selected.workItemId then
      if htext : isBlank selected.workItemId = false then
        .ok (.attempt
          { attemptId := "attempt", workItemId := selected.workItemId
            attemptNumber := execution.workItem.attemptCount + 1, attemptId_text := Eq.refl false
            workItemId_text := htext, attemptNumber_pos := nextAttempt_pos execution }, ())
      else .error (.valueError "work_item_id must be non-empty")
    else .ok (.command selected.workItemId "execute" (by decide), ())
  hasActiveLeasedWork _ _ _ := .ok (false, ())

/-- With execute commands two items of 6000 tokens are admitted into a budget of 6000
tokens. With a started attempt and an execute command in one pass, which a budget of
12000 tokens has room for, the pass raises after both items were leased. -/
theorem executeCommands_not_reported :
    ¬ Reports (executesBy fun _ => false).ports samplePass twoItemTables ∧
      ¬ Reports (executesBy fun id => id = "first").ports
        { samplePass with budget := { sampleDrain.budget with remainingTokens := 12000 } }
        twoItemTables := by
  constructor
  · have hpass : ∃ result final,
        admissionPass (executesBy fun _ => false).ports samplePass twoItemTables =
            .ok (result, final) ∧ requiredTokens result.admittedItems = 12000 :=
      ⟨_, _, rfl, rfl⟩
    obtain ⟨result, final, hpass, htokens⟩ := hpass
    rintro ⟨other, otherFinal, hother, _, hwithin⟩
    rw [hpass] at hother
    cases hother
    have hbudget : samplePass.budget.remainingTokens = 6000 := rfl
    have hle := hwithin.tokens
    rw [htokens, hbudget] at hle
    omega
  · rintro ⟨result, final, hpass, _⟩
    cases hpass

end CrmBot.CapacityAdmissionQueue
