import CrmBot.ClaimBuilder.DirectPreparePayload

/-! Prepare commands with room for every due item.

For each state there is a command whose only capacity is open and holds all due
items, so that the loop is decided by leases and saved attempts alone. -/

namespace CrmBot.ClaimBuilder

open Relational CrmBot.Python CrmBot.ExecutionRuntime CrmBot.LlmRuntime CrmBot.WorkflowRuntime
  FailingFold

/-- The tokens that some due items need together. -/
def requiredTotal (profile : TaskCapacityProfile) (due : List DueWorkItemRecord) : Nat :=
  (due.map fun record => requiredWindowTokensForDueRecord record.schedulePayload profile).sum

theorem requiredTotal_cons (profile : TaskCapacityProfile) (record : DueWorkItemRecord)
    (rest : List DueWorkItemRecord) :
    requiredTotal profile (record :: rest) =
      requiredWindowTokensForDueRecord record.schedulePayload profile +
        requiredTotal profile rest := by
  unfold requiredTotal
  rw [List.map_cons, List.sum_cons]

/-- An open window with room for all of the due items. -/
structure AmpleWindow (profile : TaskCapacityProfile) (due : List DueWorkItemRecord)
    (window : DirectCapacityWindow) : Prop where
  isOpen : window.unavailableUntil = none
  minuteRequests : due.length ≤ window.remainingMinuteRequests
  minuteTokens : requiredTotal profile due ≤ window.remainingMinuteTokens
  dailyRequests : due.length ≤ window.remainingDailyRequests
  dailyTokens : requiredTotal profile due ≤ window.remainingDailyTokens

namespace AmpleWindow

variable {profile : TaskCapacityProfile} {record : DueWorkItemRecord}
  {rest : List DueWorkItemRecord} {window : DirectCapacityWindow}

/-- The next item fits. -/
theorem fits (h : AmpleWindow profile (record :: rest) window) (now : Int) :
    window.fits (requiredWindowTokensForDueRecord record.schedulePayload profile) now = true := by
  have hminuteRequests := h.minuteRequests
  have hminuteTokens := h.minuteTokens
  have hdailyRequests := h.dailyRequests
  have hdailyTokens := h.dailyTokens
  rw [List.length_cons] at hminuteRequests hdailyRequests
  rw [requiredTotal_cons] at hminuteTokens hdailyTokens
  unfold DirectCapacityWindow.fits DirectCapacityWindow.availableNow
    DirectCapacityWindow.maxRequiredWindowTokens
  simp only [h.isOpen, Option.all_none, Bool.true_and, Bool.and_eq_true, decide_eq_true_eq]
  omega

/-- The items after a reserved one still fit. -/
theorem reserve (h : AmpleWindow profile (record :: rest) window) :
    AmpleWindow profile rest
      (window.reserveLocally
          (requiredWindowTokensForDueRecord record.schedulePayload profile)) := by
  have hminuteRequests := h.minuteRequests
  have hminuteTokens := h.minuteTokens
  have hdailyRequests := h.dailyRequests
  have hdailyTokens := h.dailyTokens
  rw [List.length_cons] at hminuteRequests hdailyRequests
  rw [requiredTotal_cons] at hminuteTokens hdailyTokens
  unfold DirectCapacityWindow.reserveLocally
  constructor
  · exact h.isOpen
  · dsimp only
    omega
  · dsimp only
    omega
  · dsimp only
    omega
  · dsimp only
    omega

/-- So do the items after a skipped one. -/
theorem skip (h : AmpleWindow profile (record :: rest) window) :
    AmpleWindow profile rest window := by
  have hminuteRequests := h.minuteRequests
  have hminuteTokens := h.minuteTokens
  have hdailyRequests := h.dailyRequests
  have hdailyTokens := h.dailyTokens
  rw [List.length_cons] at hminuteRequests hdailyRequests
  rw [requiredTotal_cons] at hminuteTokens hdailyTokens
  constructor
  · exact h.isOpen
  · omega
  · omega
  · omega
  · omega

end AmpleWindow

/-- The only window is found if the item fits it. -/
theorem firstCapacityWindowThatFits_singleton {window : DirectCapacityWindow} {required : Nat}
    {now : Int} (hfits : window.fits required now = true) :
    firstCapacityWindowThatFits [window] required now = some (0, window) := by
  simp [firstCapacityWindowThatFits, List.findIdx?_cons, hfits]

/-- One ample window, of the primary model. -/
def Ample (profile : TaskCapacityProfile) (due : List DueWorkItemRecord)
    (windows : List DirectCapacityWindow) : Prop :=
  ∃ window, windows = [window] ∧ window.capacity.route.modelRef = claimBuilderActiveModelRef ∧
    AmpleWindow profile due window

namespace Ample

variable {profile : TaskCapacityProfile} {record : DueWorkItemRecord}
  {rest : List DueWorkItemRecord} {windows : List DirectCapacityWindow}

/-- The window that the next item gets, and what it leaves to the others. -/
theorem next (h : Ample profile (record :: rest) windows) (now : Int) :
    ∃ window, firstCapacityWindowThatFits windows
        (requiredWindowTokensForDueRecord record.schedulePayload profile) now = some (0, window) ∧
      window.capacity.route.modelRef = claimBuilderActiveModelRef ∧
      Ample profile rest (windows.set 0
        (window.reserveLocally
          (requiredWindowTokensForDueRecord record.schedulePayload profile))) := by
  obtain ⟨window, rfl, hmodel, hample⟩ := h
  exact ⟨window, firstCapacityWindowThatFits_singleton (hample.fits now), hmodel, _, rfl, hmodel,
    hample.reserve⟩

theorem skip (h : Ample profile (record :: rest) windows) : Ample profile rest windows := by
  obtain ⟨window, hwindows, hmodel, hample⟩ := h
  exact ⟨window, hwindows, hmodel, hample.skip⟩

end Ample

theorem executionSettings_primary :
    ∃ settings, defaultGroqLlmModelRouteCatalog.executionSettingsForModelRef
      claimBuilderActiveModelRef = .ok settings := ⟨_, rfl⟩

theorem Ample.knownModels {profile : TaskCapacityProfile} {due : List DueWorkItemRecord}
    {windows : List DirectCapacityWindow} (h : Ample profile due windows) :
    KnownModels defaultGroqLlmModelRouteCatalog windows := by
  obtain ⟨window, rfl, hmodel, _⟩ := h
  intro other hother
  rw [List.mem_singleton.mp hother, hmodel]
  exact executionSettings_primary

/-- A time at which no reset that an observation names is in the future. -/
def lastReset (observation : Option CapacityObservation) : Int :=
  match observation with
  | none => 0
  | some latest => max (latest.minuteResetAt.getD 0) (latest.dailyResetAt.getD 0)

theorem observedUnavailableUntil_of_lastReset_le {observation : Option CapacityObservation}
    {now : Int} (h : lastReset observation ≤ now) :
    observedUnavailableUntil observation now = none := by
  cases observation with
  | none => rfl
  | some latest =>
    have hresets := max_le_iff.mp h
    have hminute : ∀ reset, latest.minuteResetAt = some reset → ¬ now < reset := by
      intro reset hreset
      rw [hreset, Option.getD_some] at hresets
      exact not_lt.mpr hresets.1
    have hdaily : ∀ reset, latest.dailyResetAt = some reset → ¬ now < reset := by
      intro reset hreset
      rw [hreset, Option.getD_some] at hresets
      exact not_lt.mpr hresets.2
    have hclosed : windowUnavailableUntil latest now = none := by
      unfold windowUnavailableUntil
      have hfirst : (latest.minuteResetAt.filter fun reset => decide (now < reset) &&
          requiresFailClosedUntilReset latest latest.remainingMinuteRequests
            latest.remainingMinuteTokens) = none := by
        rw [Option.filter_eq_none_iff]
        intro reset hreset
        simp [hminute reset hreset]
      have hsecond : (latest.dailyResetAt.filter fun reset => decide (now < reset) &&
          requiresFailClosedUntilReset latest latest.remainingDailyRequests
            latest.remainingDailyTokens) = none := by
        rw [Option.filter_eq_none_iff]
        intro reset hreset
        simp [hdaily reset hreset]
      rw [hfirst, hsecond]
      rfl
    unfold observedUnavailableUntil
    rw [Option.bind_some, hclosed, ite_self]

/-- A capacity that leaves room for the due items beside the active reservations. -/
def ampleCapacity (state : DispatchState) (route : RouteKey) (now : Int)
    (profile : TaskCapacityProfile) (due : List DueWorkItemRecord) : ProviderAccountCapacity :=
  let requests := activeReservedRequests state.reservations route now + due.length
  let tokens := activeReservedTokens state.reservations route now + requiredTotal profile due
  { route := route, remainingMinuteRequests := requests, remainingMinuteTokens := tokens
    remainingDailyRequests := requests, remainingDailyTokens := tokens }

theorem ampleWindow_of_ampleCapacity (state : DispatchState) (route : RouteKey) {now : Int}
    (profile : TaskCapacityProfile) (due : List DueWorkItemRecord)
    (hnow : lastReset (latestObservation state.observations route) ≤ now) :
    AmpleWindow profile due
      (directCapacityWindow state now (ampleCapacity state route now profile due)) := by
  constructor
  · exact observedUnavailableUntil_of_lastReset_le hnow
  all_goals
    unfold directCapacityWindow ampleCapacity
    dsimp only
    omega

/-- The route of the ample capacity. -/
def primaryRoute (accountRef : String) : RouteKey :=
  { provider := "groq", accountRef := accountRef, modelRef := claimBuilderActiveModelRef }

def plainProfile : TaskCapacityProfile :=
  { profileId := "claim_builder", inputTokens := 1, artifactTokens := 0, requestCount := 1
    inputTokens_pos := Nat.one_pos, requestCount_pos := Nat.one_pos }

/-- The time of the ample command. -/
def ampleTime (state : DispatchState) : Int :=
  lastReset (latestObservation state.observations (primaryRoute "account"))

/-- A command whose one capacity has room for all due items of the state. -/
def ampleCommand (state : DispatchState) (key run : String) (count : Nat) : WorkflowCommand :=
  directPrepareCommand key run (ampleTime state)
    (directPreparePayload count claimBuilderActiveModelRef plainProfile
      [ampleCapacity state (primaryRoute "account") (ampleTime state) plainProfile
        (peekDueWorkItems state.execution claimBuilderSectionWorkKind count)])

def ampleContext (state : DispatchState) (key run : String) (count : Nat)
    (locked : String → Bool) : BatchContext :=
  batchContext (ampleCommand state key run count) count plainProfile
    defaultGroqLlmModelRouteCatalog locked

def ampleWindow (state : DispatchState) (count : Nat) : DirectCapacityWindow :=
  directCapacityWindow state (ampleTime state)
    (ampleCapacity state (primaryRoute "account") (ampleTime state) plainProfile
      (peekDueWorkItems state.execution claimBuilderSectionWorkKind count))

theorem ampleWindow_ample (state : DispatchState) (count : Nat) :
    Ample plainProfile (peekDueWorkItems state.execution claimBuilderSectionWorkKind count)
      [ampleWindow state count] :=
  ⟨_, rfl, rfl, ampleWindow_of_ampleCapacity state _ _ _ (le_refl _)⟩

/-- The handler reads one window, with room for all due items. -/
theorem readPrepareCommand_ampleCommand {state : DispatchState} {key run : String} {count : Nat}
    (hrun : isBlank run = false) (hcount : 0 < count) (locked : String → Bool) :
    readPrepareCommand defaultGroqLlmModelRouteCatalog locked state
      (ampleCommand state key run count) =
      .ok (ampleContext state key run count locked, [ampleWindow state count]) := by
  have hroute : NamedRoute (primaryRoute "account") := ⟨by decide, by decide, by decide⟩
  refine readPrepareCommand_payload hcount hrun (by decide) (by decide) (by simp) ?_ ?_
  · intro capacity hcapacity
    rw [List.mem_singleton.mp hcapacity]
    exact hroute
  · intro capacity hcapacity
    rw [List.mem_singleton.mp hcapacity]
    rfl

theorem firstWindowWakeupAt_ampleWindow (state : DispatchState) (count : Nat) (now : Int) :
    firstWindowWakeupAt [ampleWindow state count] now = none := by
  have hopen : (ampleWindow state count).unavailableUntil = none :=
    observedUnavailableUntil_of_lastReset_le (le_refl _)
  simp [firstWindowWakeupAt, hopen]

/-- The handler of the ample command walks over all due items with one window. -/
theorem prepareBatch_ampleCommand {state : DispatchState} {key run : String} {count : Nat}
    (hrun : isBlank run = false) (hcount : 0 < count) (locked : String → Bool) :
    prepareBatch defaultGroqLlmModelRouteCatalog locked state (ampleCommand state key run count) =
      (fun progress => (ampleContext state key run count locked, .walked
        (peekDueWorkItems state.execution claimBuilderSectionWorkKind count) progress)) <$>
      prepareDueRecords (ampleContext state key run count locked)
        (initialProgress state [ampleWindow state count])
        (peekDueWorkItems state.execution claimBuilderSectionWorkKind count) := by
  have hscheduled : (ampleContext state key run count locked).scheduledWorkItemCount = count := rfl
  unfold prepareBatch walkDueItems
  rw [readPrepareCommand_ampleCommand hrun hcount]
  simp only [bind, Except.bind, firstWindowWakeupAt_ampleWindow, hscheduled]
  cases prepareDueRecords (ampleContext state key run count locked)
      (initialProgress state [ampleWindow state count])
      (peekDueWorkItems state.execution claimBuilderSectionWorkKind count) with
  | error fault => rfl
  | ok progress => rfl

/-- Without a leasable item the ample command is completed with nothing started. -/
theorem handle_ampleCommand_of_unleasable {state handled : DispatchState} {key run : String}
    {count : Nat} (hrun : isBlank run = false) (hcount : 0 < count) (locked : String → Bool)
    (hreservations : handled.reservations = state.reservations)
    (hobservations : handled.observations = state.observations)
    (hlogged : ampleCommand state key run count ∈ handled.commandLog.rows)
    (hnone : ∀ record ∈ peekDueWorkItems handled.execution claimBuilderSectionWorkKind count,
      leasableRow handled.execution locked claimBuilderSectionWorkKind record.workItem.workItemId =
        none) :
    ∃ result next, handlePrepareDispatchBatch defaultGroqLlmModelRouteCatalog locked handled
      (ampleCommand state key run count) = .ok (result, next) ∧ result.started = [] := by
  have hread : readPrepareCommand defaultGroqLlmModelRouteCatalog locked handled
      (ampleCommand state key run count) =
      .ok (ampleContext state key run count locked, [ampleWindow state count]) := by
    rw [← readPrepareCommand_ampleCommand hrun hcount locked]
    unfold readPrepareCommand directCapacityWindows directCapacityWindow
    rw [hreservations, hobservations]
  have hscheduled : (ampleContext state key run count locked).scheduledWorkItemCount = count := rfl
  have hloop : prepareDueRecords (ampleContext state key run count locked)
      (initialProgress handled [ampleWindow state count])
      (peekDueWorkItems handled.execution claimBuilderSectionWorkKind count) =
      .ok (initialProgress handled [ampleWindow state count]) :=
    prepareDueRecords_of_unleasable hnone
  have hwakeup : ∀ log, appendPrepareWakeup (ampleCommand state key run count)
      (ampleContext state key run count locked).occurredAt [ampleWindow state count] log =
        .ok (0, log) := by
    intro log
    have hopen : (ampleWindow state count).unavailableUntil = none :=
      observedUnavailableUntil_of_lastReset_le (le_refl _)
    unfold appendPrepareWakeup
    rw [firstWindowWakeupAt_ampleWindow]
    simp [firstUnavailableCapacityObservation, hopen]
  obtain ⟨final, hmark⟩ := setCommandStatus_of_mem hlogged .completed
    (ampleContext state key run count locked).occurredAt
  refine ⟨{ started := [], appendedNextCommandCount := 0 },
    { handled with commandLog := final }, ?_, rfl⟩
  unfold handlePrepareDispatchBatch prepareBatch walkDueItems
  rw [hread]
  simp only [bind, Except.bind, firstWindowWakeupAt_ampleWindow, hscheduled, hloop]
  unfold finishPrepare
  simp only [initialProgress, hwakeup, bind, Except.bind, List.mapM_nil, pure, Except.pure,
    appendPendingCommands, List.foldlM_nil, markCommandCompleted, hmark, ite_self]
  rfl

/-! One free item -/

/-- All items but one are held by other transactions. -/
def lockedExcept (workItemId other : String) : Bool := other ≠ workItemId

theorem leasableRow_lockedExcept {store : ExecutionStore} {workKind workItemId other : String}
    (hne : other ≠ workItemId) :
    leasableRow store (lockedExcept workItemId) workKind other = none := by
  cases hfound : leasableRow store (lockedExcept workItemId) workKind other with
  | none => rfl
  | some found =>
    have hfree := (leasableRow_eq_some_iff.mp hfound).2.2.2.2
    simp [lockedExcept, hne] at hfree

section Free

variable {state : DispatchState} {context : BatchContext} {due : List DueWorkItemRecord}
  {last : Nat} {record : DueWorkItemRecord} {before after : BatchProgress}

/-- A first item that can be leased and has room is started. -/
theorem PrepareStep.starts_free (h : PrepareStep context record before after)
    (hstarted : before.started = []) (hcount : 0 < context.scheduledWorkItemCount)
    {rest : List DueWorkItemRecord}
    (hample : Ample context.profile (record :: rest) before.windows)
    {found : WorkItemRow × ScheduleRow}
    (hleasable : leasableRow before.execution context.locked claimBuilderSectionWorkKind
      record.workItem.workItemId = some found) :
    record.workItem.workItemId ∈ after.started.map StartedAttempt.workItemId := by
  cases h with
  | full hfull =>
    rw [hstarted, List.length_nil] at hfull
    omega
  | noWindow hnone =>
    obtain ⟨window, hfits, _⟩ := hample.next context.occurredAt
    unfold requiredTokens at hnone
    rw [hfits] at hnone
    cases hnone
  | notLeased hnone =>
    rw [hleasable] at hnone
    cases hnone
  | dispatched hdispatched =>
    rw [hdispatched.started, List.map_append, List.mem_append]
    exact .inr (List.mem_singleton.mpr hdispatched.row_workItemId.symm)

/-- Where only one due item can be leased and there is room for all, a loop that
succeeds has started that item. -/
theorem prepareDueRecords_starts_free
    (hdue : ∀ record ∈ due, record ∈ dueWorkItems state.execution claimBuilderSectionWorkKind)
    (hnodup : (due.map fun record => record.workItem.workItemId).Nodup)
    (hrecord : due[last]? = some record) (hcount : 0 < context.scheduledWorkItemCount)
    (hlocked : context.locked = lockedExcept record.workItem.workItemId)
    {windows : List DirectCapacityWindow} (hample : Ample context.profile due windows)
    {progress : BatchProgress}
    (h : prepareDueRecords context (initialProgress state windows) due = .ok progress) :
    record.workItem.workItemId ∈ progress.started.map StartedAttempt.workItemId := by
  let holds (index : Nat) (progress : BatchProgress) : Prop :=
    (index ≤ last → progress.started = [] ∧ progress.execution = state.execution ∧
      Ample context.profile (due.drop index) progress.windows) ∧
    (last < index → record.workItem.workItemId ∈ progress.started.map StartedAttempt.workItemId)
  have hloop : Ends (holds (0 + due.length)) (fun _ => True)
      (prepareDueRecords context (initialProgress state windows) due) := by
    refine Ends.foldlM ?_ ⟨fun _ => ⟨rfl, rfl, hample⟩, fun hlt => by omega⟩
    intro index item hitem before hbefore
    rw [Nat.zero_add] at hbefore ⊢
    have hstep : Ends (PrepareStep context item before) (fun _ => True)
        (prepareDueRecord context before item) :=
      prepareDueRecord_ends (fun _ _ _ _ _ => trivial) fun _ _ _ _ _ _ _ => trivial
    rcases Nat.lt_trichotomy index last with hlt | heq | hgt
    · -- another item is held, so the pass changes nothing
      obtain ⟨hstarted, hexecution, hroom⟩ := hbefore.1 hlt.le
      have hne : item.workItem.workItemId ≠ record.workItem.workItemId := by
        intro hsame
        have hindex := dueIndex_unique hnodup hitem hrecord hsame
        omega
      rw [prepareDueRecord_of_unleasable (hlocked ▸ leasableRow_lockedExcept hne)]
      rw [drop_eq_cons hitem] at hroom
      exact ⟨fun _ => ⟨hstarted, hexecution, hroom.skip⟩, fun hgt => by omega⟩
    · obtain ⟨hstarted, hexecution, hroom⟩ := hbefore.1 heq.le
      rw [heq, drop_eq_cons hrecord] at hroom
      rw [heq, hrecord, Option.some.injEq] at hitem
      subst hitem
      have hfree : context.locked record.workItem.workItemId = false := by
        rw [hlocked]
        simp [lockedExcept]
      obtain ⟨row, schedule, hleasable⟩ := leasableRow_of_due
        (hdue record (List.mem_iff_getElem?.mpr ⟨last, hrecord⟩)) hfree
      refine hstep.mono (fun after hafter => ?_) fun _ h => h
      refine ⟨fun hle => by omega, fun _ => ?_⟩
      exact hafter.starts_free hstarted hcount hroom (hexecution ▸ hleasable)
    · refine hstep.mono (fun after hafter => ?_) fun _ h => h
      refine ⟨fun hle => by omega, fun _ => ?_⟩
      obtain ⟨attempt, hattempt, hid⟩ := List.mem_map.mp (hbefore.2 hgt)
      exact List.mem_map.mpr ⟨attempt, hafter.started_subset attempt hattempt, hid⟩
  rw [h] at hloop
  have hlast := (List.getElem?_eq_some_iff.mp hrecord).1
  exact hloop.2 (by omega)

end Free

end CrmBot.ClaimBuilder
