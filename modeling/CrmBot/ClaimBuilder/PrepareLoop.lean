import CrmBot.ClaimBuilder.PrepareDispatchBatch

/-! What the prepare loop can do.

`PrepareStep` says once what one pass over a due item can do; `BatchFrame` is
what every number of passes keeps of the execution tables. -/

namespace CrmBot.ClaimBuilder

open Relational CrmBot.Python CrmBot.ExecutionRuntime CrmBot.LlmRuntime CrmBot.WorkflowRuntime
  FailingFold

/-- The token under which the next item of a batch is leased. -/
def BatchProgress.nextToken (progress : BatchProgress) (context : BatchContext)
    (workItemId : String) : String :=
  claimBuilderAttemptId context.workflowRunId progress.started.length workItemId

/-- The execution tables after the lease of a row. -/
def leasedExecution (context : BatchContext) (execution : ExecutionStore) (token : String)
    (row : WorkItemRow) (workItemId : String) : ExecutionStore :=
  updateWorkItem execution workItemId
    (WorkItemStateMachine.leasedItem (hydrateWithoutRetryPlan row) claimBuilderDispatchWorker token
      context.leaseExpiresAt)
    (fun old => old.item.retryPlan) context.occurredAt

/-- The dispatch row of a leased item. -/
def dispatchRow (context : BatchContext) (token : String) (position : Nat) (row : WorkItemRow)
    (schedule : ScheduleRow) (route : RouteKey) (settings : ModelExecutionSettings) : DispatchRow :=
  buildDispatchRecord
    { workItem := WorkItemStateMachine.leasedItem (hydrateWithoutRetryPlan row)
        claimBuilderDispatchWorker token context.leaseExpiresAt
      schedulePayload := schedule.payload }
    token route position settings

def startedAttempt (dispatch : DispatchRow) : StartedAttempt :=
  { attemptId := dispatch.attemptId, workItemId := dispatch.workItemId
    attemptNumber := dispatch.attemptNumber, dispatchPayload := dispatch.dispatchPayload }

/-- The tokens that a due record needs of a window. -/
def requiredTokens (context : BatchContext) (record : DueWorkItemRecord) : Nat :=
  requiredWindowTokensForDueRecord record.schedulePayload context.profile

/-- A dispatched item: it was leased, started and reserved in the first window
that has room for it. -/
structure Dispatched (context : BatchContext) (record : DueWorkItemRecord)
    (before : BatchProgress) (index : Nat) (window : DirectCapacityWindow) (row : WorkItemRow)
    (schedule : ScheduleRow) (settings : ModelExecutionSettings) (after : BatchProgress) :
    Prop where
  room : before.started.length < context.scheduledWorkItemCount
  fits : firstCapacityWindowThatFits before.windows (requiredTokens context record)
    context.occurredAt = some (index, window)
  leasable : leasableRow before.execution context.locked claimBuilderSectionWorkKind
    record.workItem.workItemId = some (row, schedule)
  saved : SavedAttempt
    (leasedExecution context before.execution (before.nextToken context record.workItem.workItemId)
      row record.workItem.workItemId)
    (dispatchRow context (before.nextToken context record.workItem.workItemId)
      before.started.length row schedule window.capacity.route settings)
    context.occurredAt after.execution
  reservations : after.reservations = reserve before.reservations
    (directReservation context window.capacity
      (before.nextToken context record.workItem.workItemId) (requiredTokens context record)
      (requiredWindowTokensForDueRecord_pos _ _))
  windows : after.windows =
    before.windows.set index (window.reserveLocally (requiredTokens context record))
  started : after.started = before.started ++
    [startedAttempt (dispatchRow context
      (before.nextToken context record.workItem.workItemId) before.started.length row schedule
      window.capacity.route settings)]

/-- What one pass of the loop can do. -/
inductive PrepareStep (context : BatchContext) (record : DueWorkItemRecord)
    (before : BatchProgress) : BatchProgress → Prop
  | full (hfull : context.scheduledWorkItemCount ≤ before.started.length) :
      PrepareStep context record before before
  | noWindow
      (hnone : firstCapacityWindowThatFits before.windows (requiredTokens context record)
        context.occurredAt = none) :
      PrepareStep context record before before
  | notLeased
      (hnone : leasableRow before.execution context.locked claimBuilderSectionWorkKind
        record.workItem.workItemId = none) :
      PrepareStep context record before before
  | dispatched {index : Nat} {window : DirectCapacityWindow} {row : WorkItemRow}
      {schedule : ScheduleRow} {settings : ModelExecutionSettings} {after : BatchProgress}
      (h : Dispatched context record before index window row schedule settings after) :
      PrepareStep context record before after

theorem BatchContext.occurredAt_lt_leaseExpiresAt (context : BatchContext) :
    context.occurredAt < context.leaseExpiresAt := by
  unfold BatchContext.leaseExpiresAt leaseDuration microsPerSecond
  omega

/-- The loop body of an item with a window, once the lease is resolved. -/
theorem dispatchDueRecord_eq (context : BatchContext) (progress : BatchProgress)
    (record : DueWorkItemRecord) (index : Nat) (window : DirectCapacityWindow) :
    dispatchDueRecord context progress record index window =
      match leasableRow progress.execution context.locked claimBuilderSectionWorkKind
          record.workItem.workItemId with
      | none => .ok progress
      | some (row, schedule) => do
        let token := progress.nextToken context record.workItem.workItemId
        let settings ←
          context.catalog.executionSettingsForModelRef window.capacity.route.modelRef
        let dispatch := dispatchRow context token progress.started.length row schedule
          window.capacity.route settings
        let execution ← saveStartedDispatchAttempt
          (leasedExecution context progress.execution token row record.workItem.workItemId)
          dispatch context.occurredAt
        return {
          execution := execution
          reservations := reserve progress.reservations
            (directReservation context window.capacity token (requiredTokens context record)
              (requiredWindowTokensForDueRecord_pos _ _))
          windows := progress.windows.set index
            (window.reserveLocally (requiredTokens context record))
          started := progress.started ++ [startedAttempt dispatch] } := by
  unfold dispatchDueRecord
  simp only [leaseDueWorkItemById_eq context.occurredAt_lt_leaseExpiresAt]
  cases leasableRow progress.execution context.locked claimBuilderSectionWorkKind
      record.workItem.workItemId with
  | none => rfl
  | some found => rfl

/-- An item that cannot be leased is passed over. -/
theorem prepareDueRecord_of_unleasable {context : BatchContext} {progress : BatchProgress}
    {record : DueWorkItemRecord}
    (hnone : leasableRow progress.execution context.locked claimBuilderSectionWorkKind
      record.workItem.workItemId = none) :
    prepareDueRecord context progress record = .ok progress := by
  unfold prepareDueRecord
  split
  · rfl
  · split
    · rfl
    · rw [dispatchDueRecord_eq, hnone]

theorem prepareDueRecords_of_unleasable {context : BatchContext} {progress : BatchProgress}
    {due : List DueWorkItemRecord}
    (hnone : ∀ record ∈ due, leasableRow progress.execution context.locked
      claimBuilderSectionWorkKind record.workItem.workItemId = none) :
    prepareDueRecords context progress due = .ok progress := by
  unfold prepareDueRecords
  induction due with
  | nil => rfl
  | cons record rest ih =>
    rw [List.foldlM_cons, prepareDueRecord_of_unleasable (hnone record List.mem_cons_self)]
    exact ih fun other hother => hnone other (List.mem_cons_of_mem _ hother)

/-! Windows that fit -/

section Windows

variable {windows : List DirectCapacityWindow} {now : Int}

theorem getElem?_of_firstCapacityWindowThatFits {required index : Nat}
    {window : DirectCapacityWindow}
    (h : firstCapacityWindowThatFits windows required now = some (index, window)) :
    windows[index]? = some window ∧ window.fits required now = true := by
  unfold firstCapacityWindowThatFits at h
  obtain ⟨found, hfound, hpair⟩ := Option.bind_eq_some_iff.mp h
  obtain ⟨other, hother, heq⟩ := Option.map_eq_some_iff.mp hpair
  cases heq
  obtain ⟨hlt, hfits, _⟩ := List.findIdx?_eq_some_iff_getElem.mp hfound
  rw [List.getElem?_eq_getElem hlt] at hother
  cases hother
  exact ⟨List.getElem?_eq_getElem hlt, hfits⟩

theorem firstCapacityWindowThatFits_eq_none_iff {required : Nat} :
    firstCapacityWindowThatFits windows required now = none ↔
      ∀ window ∈ windows, window.fits required now = false := by
  unfold firstCapacityWindowThatFits
  rw [Option.bind_eq_none_iff]
  constructor
  · intro h window hmem
    cases hfits : window.fits required now with
    | false => rfl
    | true =>
      cases hindex : windows.findIdx? fun window => window.fits required now with
      | none =>
        rw [List.findIdx?_eq_none_iff] at hindex
        rw [hindex window hmem] at hfits
        cases hfits
      | some index =>
        obtain ⟨hlt, _⟩ := List.findIdx?_eq_some_iff_getElem.mp hindex
        have hnone := h index hindex
        rw [List.getElem?_eq_getElem hlt] at hnone
        cases hnone
  · intro h index hindex
    obtain ⟨hlt, hfits, _⟩ := List.findIdx?_eq_some_iff_getElem.mp hindex
    rw [h _ (List.getElem_mem hlt)] at hfits
    cases hfits

/-- A window that fits is open, and the tokens and a request are left in it. -/
theorem DirectCapacityWindow.fits_iff {window : DirectCapacityWindow} {required : Nat} :
    window.fits required now = true ↔ window.availableNow now = true ∧
      0 < window.remainingMinuteRequests ∧ 0 < window.remainingDailyRequests ∧
      required ≤ window.remainingMinuteTokens ∧ required ≤ window.remainingDailyTokens := by
  unfold DirectCapacityWindow.fits DirectCapacityWindow.maxRequiredWindowTokens
  simp only [Bool.and_eq_true, decide_eq_true_eq, Nat.le_min, and_assoc]

end Windows

/-- One pass of the loop does what `PrepareStep` says, unless the catalog does not
know the model of the window or the attempt cannot be saved. -/
theorem prepareDueRecord_ends {fails : Fault → Prop} {context : BatchContext}
    {record : DueWorkItemRecord} {before : BatchProgress}
    (hcatalog : ∀ index window fault,
      firstCapacityWindowThatFits before.windows (requiredTokens context record)
        context.occurredAt = some (index, window) →
      context.catalog.executionSettingsForModelRef window.capacity.route.modelRef = .error fault →
      fails fault)
    (hsave : ∀ row schedule route settings fault,
      leasableRow before.execution context.locked claimBuilderSectionWorkKind
        record.workItem.workItemId = some (row, schedule) →
      saveStartedDispatchAttempt
        (leasedExecution context before.execution
          (before.nextToken context record.workItem.workItemId) row record.workItem.workItemId)
        (dispatchRow context (before.nextToken context record.workItem.workItemId)
          before.started.length row schedule route settings)
        context.occurredAt = .error fault → fails fault) :
    Ends (PrepareStep context record before) fails (prepareDueRecord context before record) := by
  unfold prepareDueRecord
  split
  · next hfull => exact .full hfull
  · next hroom =>
    split
    · next hnone => exact .noWindow hnone
    · next index window hfits =>
      rw [dispatchDueRecord_eq]
      cases hlease : leasableRow before.execution context.locked claimBuilderSectionWorkKind
          record.workItem.workItemId with
      | none => exact .notLeased hlease
      | some found =>
        obtain ⟨row, schedule⟩ := found
        cases hsettings :
            context.catalog.executionSettingsForModelRef window.capacity.route.modelRef with
        | error fault => exact hcatalog index window fault hfits hsettings
        | ok settings =>
          cases hsaved : saveStartedDispatchAttempt
              (leasedExecution context before.execution
                (before.nextToken context record.workItem.workItemId) row
                record.workItem.workItemId)
              (dispatchRow context (before.nextToken context record.workItem.workItemId)
                before.started.length row schedule window.capacity.route settings)
              context.occurredAt with
          | error fault =>
            have hfault := hsave row schedule _ settings fault hlease hsaved
            simpa [bind, Except.bind, hsaved] using hfault
          | ok execution =>
            have hends := saveStartedDispatchAttempt_ends
              (leasedExecution context before.execution
                (before.nextToken context record.workItem.workItemId) row
                record.workItem.workItemId)
              (dispatchRow context (before.nextToken context record.workItem.workItemId)
                before.started.length row schedule window.capacity.route settings)
              context.occurredAt
            rw [hsaved] at hends
            simp only [bind, Except.bind, hsaved]
            exact .dispatched ⟨by omega, hfits, hlease, hends, rfl, rfl, rfl⟩

namespace Dispatched

variable {context : BatchContext} {record : DueWorkItemRecord} {before after : BatchProgress}
  {index : Nat} {window : DirectCapacityWindow} {row : WorkItemRow} {schedule : ScheduleRow}
  {settings : ModelExecutionSettings}

theorem row_found (h : Dispatched context record before index window row schedule settings after) :
    before.execution.workItems.find? record.workItem.workItemId = some row :=
  (leasableRow_eq_some_iff.mp h.leasable).1

theorem row_workItemId
    (h : Dispatched context record before index window row schedule settings after) :
    row.workItemId = record.workItem.workItemId :=
  (Table.find?_eq_some_iff.mp h.row_found).2

theorem row_due (h : Dispatched context record before index window row schedule settings after) :
    row.item.status.isWaiting = true :=
  (leasableRow_eq_some_iff.mp h.leasable).2.2.2.1

/-- Only the row of the item changes. -/
theorem find?_of_ne (h : Dispatched context record before index window row schedule settings after)
    {workItemId : String} (hne : workItemId ≠ record.workItem.workItemId) :
    after.execution.workItems.find? workItemId = before.execution.workItems.find? workItemId := by
  rw [h.saved.workItems]
  exact find?_updateWorkItem_of_ne hne

/-- The row of the item is leased under the token until the lease expires. -/
theorem find?_self (h : Dispatched context record before index window row schedule settings after) :
    after.execution.workItems.find? record.workItem.workItemId =
      some (row.setLifecycle
        (WorkItemStateMachine.leasedItem (hydrateWithoutRetryPlan row) claimBuilderDispatchWorker
          (before.nextToken context record.workItem.workItemId) context.leaseExpiresAt)
        row.item.retryPlan context.occurredAt) := by
  rw [h.saved.workItems]
  exact find?_updateWorkItem_self h.row_found

theorem schedules_eq
    (h : Dispatched context record before index window row schedule settings after) :
    after.execution.schedules = before.execution.schedules := h.saved.schedules

/-- The attempt is new, so where reservations belong to dispatches none is stored
under its id. -/
theorem reservations_rows
    (h : Dispatched context record before index window row schedule settings after)
    (hreserved : ∀ reservation ∈ before.reservations.rows,
      reservation.attemptId ∈ before.execution.dispatches.keys) :
    after.reservations.rows = before.reservations.rows ++
      [directReservation context window.capacity
        (before.nextToken context record.workItem.workItemId) (requiredTokens context record)
        (requiredWindowTokensForDueRecord_pos _ _)] := by
  rw [h.reservations]
  apply Table.rows_insertOrIgnore_of_notMem
  intro hmem
  obtain ⟨old, hold, hid⟩ := Table.mem_keys.mp hmem
  have hdispatched := hreserved old hold
  rw [hid] at hdispatched
  exact h.saved.dispatch_new hdispatched

end Dispatched

/-- What the loop keeps of the tables it started from: schedules and the rows of
all items it did not start are the same, and the items it started are leased
under the ids of their attempts, which count the positions in the batch. -/
structure BatchFrame (context : BatchContext) (initial : ExecutionStore)
    (progress : BatchProgress) : Prop where
  schedules : progress.execution.schedules = initial.schedules
  untouched : ∀ workItemId, workItemId ∉ progress.started.map StartedAttempt.workItemId →
    progress.execution.workItems.find? workItemId = initial.workItems.find? workItemId
  leased : ∀ position attempt, progress.started[position]? = some attempt →
    attempt.attemptId = claimBuilderAttemptId context.workflowRunId position attempt.workItemId ∧
    ∃ row, progress.execution.workItems.find? attempt.workItemId = some row ∧
      row.item.status = .leased ∧ row.item.leaseToken = some attempt.attemptId ∧
      row.item.leaseExpiresAt = some context.leaseExpiresAt

theorem batchFrame_initial (context : BatchContext) (state : DispatchState)
    (windows : List DirectCapacityWindow) :
    BatchFrame context state.execution (initialProgress state windows) := by
  refine ⟨rfl, fun _ _ => rfl, ?_⟩
  intro position attempt hattempt
  simp [initialProgress] at hattempt

/-- A started item is leased, so it is not due again. -/
theorem BatchFrame.notMem_started {context : BatchContext} {initial : ExecutionStore}
    {progress : BatchProgress} (hframe : BatchFrame context initial progress) {workItemId : String}
    {row : WorkItemRow} (hfind : progress.execution.workItems.find? workItemId = some row)
    (hdue : row.item.status.isWaiting = true) :
    workItemId ∉ progress.started.map StartedAttempt.workItemId := by
  intro hmem
  obtain ⟨attempt, hattempt, rfl⟩ := List.mem_map.mp hmem
  obtain ⟨position, hposition⟩ := List.mem_iff_getElem?.mp hattempt
  obtain ⟨_, leasedRow, hleased, hstatus, _⟩ := hframe.leased position attempt hposition
  rw [hfind, Option.some.injEq] at hleased
  rw [hleased, hstatus] at hdue
  simp [WorkItemStatus.isWaiting] at hdue

/-- An item that the batch has not started is leasable if it was before the batch. -/
theorem BatchFrame.leasableRow_eq {context : BatchContext} {initial : ExecutionStore}
    {progress : BatchProgress} (hframe : BatchFrame context initial progress) {workItemId : String}
    (hnew : workItemId ∉ progress.started.map StartedAttempt.workItemId)
    (locked : String → Bool) (workKind : String) :
    leasableRow progress.execution locked workKind workItemId =
      leasableRow initial locked workKind workItemId := by
  unfold leasableRow
  rw [hframe.untouched workItemId hnew, hframe.schedules]

theorem batchFrame_step {context : BatchContext} {initial : ExecutionStore}
    {record : DueWorkItemRecord} {before after : BatchProgress}
    (hframe : BatchFrame context initial before)
    (hstep : PrepareStep context record before after) : BatchFrame context initial after := by
  cases hstep with
  | full => exact hframe
  | noWindow => exact hframe
  | notLeased => exact hframe
  | @dispatched index window row schedule settings _ h =>
    have hnew := hframe.notMem_started h.row_found h.row_due
    have hid := h.row_workItemId
    have hworkItemId : (startedAttempt (dispatchRow context
        (before.nextToken context record.workItem.workItemId) before.started.length row schedule
        window.capacity.route settings)).workItemId = record.workItem.workItemId := hid
    refine ⟨h.schedules_eq.trans hframe.schedules, ?_, ?_⟩
    · intro workItemId hnot
      rw [h.started, List.map_append, List.mem_append, not_or, List.map_singleton,
        List.mem_singleton, hworkItemId] at hnot
      rw [h.find?_of_ne hnot.2]
      exact hframe.untouched workItemId hnot.1
    · intro position attempt hattempt
      rw [h.started] at hattempt
      rcases Nat.lt_trichotomy position before.started.length with hlt | heq | hgt
      · rw [List.getElem?_append_left hlt] at hattempt
        obtain ⟨hattemptId, leasedRow, hfind, hrest⟩ := hframe.leased position attempt hattempt
        have hne : attempt.workItemId ≠ record.workItem.workItemId := by
          intro heq
          have hmem := List.mem_iff_getElem?.mpr ⟨position, hattempt⟩
          exact hnew (heq ▸ List.mem_map_of_mem hmem)
        exact ⟨hattemptId, leasedRow, (h.find?_of_ne hne).trans hfind, hrest⟩
      · rw [heq, List.getElem?_append_right (le_refl _), Nat.sub_self, List.getElem?_cons_zero,
          Option.some.injEq] at hattempt
        rw [← hattempt, hworkItemId, heq]
        exact ⟨rfl, _, h.find?_self, rfl, rfl, rfl⟩
      · have hlength : before.started.length + 1 ≤ position := by omega
        rw [List.getElem?_eq_none (by simpa using hlength)] at hattempt
        simp at hattempt

theorem dueIndex_unique {due : List DueWorkItemRecord}
    (hnodup : (due.map fun record => record.workItem.workItemId).Nodup) {first second : Nat}
    {record other : DueWorkItemRecord} (hfirst : due[first]? = some record)
    (hsecond : due[second]? = some other)
    (hsame : record.workItem.workItemId = other.workItem.workItemId) : first = second := by
  have hlt : first < (due.map fun record => record.workItem.workItemId).length := by
    rw [List.length_map]
    exact (List.getElem?_eq_some_iff.mp hfirst).1
  refine (List.getElem?_inj hlt hnodup).mp ?_
  rw [List.getElem?_map, List.getElem?_map, hfirst, hsecond, Option.map_some, Option.map_some,
    hsame]

theorem drop_eq_cons {due : List DueWorkItemRecord} {index : Nat} {record : DueWorkItemRecord}
    (hrecord : due[index]? = some record) : due.drop index = record :: due.drop (index + 1) := by
  rw [List.drop_eq_getElem?_toList_append, hrecord]
  rfl

/-- A step starts at most the item of its record. -/
theorem PrepareStep.started_mem {context : BatchContext} {record : DueWorkItemRecord}
    {before after : BatchProgress} (hstep : PrepareStep context record before after) :
    ∀ attempt ∈ after.started, attempt ∈ before.started ∨
      record.workItem.workItemId = attempt.workItemId := by
  intro attempt hattempt
  cases hstep with
  | full => exact .inl hattempt
  | noWindow => exact .inl hattempt
  | notLeased => exact .inl hattempt
  | dispatched h =>
    rw [h.started, List.mem_append, List.mem_singleton] at hattempt
    rcases hattempt with hold | rfl
    · exact .inl hold
    · exact .inr h.row_workItemId.symm

theorem PrepareStep.started_subset {context : BatchContext} {record : DueWorkItemRecord}
    {before after : BatchProgress} (hstep : PrepareStep context record before after) :
    ∀ attempt ∈ before.started, attempt ∈ after.started := by
  intro attempt hattempt
  cases hstep with
  | full => exact hattempt
  | noWindow => exact hattempt
  | notLeased => exact hattempt
  | dispatched h =>
    rw [h.started]
    exact List.mem_append_left _ hattempt

section Steps

variable {context : BatchContext} {record : DueWorkItemRecord} {before after : BatchProgress}

theorem prepareStep_of_ok (h : prepareDueRecord context before record = .ok after) :
    PrepareStep context record before after := by
  have hends : Ends (PrepareStep context record before) (fun _ => True)
      (prepareDueRecord context before record) :=
    prepareDueRecord_ends (fun _ _ _ _ _ => trivial) fun _ _ _ _ _ _ _ => trivial
  rw [h] at hends
  exact hends

/-- The loop drops no attempt that it started. -/
theorem started_subset_of_run {due : List DueWorkItemRecord}
    (hrun : prepareDueRecords context before due = .ok after) :
    ∀ attempt ∈ before.started, attempt ∈ after.started := by
  unfold prepareDueRecords at hrun
  induction due generalizing before with
  | nil =>
    cases hrun
    exact fun _ hattempt => hattempt
  | cons record rest ih =>
    rw [List.foldlM_cons] at hrun
    obtain ⟨middle, hstep, hrest⟩ := bind_eq_ok.mp hrun
    intro attempt hattempt
    exact ih hrest attempt ((prepareStep_of_ok hstep).started_subset attempt hattempt)

/-- A leasable item that a window fits is dispatched. -/
theorem PrepareStep.dispatched_of {windowIndex : Nat} {window : DirectCapacityWindow}
    (hstep : PrepareStep context record before after)
    (hroom : before.started.length < context.scheduledWorkItemCount)
    (hfits : firstCapacityWindowThatFits before.windows (requiredTokens context record)
      context.occurredAt = some (windowIndex, window))
    (hleasable : (leasableRow before.execution context.locked claimBuilderSectionWorkKind
      record.workItem.workItemId).isSome = true) :
    ∃ row schedule settings,
      Dispatched context record before windowIndex window row schedule settings after := by
  cases hstep with
  | full hfull => omega
  | noWindow hnone =>
    rw [hfits] at hnone
    cases hnone
  | notLeased hnone =>
    rw [hnone] at hleasable
    cases hleasable
  | @dispatched otherIndex other row schedule settings _ h =>
    have hsame := hfits.symm.trans h.fits
    cases hsame
    exact ⟨row, schedule, settings, h⟩

end Steps

section Known

variable {context : BatchContext} {record : DueWorkItemRecord} {before after : BatchProgress}

/-- The catalog knows the models of the windows. -/
def KnownModels (catalog : RouteCatalog) (windows : List DirectCapacityWindow) : Prop :=
  ∀ window ∈ windows, ∃ settings,
    catalog.executionSettingsForModelRef window.capacity.route.modelRef = .ok settings

theorem KnownModels.step (h : KnownModels context.catalog before.windows)
    (hstep : PrepareStep context record before after) :
    KnownModels context.catalog after.windows := by
  cases hstep with
  | full => exact h
  | noWindow => exact h
  | notLeased => exact h
  | dispatched hdispatched =>
    have hwindow := (getElem?_of_firstCapacityWindowThatFits hdispatched.fits).1
    intro other hother
    rw [hdispatched.windows] at hother
    rcases List.mem_or_eq_of_mem_set hother with hold | rfl
    · exact h other hold
    · have hsettings := h _ (List.mem_of_getElem? hwindow)
      exact hsettings

/-- With known models only a constraint of the database refuses an item. -/
theorem prepareDueRecord_violates (hknown : KnownModels context.catalog before.windows) :
    Ends (PrepareStep context record before) Fault.IsUniqueViolation
      (prepareDueRecord context before record) := by
  refine prepareDueRecord_ends ?_ ?_
  · intro index window fault hfits hfault
    obtain ⟨settings, hsettings⟩ :=
      hknown window (List.mem_of_getElem? (getElem?_of_firstCapacityWindowThatFits hfits).1)
    rw [hsettings] at hfault
    cases hfault
  · intro row schedule route settings fault _ hfault
    have hends := saveStartedDispatchAttempt_ends
      (leasedExecution context before.execution
        (before.nextToken context record.workItem.workItemId) row record.workItem.workItemId)
      (dispatchRow context (before.nextToken context record.workItem.workItemId)
        before.started.length row schedule route settings) context.occurredAt
    rw [hfault] at hends
    exact hends

theorem prepareDueRecords_violates {due : List DueWorkItemRecord}
    (hknown : KnownModels context.catalog before.windows) :
    Ends (fun progress => KnownModels context.catalog progress.windows) Fault.IsUniqueViolation
      (prepareDueRecords context before due) := by
  refine Ends.foldlM_keeps ?_ hknown
  intro record _ middle hmiddle
  exact (prepareDueRecord_violates hmiddle).mono (fun _ hstep => hmiddle.step hstep)
    fun _ hfault => hfault

end Known

/-- The whole loop keeps the frame and starts only due items. -/
theorem prepareDueRecords_frame {context : BatchContext} {state : DispatchState}
    {windows : List DirectCapacityWindow} {due : List DueWorkItemRecord} {progress : BatchProgress}
    (h : prepareDueRecords context (initialProgress state windows) due = .ok progress) :
    BatchFrame context state.execution progress ∧
      ∀ attempt ∈ progress.started, ∃ record ∈ due,
        record.workItem.workItemId = attempt.workItemId := by
  let holds (_ : Nat) (progress : BatchProgress) : Prop :=
    BatchFrame context state.execution progress ∧
      ∀ attempt ∈ progress.started, ∃ record ∈ due,
        record.workItem.workItemId = attempt.workItemId
  have hloop : Ends (holds (0 + due.length)) (fun _ => True)
      (prepareDueRecords context (initialProgress state windows) due) := by
    refine Ends.foldlM ?_ ⟨batchFrame_initial context state windows, by simp [initialProgress]⟩
    intro index record hrecord before ⟨hframe, hstarted⟩
    have hmem : record ∈ due := List.mem_iff_getElem?.mpr ⟨index, hrecord⟩
    have hstep : Ends (PrepareStep context record before) (fun _ => True)
        (prepareDueRecord context before record) :=
      prepareDueRecord_ends (fun _ _ _ _ _ => trivial) fun _ _ _ _ _ _ _ => trivial
    refine hstep.mono (fun after hafter => ⟨batchFrame_step hframe hafter, ?_⟩) fun _ h => h
    intro attempt hattempt
    rcases hafter.started_mem attempt hattempt with hold | hnew
    · exact hstarted attempt hold
    · exact ⟨record, hmem, hnew⟩
  rw [h] at hloop
  exact hloop

end CrmBot.ClaimBuilder
