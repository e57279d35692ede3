import CrmBot.ClaimBuilder.AttemptIdentity

/-! What one prepare reserves on each route.

The windows remember what the prepare reserved in them, the table what was reserved
on a route. The two agree as long as each route has one window. -/

namespace CrmBot.ClaimBuilder

open Relational CrmBot.Python CrmBot.ExecutionRuntime CrmBot.LlmRuntime CrmBot.WorkflowRuntime
  FailingFold

/-- The capacities that the handler uses of those in the payload. -/
def UsesCapacities (command : WorkflowCommand) (capacities : List ProviderAccountCapacity) : Prop :=
  ∃ activeModelRef, activeModelRefFromPayload command.payload = .ok activeModelRef ∧
    capacitiesForDirectPrepare command.payload activeModelRef = .ok capacities

/-- A total of one route stays within a capacity listed for it, or does not grow. -/
def WithinListed (capacities : List ProviderAccountCapacity) (route : RouteKey)
    (amount : ProviderAccountCapacity → Nat) (before after : Nat) : Prop :=
  after ≤ before ∨ ∃ capacity ∈ capacities, capacity.route = route ∧ after ≤ amount capacity

structure WithinCapacities (capacities : List ProviderAccountCapacity) (now : Int)
    (before after : Table RouteReservation.attemptId) : Prop where
  minuteRequests : ∀ route,
    WithinListed capacities route ProviderAccountCapacity.remainingMinuteRequests
      (activeReservedRequests before route now) (activeReservedRequests after route now)
  minuteTokens : ∀ route,
    WithinListed capacities route ProviderAccountCapacity.remainingMinuteTokens
      (activeReservedTokens before route now) (activeReservedTokens after route now)
  dailyRequests : ∀ route,
    WithinListed capacities route ProviderAccountCapacity.remainingDailyRequests
      (activeReservedRequests before route now) (activeReservedRequests after route now)
  dailyTokens : ∀ route,
    WithinListed capacities route ProviderAccountCapacity.remainingDailyTokens
      (activeReservedTokens before route now) (activeReservedTokens after route now)

/-- The attempt has an active reservation of one request and of the tokens that its
item needs. -/
def ReservesRequired (profile : TaskCapacityProfile) (execution : ExecutionStore)
    (reservations : Table RouteReservation.attemptId) (attempt : StartedAttempt) : Prop :=
  ∃ reservation ∈ reservations.rows, ∃ schedule,
    execution.schedules.find? attempt.workItemId = some schedule ∧
      reservation.attemptId = attempt.attemptId ∧ reservation.status = .active ∧
      reservation.reservedRequests = 1 ∧
      reservation.reservedTokens = requiredWindowTokensForDueRecord schedule.payload profile

/-- Some capacity, less what is reserved on its route, has room. -/
def HasRoom (state : DispatchState) (capacities : List ProviderAccountCapacity) (now : Int)
    (tokens : Nat) : Prop :=
  ∃ capacity ∈ capacities, (directCapacityWindow state now capacity).fits tokens now = true

/-- A due item that could be leased and was not started found no room after the
items before it. -/
def SkipsOnlyWithoutRoom (context : BatchContext) (state : DispatchState)
    (windows : List DirectCapacityWindow) (capacities : List ProviderAccountCapacity)
    (started : List StartedAttempt) : Prop :=
  ∀ (index : Nat) (record : DueWorkItemRecord) (progress : BatchProgress),
    (peekDueWorkItems state.execution claimBuilderSectionWorkKind
      context.scheduledWorkItemCount)[index]? = some record →
    record.workItem.workItemId ∉ started.map StartedAttempt.workItemId →
    (leasableRow state.execution context.locked claimBuilderSectionWorkKind
      record.workItem.workItemId).isSome = true →
    prepareDueRecords context (initialProgress state windows)
      ((peekDueWorkItems state.execution claimBuilderSectionWorkKind
        context.scheduledWorkItemCount).take index) = .ok progress →
    ¬ HasRoom { state with reservations := progress.reservations } capacities
      context.occurredAt (requiredTokens context record)

/-- What a prepare should do with the capacities it uses. -/
structure KeepsBudget (context : BatchContext) (windows : List DirectCapacityWindow)
    (capacities : List ProviderAccountCapacity) (before after : DispatchState)
    (started : List StartedAttempt) : Prop where
  within : WithinCapacities capacities context.occurredAt before.reservations after.reservations
  reserves : ∀ attempt ∈ started,
    ReservesRequired context.profile before.execution after.reservations attempt
  greedy : SkipsOnlyWithoutRoom context before windows capacities started

/-- Only dispatched attempts have reservations, as every history of prepares keeps it. -/
def ReservesDispatches (state : DispatchState) : Prop :=
  ∀ reservation ∈ state.reservations.rows,
    reservation.attemptId ∈ state.execution.dispatches.keys

/-! The windows and the table -/

variable {context : BatchContext} {state : DispatchState} {command : WorkflowCommand}
  {capacities : List ProviderAccountCapacity} {windows : List DirectCapacityWindow}
  {record : DueWorkItemRecord} {before after : BatchProgress} {now : Int}

/-- The state with the reservations that the loop has made. -/
def BatchProgress.inState (progress : BatchProgress) (state : DispatchState) : DispatchState :=
  { state with reservations := progress.reservations }

/-- The window of the reserved capacity loses what its route gains. -/
theorem directCapacityWindow_reserved {capacity : ProviderAccountCapacity}
    {reserved : DispatchState} {reservation : RouteReservation}
    (hrows : reserved.reservations.rows = state.reservations.rows ++ [reservation])
    (hobservations : reserved.observations = state.observations)
    (hactive : reservation.status = .active) (hopen : now < reservation.expiresAt)
    (hroute : reservation.route = capacity.route) :
    directCapacityWindow reserved now capacity =
      (directCapacityWindow state now capacity).reserveLocally reservation.reservedTokens := by
  unfold directCapacityWindow DirectCapacityWindow.reserveLocally
  rw [hobservations, activeReservedRequests_append hrows hactive hopen,
    activeReservedTokens_append hrows hactive hopen, if_pos hroute, if_pos hroute]
  simp only [Nat.sub_add_eq]

theorem directCapacityWindow_of_other_route {capacity : ProviderAccountCapacity}
    {reserved : DispatchState} {reservation : RouteReservation}
    (hrows : reserved.reservations.rows = state.reservations.rows ++ [reservation])
    (hobservations : reserved.observations = state.observations)
    (hactive : reservation.status = .active) (hopen : now < reservation.expiresAt)
    (hroute : reservation.route ≠ capacity.route) :
    directCapacityWindow reserved now capacity = directCapacityWindow state now capacity := by
  unfold directCapacityWindow
  rw [hobservations, activeReservedRequests_append hrows hactive hopen,
    activeReservedTokens_append hrows hactive hopen, if_neg hroute, if_neg hroute]
  simp only [Nat.add_zero]

/-- With one window for each route, reserving in one of them is reserving on its
route. -/
theorem windows_reserved {index : Nat} {window : DirectCapacityWindow} {reserved : DispatchState}
    {reservation : RouteReservation}
    (hdistinct : (capacities.map ProviderAccountCapacity.route).Nodup)
    (hwindow : (capacities.map (directCapacityWindow state now))[index]? = some window)
    (hrows : reserved.reservations.rows = state.reservations.rows ++ [reservation])
    (hobservations : reserved.observations = state.observations)
    (hactive : reservation.status = .active) (hopen : now < reservation.expiresAt)
    (hroute : reservation.route = window.capacity.route) :
    (capacities.map (directCapacityWindow state now)).set index
        (window.reserveLocally reservation.reservedTokens) =
      capacities.map (directCapacityWindow reserved now) := by
  rw [List.getElem?_map] at hwindow
  obtain ⟨capacity, hcapacity, rfl⟩ := Option.map_eq_some_iff.mp hwindow
  have hsame : reservation.route = capacity.route := hroute
  apply List.ext_getElem?
  intro position
  rw [List.getElem?_set, List.getElem?_map, List.getElem?_map, List.length_map]
  split
  · next heq =>
    have hlt : index < capacities.length := (List.getElem?_eq_some_iff.mp hcapacity).1
    rw [if_pos hlt, ← heq, hcapacity, Option.map_some,
      directCapacityWindow_reserved hrows hobservations hactive hopen hsame]
  · next hne =>
    cases hother : capacities[position]? with
    | none => rfl
    | some other =>
      have hroutes : reservation.route ≠ other.route := by
        intro heq
        apply hne
        have hlt : index < (capacities.map ProviderAccountCapacity.route).length := by
          rw [List.length_map]
          exact (List.getElem?_eq_some_iff.mp hcapacity).1
        apply (List.getElem?_inj hlt hdistinct).mp
        rw [List.getElem?_map, List.getElem?_map, hcapacity, hother, Option.map_some,
          Option.map_some, ← hsame, heq]
      rw [Option.map_some, Option.map_some,
        directCapacityWindow_of_other_route hrows hobservations hactive hopen hroutes]

/-! The loop -/

/-- Totals that fit a listed capacity beside what is reserved stay within it. -/
theorem WithinListed.reserve {route : RouteKey} {amount : ProviderAccountCapacity → Nat}
    {first last added : Nat} {reservation : RouteReservation} {capacity : ProviderAccountCapacity}
    (h : WithinListed capacities route amount first last) (hmem : capacity ∈ capacities)
    (hroute : reservation.route = capacity.route)
    (hroom : capacity.route = route → last + added ≤ amount capacity) :
    WithinListed capacities route amount first
      (last + if reservation.route = route then added else 0) := by
  split
  · next heq =>
    have hsame : capacity.route = route := hroute.symm.trans heq
    exact .inr ⟨capacity, hmem, hsame, hroom hsame⟩
  · exact h

/-- A reservation that fits the window of its capacity keeps all totals within. -/
theorem WithinCapacities.reserve {first last : Table RouteReservation.attemptId}
    {reservation : RouteReservation} {capacity : ProviderAccountCapacity}
    (h : WithinCapacities capacities now first state.reservations)
    (hrows : last.rows = state.reservations.rows ++ [reservation])
    (hactive : reservation.status = .active) (hopen : now < reservation.expiresAt)
    (hmem : capacity ∈ capacities) (hroute : reservation.route = capacity.route)
    (hfits : (directCapacityWindow state now capacity).fits reservation.reservedTokens now = true) :
    WithinCapacities capacities now first last := by
  obtain ⟨_, hminuteRequests, hdailyRequests, hminuteTokens, hdailyTokens⟩ :=
    DirectCapacityWindow.fits_iff.mp hfits
  have hpositive := reservation.reserved_pos.2
  simp only [directCapacityWindow] at hminuteRequests hdailyRequests hminuteTokens hdailyTokens
  constructor
  · intro route
    rw [activeReservedRequests_append hrows hactive hopen]
    apply (h.minuteRequests route).reserve hmem hroute
    rintro rfl
    omega
  · intro route
    rw [activeReservedTokens_append hrows hactive hopen]
    apply (h.minuteTokens route).reserve hmem hroute
    rintro rfl
    omega
  · intro route
    rw [activeReservedRequests_append hrows hactive hopen]
    apply (h.dailyRequests route).reserve hmem hroute
    rintro rfl
    omega
  · intro route
    rw [activeReservedTokens_append hrows hactive hopen]
    apply (h.dailyTokens route).reserve hmem hroute
    rintro rfl
    omega

/-- What the loop keeps after a number of due items. -/
structure BudgetFrame (context : BatchContext) (state : DispatchState)
    (capacities : List ProviderAccountCapacity) (index : Nat) (progress : BatchProgress) :
    Prop where
  frame : BatchFrame context state.execution progress
  length_le : progress.started.length ≤ index
  dispatched : ∀ reservation ∈ progress.reservations.rows,
    reservation.attemptId ∈ progress.execution.dispatches.keys
  windows : progress.windows =
    capacities.map (directCapacityWindow (progress.inState state) context.occurredAt)
  within : WithinCapacities capacities context.occurredAt state.reservations
    progress.reservations
  reserves : ∀ attempt ∈ progress.started,
    ReservesRequired context.profile state.execution progress.reservations attempt

theorem budgetFrame_initial (hreserves : ReservesDispatches state) :
    BudgetFrame context state capacities 0
      (initialProgress state (capacities.map (directCapacityWindow state context.occurredAt))) where
  frame := batchFrame_initial context state _
  length_le := Nat.le_refl 0
  dispatched := hreserves
  windows := rfl
  within :=
    ⟨fun _ => .inl (Nat.le_refl _), fun _ => .inl (Nat.le_refl _),
      fun _ => .inl (Nat.le_refl _), fun _ => .inl (Nat.le_refl _)⟩
  reserves := fun _ hattempt => absurd hattempt List.not_mem_nil

theorem BudgetFrame.skip {index : Nat} {progress : BatchProgress}
    (h : BudgetFrame context state capacities index progress) :
    BudgetFrame context state capacities (index + 1) progress :=
  { h with length_le := Nat.le_succ_of_le h.length_le }

theorem ReservesRequired.append {profile : TaskCapacityProfile} {execution : ExecutionStore}
    {first last : Table RouteReservation.attemptId} {reservation : RouteReservation}
    {attempt : StartedAttempt} (h : ReservesRequired profile execution first attempt)
    (hrows : last.rows = first.rows ++ [reservation]) :
    ReservesRequired profile execution last attempt := by
  obtain ⟨found, hfound, hrest⟩ := h
  refine ⟨found, ?_, hrest⟩
  rw [hrows]
  exact List.mem_append_left _ hfound

theorem budgetFrame_step {index : Nat} {schedule : ScheduleRow}
    (hdistinct : (capacities.map ProviderAccountCapacity.route).Nodup)
    (hschedule : state.execution.schedules.find? record.workItem.workItemId = some schedule)
    (hpayload : record.schedulePayload = schedule.payload)
    (h : BudgetFrame context state capacities index before)
    (hstep : PrepareStep context record before after) :
    BudgetFrame context state capacities (index + 1) after := by
  have hframe := batchFrame_step h.frame hstep
  cases hstep with
  | full => exact h.skip
  | noWindow => exact h.skip
  | notLeased => exact h.skip
  | @dispatched windowIndex window row leasedSchedule settings _ hdispatched =>
    have hrows := hdispatched.reservations_rows h.dispatched
    obtain ⟨hwindow, hfits⟩ := getElem?_of_firstCapacityWindowThatFits hdispatched.fits
    have hopen := context.occurredAt_lt_leaseExpiresAt
    rw [h.windows] at hwindow
    have hwindowMapped := hwindow
    rw [List.getElem?_map] at hwindowMapped
    obtain ⟨capacity, hcapacity, hwindowEq⟩ := Option.map_eq_some_iff.mp hwindowMapped
    have hroute : window.capacity.route = capacity.route := by
      rw [← hwindowEq]
      rfl
    have hmem : capacity ∈ capacities := List.mem_of_getElem? hcapacity
    have hstateRows : (after.inState state).reservations.rows =
        (before.inState state).reservations.rows ++
          [directReservation context window.capacity
            (before.nextToken context record.workItem.workItemId) (requiredTokens context record)
            (requiredWindowTokensForDueRecord_pos _ _)] := hrows
    refine ⟨hframe, ?_, ?_, ?_, ?_, ?_⟩
    · rw [hdispatched.started, List.length_append]
      exact Nat.succ_le_succ h.length_le
    · intro reservation hreservation
      rw [Table.mem_keys, hdispatched.saved.dispatches]
      rw [hrows, List.mem_append, List.mem_singleton] at hreservation
      rcases hreservation with hold | rfl
      · obtain ⟨row, hrow, hid⟩ := Table.mem_keys.mp (h.dispatched reservation hold)
        exact ⟨row, List.mem_append_left _ hrow, hid⟩
      · exact ⟨_, List.mem_append_right _ (List.mem_singleton_self _), rfl⟩
    · rw [hdispatched.windows, h.windows]
      exact windows_reserved hdistinct hwindow hstateRows rfl rfl hopen rfl
    · rw [← hwindowEq] at hfits
      have hwithin : WithinCapacities capacities context.occurredAt state.reservations
          (before.inState state).reservations := h.within
      exact hwithin.reserve hrows rfl hopen hmem hroute hfits
    · intro attempt hattempt
      rw [hdispatched.started, List.mem_append, List.mem_singleton] at hattempt
      rcases hattempt with hold | rfl
      · exact (h.reserves attempt hold).append hrows
      · have hid : (startedAttempt (dispatchRow context
            (before.nextToken context record.workItem.workItemId) before.started.length row
            leasedSchedule window.capacity.route settings)).workItemId =
            record.workItem.workItemId := hdispatched.row_workItemId
        have hnew : directReservation context window.capacity
            (before.nextToken context record.workItem.workItemId) (requiredTokens context record)
            (requiredWindowTokensForDueRecord_pos _ _) ∈ after.reservations.rows := by
          rw [hrows]
          exact List.mem_append_right _ (List.mem_singleton_self _)
        refine ⟨_, hnew, schedule, ?_, rfl, rfl, rfl, ?_⟩
        · rw [hid]
          exact hschedule
        · rw [← hpayload]
          rfl

/-- A due record carries the payload of its schedule. -/
theorem schedule_of_mem_peek {store : ExecutionStore} {count : Nat} {record : DueWorkItemRecord}
    (hmem : record ∈ peekDueWorkItems store claimBuilderSectionWorkKind count) :
    ∃ schedule, store.schedules.find? record.workItem.workItemId = some schedule ∧
      record.schedulePayload = schedule.payload := by
  obtain ⟨row, schedule, _, hschedule, _, _, rfl⟩ :=
    mem_dueWorkItems.mp (List.mem_of_mem_take hmem)
  exact ⟨schedule, hschedule, rfl⟩

/-- The loop over the first due items keeps the budget. -/
theorem budgetFrame_of_run {due : List DueWorkItemRecord} {progress : BatchProgress}
    (hdistinct : (capacities.map ProviderAccountCapacity.route).Nodup)
    (hreserves : ReservesDispatches state)
    (hdue : ∀ record ∈ due, ∃ schedule,
      state.execution.schedules.find? record.workItem.workItemId = some schedule ∧
        record.schedulePayload = schedule.payload)
    (hrun : prepareDueRecords context
      (initialProgress state (capacities.map (directCapacityWindow state context.occurredAt)))
      due = .ok progress) :
    BudgetFrame context state capacities due.length progress := by
  have hloop : Ends (BudgetFrame context state capacities (0 + due.length)) (fun _ => True)
      (prepareDueRecords context
        (initialProgress state (capacities.map (directCapacityWindow state context.occurredAt)))
        due) := by
    apply Ends.foldlM _ (budgetFrame_initial hreserves)
    intro index record hrecord before hbefore
    obtain ⟨schedule, hschedule, hpayload⟩ := hdue record (List.mem_of_getElem? hrecord)
    have hstep : Ends (PrepareStep context record before) (fun _ => True)
        (prepareDueRecord context before record) :=
      prepareDueRecord_ends (fun _ _ _ _ _ => trivial) fun _ _ _ _ _ _ _ => trivial
    exact hstep.mono
      (fun after hafter => budgetFrame_step hdistinct hschedule hpayload hbefore hafter)
      fun _ h => h
  rw [hrun, Nat.zero_add] at hloop
  exact hloop

/-- A record that is not started in the end was skipped: it found no window, or it
could not be leased. -/
theorem noRoom_of_skipped {index : Nat}
    (hframe : BudgetFrame context state capacities index before)
    (hcount : index < context.scheduledWorkItemCount)
    (hleasable : (leasableRow state.execution context.locked claimBuilderSectionWorkKind
      record.workItem.workItemId).isSome = true)
    (hstep : PrepareStep context record before after)
    (hskipped : record.workItem.workItemId ∉ after.started.map StartedAttempt.workItemId) :
    ¬ HasRoom (before.inState state) capacities context.occurredAt
      (requiredTokens context record) := by
  have hbefore : record.workItem.workItemId ∉ before.started.map StartedAttempt.workItemId := by
    intro hmem
    obtain ⟨attempt, hattempt, hid⟩ := List.mem_map.mp hmem
    apply hskipped
    exact List.mem_map.mpr ⟨attempt, hstep.started_subset attempt hattempt, hid⟩
  have hlength := hframe.length_le
  cases hstep with
  | full hfull => omega
  | noWindow hnone =>
    rw [hframe.windows, firstCapacityWindowThatFits_eq_none_iff] at hnone
    rintro ⟨capacity, hmem, hfits⟩
    rw [hnone _ (List.mem_map_of_mem hmem)] at hfits
    cases hfits
  | notLeased hnone =>
    rw [hframe.frame.leasableRow_eq hbefore, Option.isSome_iff_ne_none] at *
    exact absurd hnone hleasable
  | dispatched h =>
    apply absurd _ hskipped
    rw [h.started, List.map_append, List.mem_append]
    exact .inr (List.mem_singleton.mpr h.row_workItemId.symm)

/-- The loop is greedy. -/
theorem skipsOnlyWithoutRoom_of_run {progress : BatchProgress}
    (hdistinct : (capacities.map ProviderAccountCapacity.route).Nodup)
    (hreserves : ReservesDispatches state)
    (hrun : prepareDueRecords context
      (initialProgress state (capacities.map (directCapacityWindow state context.occurredAt)))
      (peekDueWorkItems state.execution claimBuilderSectionWorkKind
        context.scheduledWorkItemCount) = .ok progress) :
    SkipsOnlyWithoutRoom context state
      (capacities.map (directCapacityWindow state context.occurredAt)) capacities
      progress.started := by
  intro index record middle hrecord hskipped hleasable hprefix
  have hindex : index < (peekDueWorkItems state.execution claimBuilderSectionWorkKind
      context.scheduledWorkItemCount).length := (List.getElem?_eq_some_iff.mp hrecord).1
  have hcount : (peekDueWorkItems state.execution claimBuilderSectionWorkKind
      context.scheduledWorkItemCount).length ≤ context.scheduledWorkItemCount :=
    List.length_take_le _ _
  have hframe := budgetFrame_of_run hdistinct hreserves
    (fun record hmem => schedule_of_mem_peek (List.mem_of_mem_take hmem)) hprefix
  rw [List.length_take_of_le (Nat.le_of_lt hindex)] at hframe
  -- the loop goes on from the progress before the record
  rw [← List.take_append_drop index (peekDueWorkItems state.execution claimBuilderSectionWorkKind
    context.scheduledWorkItemCount), drop_eq_cons hrecord] at hrun
  unfold prepareDueRecords at hrun hprefix
  rw [List.foldlM_append, hprefix] at hrun
  obtain ⟨_, hmiddle, hrun⟩ := bind_eq_ok.mp hrun
  cases hmiddle
  rw [List.foldlM_cons] at hrun
  obtain ⟨next, hstep, hrest⟩ := bind_eq_ok.mp hrun
  have hskippedNext : record.workItem.workItemId ∉ next.started.map StartedAttempt.workItemId := by
    intro hmem
    obtain ⟨attempt, hattempt, hid⟩ := List.mem_map.mp hmem
    apply hskipped
    exact List.mem_map.mpr ⟨attempt, started_subset_of_run hrest attempt hattempt, hid⟩
  exact noRoom_of_skipped hframe (by omega) hleasable (prepareStep_of_ok hstep) hskippedNext

/-! The handler -/

/-- Whether a window is open does not depend on what is reserved. -/
theorem availableNow_directCapacityWindow (reserved : Table RouteReservation.attemptId)
    (capacity : ProviderAccountCapacity) :
    (directCapacityWindow { state with reservations := reserved } now capacity).availableNow now =
      (directCapacityWindow state now capacity).availableNow now := rfl

/-- While all windows are closed nothing has room, so nothing is to be started. -/
theorem keepsBudget_of_closed
    (hclosed : ((capacities.map (directCapacityWindow state context.occurredAt)).any fun window =>
      window.availableNow context.occurredAt) = false) {next : DispatchState}
    (hreservations : next.reservations = state.reservations) :
    KeepsBudget context windows capacities state next [] where
  within := by
    rw [hreservations]
    exact ⟨fun _ => .inl (Nat.le_refl _), fun _ => .inl (Nat.le_refl _),
      fun _ => .inl (Nat.le_refl _), fun _ => .inl (Nat.le_refl _)⟩
  reserves := fun _ hattempt => absurd hattempt List.not_mem_nil
  greedy := by
    rintro index record progress _ _ _ _ ⟨capacity, hmem, hfits⟩
    have hopen := (DirectCapacityWindow.fits_iff.mp hfits).1
    rw [availableNow_directCapacityWindow] at hopen
    have hwindow := List.any_eq_false.mp hclosed _ (List.mem_map_of_mem hmem)
    exact hwindow hopen

/-- A prepare whose capacities name each route once keeps its budget. -/
theorem keepsBudget_of_distinct {catalog : RouteCatalog} {locked : String → Bool}
    {result : PrepareResult} {next : DispatchState}
    (hdistinct : (capacities.map ProviderAccountCapacity.route).Nodup)
    (hreserves : ReservesDispatches state) (huses : UsesCapacities command capacities)
    (hread : readPrepareCommand catalog locked state command = .ok (context, windows))
    (h : handlePrepareDispatchBatch catalog locked state command = .ok (result, next)) :
    KeepsBudget context windows capacities state next result.started := by
  have haccepted : AcceptedPrepare catalog locked state command context windows := by
    have hends := readPrepareCommand_ends catalog locked state command
    rw [hread] at hends
    exact hends
  have hnow : context.occurredAt = command.runAfter := by
    rw [haccepted.context_eq]
    rfl
  have hwindows : windows = capacities.map (directCapacityWindow state context.occurredAt) := by
    obtain ⟨activeModelRef, used, hmodel, hused, heq⟩ := haccepted.windows_eq
    obtain ⟨otherModelRef, hother, hcapacities⟩ := huses
    rw [hmodel, Except.ok.injEq] at hother
    rw [← hother, hused, Except.ok.injEq] at hcapacities
    rw [heq, hcapacities, hnow]
  obtain ⟨⟨_, outcome⟩, hbatch, hfinish⟩ := bind_eq_ok.mp h
  obtain ⟨_, hread', hbatch⟩ := bind_eq_ok.mp hbatch
  rw [hread, Except.ok.injEq] at hread'
  rw [← hread'] at hbatch
  obtain ⟨_, hwalk, hpair⟩ := bind_eq_ok.mp hbatch
  cases hpair
  obtain ⟨hstarted, hexecution, hreservations⟩ := finishPrepare_ok hfinish
  rw [hstarted]
  unfold walkDueItems at hwalk
  split at hwalk
  · next hclosed =>
    cases hwalk
    rw [hwindows] at hclosed
    exact keepsBudget_of_closed hclosed hreservations
  · obtain ⟨progress, hloop, hpair⟩ := bind_eq_ok.mp hwalk
    cases hpair
    rw [hwindows] at hloop ⊢
    have hframe := budgetFrame_of_run hdistinct hreserves (fun _ hmem => schedule_of_mem_peek hmem)
      hloop
    constructor
    · rw [hreservations]
      exact hframe.within
    · rw [hreservations]
      exact hframe.reserves
    · exact skipsOnlyWithoutRoom_of_run hdistinct hreserves hloop

end CrmBot.ClaimBuilder
