import CrmBot.ClaimBuilder.RouteBudget

/-! The budget of routes that a command names twice.

Each listed capacity has a window of its own with all that is left on its route,
so a route named twice is offered twice. -/

namespace CrmBot.ClaimBuilder

open Relational CrmBot.Python CrmBot.ExecutionRuntime CrmBot.LlmRuntime CrmBot.WorkflowRuntime
  FailingFold Delimited

variable {context : BatchContext} {state : DispatchState}
  {windows : List DirectCapacityWindow} {record : DueWorkItemRecord}
  {before after : BatchProgress} {now : Int}

/-- Route lists that a command can name: all of one model that the catalog knows. -/
structure UsableRoutes (catalog : RouteCatalog) (modelRef : String) (routes : List RouteKey) :
    Prop where
  modelRef_ne : isBlank modelRef = false
  known : ∃ settings, catalog.executionSettingsForModelRef modelRef = .ok settings
  named : ∀ route ∈ routes, NamedRoute route
  ofModel : ∀ route ∈ routes, route.modelRef = modelRef

/-- Every prepare that uses capacities of the routes keeps their budget. -/
def PreparesKeepBudget (catalog : RouteCatalog) (routes : List RouteKey) : Prop :=
  ∀ (locked : String → Bool) (state : DispatchState) (command : WorkflowCommand)
    (capacities : List ProviderAccountCapacity) (context : BatchContext)
    (windows : List DirectCapacityWindow) (result : PrepareResult) (next : DispatchState),
    ReservesDispatches state → UsesCapacities command capacities →
    capacities.map ProviderAccountCapacity.route = routes →
    readPrepareCommand catalog locked state command = .ok (context, windows) →
    handlePrepareDispatchBatch catalog locked state command = .ok (result, next) →
    KeepsBudget context windows capacities state next result.started

/-- Room for one request of one token on the doubled route, none on the others. -/
def oneRequestOn (doubled route : RouteKey) : ProviderAccountCapacity :=
  let amount := if route = doubled then 1 else 0
  { route := route, remainingMinuteRequests := amount, remainingMinuteTokens := amount
    remainingDailyRequests := amount, remainingDailyTokens := amount }

/-- The windows with room for a request of one token are all of the doubled route. -/
def OnlyOn (doubled : RouteKey) (now : Int) (windows : List DirectCapacityWindow) : Prop :=
  ∀ window ∈ windows, window.fits 1 now = true → window.capacity.route = doubled

/-- Two windows with room are taken one after the other. -/
theorem exists_twoWindows {doubled : RouteKey} (honly : OnlyOn doubled now windows)
    (htwo : 2 ≤ windows.countP fun window => window.fits 1 now) :
    ∃ firstIndex first secondIndex second,
      firstCapacityWindowThatFits windows 1 now = some (firstIndex, first) ∧
      firstCapacityWindowThatFits (windows.set firstIndex (first.reserveLocally 1)) 1 now =
        some (secondIndex, second) ∧
      first.capacity.route = doubled ∧ second.capacity.route = doubled := by
  have hfits : ∀ {listed : List DirectCapacityWindow},
      0 < listed.countP (fun window => window.fits 1 now) →
        ∃ index window, firstCapacityWindowThatFits listed 1 now = some (index, window) := by
    intro listed hpos
    cases hfound : firstCapacityWindowThatFits listed 1 now with
    | some found => exact ⟨found.1, found.2, rfl⟩
    | none =>
      obtain ⟨window, hmem, hwindow⟩ := List.countP_pos_iff.mp hpos
      rw [firstCapacityWindowThatFits_eq_none_iff.mp hfound window hmem] at hwindow
      cases hwindow
  obtain ⟨firstIndex, first, hfirst⟩ := hfits (Nat.lt_of_lt_of_le Nat.two_pos htwo)
  obtain ⟨hget, hfirstFits⟩ := getElem?_of_firstCapacityWindowThatFits hfirst
  have hfirstRoute := honly first (List.mem_of_getElem? hget) hfirstFits
  have hleft : 0 < (windows.set firstIndex (first.reserveLocally 1)).countP
      fun window => window.fits 1 now := by
    rw [List.countP_set (List.getElem?_eq_some_iff.mp hget).1]
    split <;> split <;> omega
  obtain ⟨secondIndex, second, hsecond⟩ := hfits hleft
  obtain ⟨hget', hsecondFits⟩ := getElem?_of_firstCapacityWindowThatFits hsecond
  refine ⟨firstIndex, first, secondIndex, second, hfirst, hsecond, hfirstRoute, ?_⟩
  rcases List.mem_or_eq_of_mem_set (List.mem_of_getElem? hget') with hmem | rfl
  · exact honly second hmem hsecondFits
  · exact hfirstRoute

/-- The windows of the capacities with room on the doubled route only. -/
def oneRequestWindows (state : DispatchState) (doubled : RouteKey) (routes : List RouteKey)
    (now : Int) : List DirectCapacityWindow :=
  (routes.map (oneRequestOn doubled)).map (directCapacityWindow state now)

theorem onlyOn_oneRequestWindows (state : DispatchState) (doubled : RouteKey)
    (routes : List RouteKey) (now : Int) :
    OnlyOn doubled now (oneRequestWindows state doubled routes now) := by
  intro window hwindow hfits
  obtain ⟨capacity, hcapacity, rfl⟩ := List.mem_map.mp hwindow
  obtain ⟨route, _, rfl⟩ := List.mem_map.mp hcapacity
  have hroom := (DirectCapacityWindow.fits_iff.mp hfits).2.1
  by_contra hother
  have hamount : (oneRequestOn doubled route).remainingMinuteRequests = 0 := if_neg hother
  simp only [directCapacityWindow, hamount, Nat.zero_sub] at hroom
  omega

/-- Nothing is reserved and nothing was observed. -/
structure FreshCapacities (state : DispatchState) : Prop where
  reservations : state.reservations = .empty
  observations : state.observations = .empty

theorem countP_oneRequestWindows {state : DispatchState} (hfresh : FreshCapacities state)
    (doubled : RouteKey) (routes : List RouteKey) (now : Int) :
    (oneRequestWindows state doubled routes now).countP (fun window => window.fits 1 now) =
      routes.count doubled := by
  unfold oneRequestWindows
  rw [List.map_map, List.countP_map, List.count_eq_countP]
  apply List.countP_congr
  intro route _
  have hwindow : directCapacityWindow state now (oneRequestOn doubled route) =
      { capacity := oneRequestOn doubled route
        remainingMinuteRequests := (oneRequestOn doubled route).remainingMinuteRequests
        remainingMinuteTokens := (oneRequestOn doubled route).remainingMinuteTokens
        remainingDailyRequests := (oneRequestOn doubled route).remainingDailyRequests
        remainingDailyTokens := (oneRequestOn doubled route).remainingDailyTokens
        unavailableUntil := none, capacityObservation := none } := by
    unfold directCapacityWindow
    rw [hfresh.reservations, hfresh.observations]
    rfl
  rw [Function.comp_apply, Function.comp_apply, hwindow, DirectCapacityWindow.fits_iff,
    beq_iff_eq]
  by_cases hroute : route = doubled
  · simp [DirectCapacityWindow.availableNow, oneRequestOn, hroute]
  · simp [oneRequestOn, hroute]

/-! Two due items on the doubled route -/

def dueSection (number : String) (hne : isBlank number = false) : WorkItem :=
  { workItemId := number, workKind := claimBuilderSectionWorkKind, status := .ready
    attemptCount := 0, leasedBy := none, leaseToken := none, leaseExpiresAt := none
    lastErrorKind := none, retryPlan := none, workItemId_ne := hne
    lease_shape := leaseShape_ready }

/-- A prepare of two items with room for one on the doubled route. -/
def doubledPrepare (modelRef : String) (doubled : RouteKey) (routes : List RouteKey) :
    WorkflowCommand :=
  directPrepareCommand "prepare:first" sampleRun 0
    (directPreparePayload 2 modelRef plainProfile (routes.map (oneRequestOn doubled)))

def sectionRow (number : String) (hne : isBlank number = false) : WorkItemRow :=
  { item := dueSection number hne, createdAt := 0, updatedAt := 0, updated_ge := epoch_le_epoch }

def sectionSchedule (number : String) : ScheduleRow :=
  { workItemId := number, idempotencyKey := "schedule:" ++ number, payloadHash := "hash"
    payload := sourcePayload }

def twoSections : ExecutionStore :=
  { workItems :=
      { rows := [sectionRow "section-1" (Eq.refl false), sectionRow "section-2" (Eq.refl false)]
        key_nodup := by decide }
    schedules :=
      { rows := [sectionSchedule "section-1", sectionSchedule "section-2"]
        key_nodup := by decide, unique_nodup := by decide }
    attempts := .empty, dispatches := .empty }

def doubledStart (modelRef : String) (doubled : RouteKey) (routes : List RouteKey) :
    DispatchState :=
  { execution := twoSections, reservations := .empty, observations := .empty
    commandLog :=
      { rows := [doubledPrepare modelRef doubled routes]
        key_nodup := by simp, unique_nodup := by simp } }

def dueRecordOf (number : String) (hne : isBlank number = false) : DueWorkItemRecord :=
  { workItem := dueSection number hne, schedulePayload := sourcePayload }

theorem peek_twoSections : peekDueWorkItems twoSections claimBuilderSectionWorkKind 2 =
    [dueRecordOf "section-1" (by decide), dueRecordOf "section-2" (by decide)] := by decide

theorem twoSections_sourcesNamed : SourcesNamed twoSections 2 := by
  intro record hrecord
  rw [peek_twoSections] at hrecord
  rcases List.mem_pair.mp hrecord with rfl | rfl
  · exact sourcePayload_namesSources
  · exact sourcePayload_namesSources

theorem doubledStart_noAttempts (modelRef : String) (doubled : RouteKey)
    (routes : List RouteKey) : NoAttempts {sampleRun} (doubledStart modelRef doubled routes) := by
  refine ⟨rfl, rfl, rfl, ?_⟩
  intro command hcommand run hrun
  rw [Set.mem_singleton_iff.mp hrun, List.mem_singleton.mp hcommand]
  have hkey : Diverge (executeFront sampleRun) "prepare:first" := by decide
  exact ⟨hkey, hkey.prepend _⟩

/-! A batch that cannot fail -/

/-- With known models and unused positions the next item is no fault. -/
theorem BatchSound.exists_step {runs : Set String} {initial : DispatchState} {index : Nat}
    {rows : List DispatchRow} (hruns : RunIds runs) (hrun : context.workflowRunId ∈ runs)
    (h : BatchSound runs context initial index before rows)
    (hknown : KnownModels context.catalog before.windows)
    (hunused : PositionsUnused initial.execution context.workflowRunId
      context.scheduledWorkItemCount)
    (hrecord : (peekDueWorkItems initial.execution claimBuilderSectionWorkKind
      context.scheduledWorkItemCount)[index]? = some record) :
    ∃ after, prepareDueRecord context before record = .ok after ∧
      PrepareStep context record before after := by
  have hends : Ends (PrepareStep context record before) (fun _ => False)
      (prepareDueRecord context before record) := by
    refine prepareDueRecord_ends ?_ ?_
    · intro windowIndex window fault hfits hfault
      obtain ⟨settings, hsettings⟩ :=
        hknown window (List.mem_of_getElem? (getElem?_of_firstCapacityWindowThatFits hfits).1)
      rw [hsettings] at hfault
      cases hfault
    · intro row schedule route settings fault hrow hfault
      obtain ⟨execution, hok⟩ := h.save_ok hrow (h.token_new hruns hrun hrecord hunused)
      rw [hok] at hfault
      cases hfault
  cases hresult : prepareDueRecord context before record with
  | error fault =>
    rw [hresult] at hends
    exact hends.elim
  | ok after =>
    rw [hresult] at hends
    exact ⟨after, rfl, hends⟩

def doubledContext (catalog : RouteCatalog) (modelRef : String) (doubled : RouteKey)
    (routes : List RouteKey) : BatchContext :=
  batchContext (doubledPrepare modelRef doubled routes) 2 plainProfile catalog fun _ => false

/-- Both items are dispatched, on the routes of the two windows. -/
theorem exists_doubledBatch {catalog : RouteCatalog} (modelRef : String) (doubled : RouteKey)
    (routes : List RouteKey) {firstIndex secondIndex : Nat} {first second : DirectCapacityWindow}
    (hknown : KnownModels catalog windows)
    (hfirst : firstCapacityWindowThatFits windows 1 0 = some (firstIndex, first))
    (hsecond : firstCapacityWindowThatFits (windows.set firstIndex (first.reserveLocally 1)) 1 0 =
      some (secondIndex, second)) :
    ∃ progress rows, prepareDueRecords (doubledContext catalog modelRef doubled routes)
        (initialProgress (doubledStart modelRef doubled routes) windows)
        (peekDueWorkItems twoSections claimBuilderSectionWorkKind 2) = .ok progress ∧
      BatchSound {sampleRun} (doubledContext catalog modelRef doubled routes)
        (doubledStart modelRef doubled routes) 2 progress rows ∧
      progress.started ≠ [] ∧
      activeReservedRequests progress.reservations doubled 0 =
        (if first.capacity.route = doubled then 1 else 0) +
          if second.capacity.route = doubled then 1 else 0 := by
  have hsound := (doubledStart_noAttempts modelRef doubled routes).historySound
  have hrun : (doubledContext catalog modelRef doubled routes).workflowRunId ∈
      ({sampleRun} : Set String) := rfl
  have hunused : PositionsUnused twoSections sampleRun 2 := by
    intro index record _ row hrow
    cases hrow
  have hleasable : (leasableRow twoSections (fun _ => false) claimBuilderSectionWorkKind
      "section-1").isSome = true ∧ (leasableRow twoSections (fun _ => false)
        claimBuilderSectionWorkKind "section-2").isSome = true := by decide
  have hinitial : BatchSound {sampleRun} (doubledContext catalog modelRef doubled routes)
      (doubledStart modelRef doubled routes) 0
      (initialProgress (doubledStart modelRef doubled routes) windows) [] :=
    batchSound_initial hsound.attempts windows
  have hrecords : peekDueWorkItems (doubledStart modelRef doubled routes).execution
      claimBuilderSectionWorkKind
      (doubledContext catalog modelRef doubled routes).scheduledWorkItemCount =
        [dueRecordOf "section-1" (by decide), dueRecordOf "section-2" (by decide)] :=
    peek_twoSections
  -- the first item
  obtain ⟨middle, hstep, hspec⟩ := hinitial.exists_step sampleRun_ids hrun hknown hunused
    (congrArg (·[0]?) hrecords)
  obtain ⟨firstRows, hmiddle⟩ := batchSound_step hrun hinitial hspec
  obtain ⟨row, schedule, settings, hdispatched⟩ :=
    hspec.dispatched_of Nat.two_pos hfirst hleasable.1
  have hstarted : middle.started.map StartedAttempt.workItemId = ["section-1"] := by
    rw [hdispatched.started]
    exact congrArg (fun number => [number]) hdispatched.row_workItemId
  have hlength : middle.started.length = 1 := by
    rw [← List.length_map StartedAttempt.workItemId, hstarted]
    rfl
  have hwindows : middle.windows = windows.set firstIndex (first.reserveLocally 1) :=
    hdispatched.windows
  -- the second item
  obtain ⟨last, hstep', hspec'⟩ := hmiddle.exists_step sampleRun_ids hrun (hknown.step hspec)
    hunused (congrArg (·[1]?) hrecords)
  obtain ⟨rows, hlast⟩ := batchSound_step hrun hmiddle hspec'
  have hleasable' : (leasableRow middle.execution
      (doubledContext catalog modelRef doubled routes).locked claimBuilderSectionWorkKind
      "section-2").isSome = true := by
    rw [hmiddle.frame.leasableRow_eq (by rw [hstarted]; decide)]
    exact hleasable.2
  obtain ⟨row', schedule', settings', hdispatched'⟩ := hspec'.dispatched_of
    (hlength ▸ Nat.one_lt_two) (hwindows ▸ hsecond) hleasable'
  refine ⟨last, rows, ?_, hlast, ?_, ?_⟩
  · rw [peek_twoSections]
    unfold prepareDueRecords
    rw [List.foldlM_cons, hstep]
    exact bind_eq_ok.mpr ⟨middle, rfl, bind_eq_ok.mpr ⟨last, hstep', rfl⟩⟩
  · rw [hdispatched'.started]
    exact List.append_ne_nil_of_right_ne_nil _ (List.cons_ne_nil _ _)
  · have hopen := (doubledContext catalog modelRef doubled routes).occurredAt_lt_leaseExpiresAt
    have hfirstTotal := activeReservedRequests_append
      (hdispatched.reservations_rows hinitial.sound.reserved) rfl hopen doubled
    have hlastTotal := activeReservedRequests_append
      (hdispatched'.reservations_rows hmiddle.sound.reserved) rfl hopen doubled
    have hnone : activeReservedRequests
        (initialProgress (doubledStart modelRef doubled routes) windows).reservations doubled
        (doubledContext catalog modelRef doubled routes).occurredAt = 0 := rfl
    rw [hfirstTotal, hnone, Nat.zero_add] at hlastTotal
    exact hlastTotal

theorem firstWindowWakeupAt_oneRequestWindows (hfresh : FreshCapacities state) (doubled : RouteKey)
    (routes : List RouteKey) (now : Int) :
    firstWindowWakeupAt (oneRequestWindows state doubled routes now) now = none := by
  unfold firstWindowWakeupAt
  rw [List.min?_eq_none_iff, List.filterMap_eq_nil_iff]
  intro window hwindow
  obtain ⟨capacity, _, rfl⟩ := List.mem_map.mp hwindow
  unfold directCapacityWindow
  rw [hfresh.observations]
  rfl

/-- With a doubled route the prepare reserves two requests where one is given. -/
theorem exists_doubledPrepare {catalog : RouteCatalog} {modelRef : String} {doubled : RouteKey}
    {routes : List RouteKey} (husable : UsableRoutes catalog modelRef routes)
    (htwice : 2 ≤ routes.count doubled) :
    ∃ result next,
      readPrepareCommand catalog (fun _ => false) (doubledStart modelRef doubled routes)
          (doubledPrepare modelRef doubled routes) =
        .ok (doubledContext catalog modelRef doubled routes,
          oneRequestWindows (doubledStart modelRef doubled routes) doubled routes 0) ∧
      handlePrepareDispatchBatch catalog (fun _ => false) (doubledStart modelRef doubled routes)
          (doubledPrepare modelRef doubled routes) = .ok (result, next) ∧
      activeReservedRequests next.reservations doubled 0 = 2 := by
  have hfresh : FreshCapacities (doubledStart modelRef doubled routes) := ⟨rfl, rfl⟩
  have hlisted : routes.map (oneRequestOn doubled) ≠ [] := by
    intro hnil
    rw [List.map_eq_nil_iff.mp hnil, List.count_nil] at htwice
    omega
  have hread : readPrepareCommand catalog (fun _ => false) (doubledStart modelRef doubled routes)
      (doubledPrepare modelRef doubled routes) =
        .ok (doubledContext catalog modelRef doubled routes,
          oneRequestWindows (doubledStart modelRef doubled routes) doubled routes 0) := by
    refine readPrepareCommand_payload Nat.two_pos (by decide) (by decide) husable.modelRef_ne
      hlisted ?_ ?_
    · intro capacity hcapacity
      obtain ⟨route, hroute, rfl⟩ := List.mem_map.mp hcapacity
      exact husable.named route hroute
    · intro capacity hcapacity
      obtain ⟨route, hroute, rfl⟩ := List.mem_map.mp hcapacity
      exact husable.ofModel route hroute
  have hknown : KnownModels catalog
      (oneRequestWindows (doubledStart modelRef doubled routes) doubled routes 0) := by
    intro window hwindow
    obtain ⟨capacity, hcapacity, rfl⟩ := List.mem_map.mp hwindow
    obtain ⟨route, hroute, rfl⟩ := List.mem_map.mp hcapacity
    have hmodel : (directCapacityWindow (doubledStart modelRef doubled routes) 0
        (oneRequestOn doubled route)).capacity.route.modelRef = modelRef :=
      husable.ofModel route hroute
    rw [hmodel]
    exact husable.known
  obtain ⟨firstIndex, first, secondIndex, second, hfirst, hsecond, hfirstRoute, hsecondRoute⟩ :=
    exists_twoWindows (onlyOn_oneRequestWindows (doubledStart modelRef doubled routes) doubled
      routes 0) (countP_oneRequestWindows hfresh doubled routes 0 ▸ htwice)
  obtain ⟨progress, rows, hloop, hbatch, hstarted, htotal⟩ :=
    exists_doubledBatch modelRef doubled routes hknown hfirst hsecond
  have hsound := (doubledStart_noAttempts modelRef doubled routes).historySound
  have hpreparation : payloadGet (doubledPrepare modelRef doubled routes).payload
      "llm_dispatch_preparation" = some (.dict (dispatchPreparation modelRef plainProfile
        (routes.map (oneRequestOn doubled)))) := by
    simp [doubledPrepare, payloadGet, directPreparePayload, Payload.get]
  have hrun : (doubledContext catalog modelRef doubled routes).workflowRunId ∈
      ({sampleRun} : Set String) := rfl
  have hlogged : doubledPrepare modelRef doubled routes ∈
      (doubledStart modelRef doubled routes).commandLog.rows := List.mem_cons_self
  have hwalk : walkDueItems (doubledStart modelRef doubled routes)
      (doubledContext catalog modelRef doubled routes)
      (oneRequestWindows (doubledStart modelRef doubled routes) doubled routes 0) =
        .ok (.walked (peekDueWorkItems twoSections claimBuilderSectionWorkKind 2) progress) := by
    have hwakeup : firstWindowWakeupAt
        (oneRequestWindows (doubledStart modelRef doubled routes) doubled routes 0)
        (doubledContext catalog modelRef doubled routes).occurredAt = none :=
      firstWindowWakeupAt_oneRequestWindows hfresh doubled routes 0
    unfold walkDueItems
    rw [hwakeup]
    exact bind_eq_ok.mpr ⟨progress, hloop, rfl⟩
  have hprepared : prepareBatch catalog (fun _ => false) (doubledStart modelRef doubled routes)
      (doubledPrepare modelRef doubled routes) =
        .ok (doubledContext catalog modelRef doubled routes,
          .walked (peekDueWorkItems twoSections claimBuilderSectionWorkKind 2) progress) :=
    bind_eq_ok.mpr ⟨_, hread, bind_eq_ok.mpr ⟨_, hwalk, rfl⟩⟩
  obtain ⟨events, hevents⟩ :=
    (prepareBatch_announces hprepared).2.exists_events twoSections_sourcesNamed
  obtain ⟨result, next, hfinish, _⟩ := finishPrepare_identifies sampleRun_ids hrun hsound.attempts
    hsound.log hlogged hpreparation hbatch hstarted hevents
    (peekDueWorkItems twoSections claimBuilderSectionWorkKind 2)
  refine ⟨result, next, hread, bind_eq_ok.mpr ⟨_, hprepared, hfinish⟩, ?_⟩
  obtain ⟨_, _, hreservations⟩ := finishPrepare_ok hfinish
  have hrows : next.reservations = progress.reservations := hreservations
  rw [hrows, htotal, if_pos hfirstRoute, if_pos hsecondRoute]

theorem usesCapacities_doubledPrepare {catalog : RouteCatalog} {modelRef : String}
    {doubled : RouteKey} {routes : List RouteKey} (husable : UsableRoutes catalog modelRef routes)
    (hlisted : routes ≠ []) :
    UsesCapacities (doubledPrepare modelRef doubled routes)
      (routes.map (oneRequestOn doubled)) := by
  refine ⟨modelRef, activeModelRefFromPayload_payload husable.modelRef_ne,
    capacitiesForDirectPrepare_payload ?_ ?_ ?_⟩
  · exact fun hnil => hlisted (List.map_eq_nil_iff.mp hnil)
  · intro capacity hcapacity
    obtain ⟨route, hroute, rfl⟩ := List.mem_map.mp hcapacity
    exact husable.named route hroute
  · intro capacity hcapacity
    obtain ⟨route, hroute, rfl⟩ := List.mem_map.mp hcapacity
    exact husable.ofModel route hroute

theorem map_route_oneRequestOn (doubled : RouteKey) (routes : List RouteKey) :
    (routes.map (oneRequestOn doubled)).map ProviderAccountCapacity.route = routes := by
  rw [List.map_map]
  exact List.map_id' routes

/-- Exceeding the one request that is given breaks the budget. -/
theorem not_keepsBudget_of_doubled {doubled : RouteKey} {routes : List RouteKey}
    {next : DispatchState} {started : List StartedAttempt} (hnow : context.occurredAt = 0)
    (hfresh : FreshCapacities state)
    (htotal : activeReservedRequests next.reservations doubled 0 = 2) :
    ¬ KeepsBudget context windows (routes.map (oneRequestOn doubled)) state next started := by
  intro hkeeps
  have hwithin := hkeeps.within.minuteRequests doubled
  rw [hnow, htotal, hfresh.reservations] at hwithin
  have hnone : activeReservedRequests Table.empty doubled 0 = 0 := rfl
  rw [hnone] at hwithin
  rcases hwithin with hgrown | ⟨capacity, hmem, hroute, hamount⟩
  · omega
  · obtain ⟨route, _, rfl⟩ := List.mem_map.mp hmem
    have hone : (oneRequestOn doubled route).remainingMinuteRequests = 1 := if_pos hroute
    omega

/-- Every prepare over some routes keeps their budget exactly if none is named twice. -/
theorem preparesKeepBudget_iff {catalog : RouteCatalog} {modelRef : String}
    {routes : List RouteKey} (husable : UsableRoutes catalog modelRef routes) :
    PreparesKeepBudget catalog routes ↔ routes.Nodup := by
  constructor
  · intro hkeeps
    by_contra hdoubled
    obtain ⟨doubled, hduplicate⟩ := List.exists_duplicate_iff_not_nodup.mpr hdoubled
    have htwice := List.duplicate_iff_two_le_count.mp hduplicate
    obtain ⟨result, next, hread, hhandle, htotal⟩ := exists_doubledPrepare husable htwice
    have hlisted : routes ≠ [] := by
      intro hnil
      rw [hnil] at hdoubled
      exact hdoubled List.nodup_nil
    refine not_keepsBudget_of_doubled rfl ⟨rfl, rfl⟩ htotal
      (hkeeps _ _ _ _ _ _ _ _ ?_ (usesCapacities_doubledPrepare husable hlisted)
        (map_route_oneRequestOn doubled routes) hread hhandle)
    intro reservation hreservation
    cases hreservation
  · intro hdistinct locked state command capacities context windows result next hreserves huses
      hroutes hread hhandle
    rw [← hroutes] at hdistinct
    exact keepsBudget_of_distinct hdistinct hreserves huses hread hhandle

/-! The account named twice -/

theorem usableRoutes_primary {routes : List RouteKey}
    (hprimary : ∀ route ∈ routes, route = primaryRoute "account") :
    UsableRoutes defaultGroqLlmModelRouteCatalog claimBuilderActiveModelRef routes where
  modelRef_ne := by decide
  known := executionSettings_primary
  named := by
    intro route hroute
    rw [hprimary route hroute]
    exact ⟨by decide, by decide, by decide⟩
  ofModel := by
    intro route hroute
    rw [hprimary route hroute]
    rfl

theorem oneAccount_keepsBudget :
    PreparesKeepBudget defaultGroqLlmModelRouteCatalog [primaryRoute "account"] :=
  (preparesKeepBudget_iff (usableRoutes_primary fun _ => List.mem_singleton.mp)).mpr
    (List.nodup_singleton _)

def accountTwice : List RouteKey := [primaryRoute "account", primaryRoute "account"]

/-- Two windows of one account, each with room for one request, take both items. -/
theorem accountTwice_not_keepsBudget :
    ∃ result next,
      handlePrepareDispatchBatch defaultGroqLlmModelRouteCatalog (fun _ => false)
          (doubledStart claimBuilderActiveModelRef (primaryRoute "account") accountTwice)
          (doubledPrepare claimBuilderActiveModelRef (primaryRoute "account") accountTwice) =
        .ok (result, next) ∧
      UsesCapacities
        (doubledPrepare claimBuilderActiveModelRef (primaryRoute "account") accountTwice)
        (accountTwice.map (oneRequestOn (primaryRoute "account"))) ∧
      ¬ KeepsBudget
        (doubledContext defaultGroqLlmModelRouteCatalog claimBuilderActiveModelRef
          (primaryRoute "account") accountTwice)
        (oneRequestWindows
          (doubledStart claimBuilderActiveModelRef (primaryRoute "account") accountTwice)
          (primaryRoute "account") accountTwice 0)
        (accountTwice.map (oneRequestOn (primaryRoute "account")))
        (doubledStart claimBuilderActiveModelRef (primaryRoute "account") accountTwice) next
        result.started := by
  have husable : UsableRoutes defaultGroqLlmModelRouteCatalog claimBuilderActiveModelRef
      accountTwice := by
    apply usableRoutes_primary
    intro route hroute
    simpa [accountTwice] using hroute
  obtain ⟨result, next, _, hhandle, htotal⟩ :=
    exists_doubledPrepare husable (by decide : 2 ≤ accountTwice.count (primaryRoute "account"))
  exact ⟨result, next, hhandle, usesCapacities_doubledPrepare husable (List.cons_ne_nil _ _),
    not_keepsBudget_of_doubled rfl ⟨rfl, rfl⟩ htotal⟩

end CrmBot.ClaimBuilder
