import CrmBot.ClaimBuilder.DirectPreparePayload
import CrmBot.ClaimBuilder.PrepareCommand

/-! The events that announce started attempts.

The event of an attempt names the document and the unit of its item, as the
schedule payload of the due record has them. An item that does not name them is
refused with its whole batch. -/

namespace CrmBot.ClaimBuilder

open Relational CrmBot.Python CrmBot.ExecutionRuntime CrmBot.LlmRuntime CrmBot.WorkflowRuntime
  FailingFold

/-- A text that is not blank stands under the key. -/
def HasText (payload : Payload) (key : String) : Prop :=
  ∃ text, payload.get key = some (.str text) ∧ isBlank text = false

/-- A schedule payload that names the document and the unit of its item. -/
structure NamesSources (schedulePayload : Payload) : Prop where
  document : HasText schedulePayload "source_document_ref"
  unit : HasText schedulePayload "source_unit_ref"

/-- The first due items all name their sources. -/
def SourcesNamed (execution : ExecutionStore) (count : Nat) : Prop :=
  ∀ record ∈ peekDueWorkItems execution claimBuilderSectionWorkKind count,
    NamesSources record.schedulePayload

/-- A reader of texts answers no blank one. -/
theorem payloadText_ne {payload : Payload} {key text : String} {fallback : Option String}
    (h : payloadText payload key fallback = .ok text) : isBlank text = false := by
  unfold payloadText at h
  dsimp only at h
  split at h
  · split at h
    · cases h
    · next hblank =>
      cases h
      exact Bool.eq_false_iff.mpr hblank
  · cases h
  · split at h
    · split at h
      · cases h
      · next hblank =>
        cases h
        exact Bool.eq_false_iff.mpr hblank
    · cases h

theorem hasText_of_payloadText {payload : Payload} {key text : String}
    (h : payloadText payload key none = .ok text) : HasText payload key := by
  unfold payloadText at h
  dsimp only at h
  split at h
  · next value hget =>
    split at h
    · cases h
    · next hblank => exact ⟨value, hget, Bool.eq_false_iff.mpr hblank⟩
  · cases h
  · cases h

/-- A started attempt of a due record: its dispatch payload holds the schedule
payload of the record and a route. -/
structure AttemptOf (record : DueWorkItemRecord) (attempt : StartedAttempt) : Prop where
  workItemId : record.workItem.workItemId = attempt.workItemId
  schedulePayload : attempt.dispatchPayload.get "schedule_payload" =
    some (.dict record.schedulePayload)
  allocation : ∃ route position, NamedRoute route ∧
    attempt.dispatchPayload.get "llm_allocation" = some (.dict (allocationPayload route position))

section Event

variable {context : BatchContext} {record : DueWorkItemRecord} {attempt : StartedAttempt}

/-- An attempt is announced if its item names its sources. -/
theorem AttemptOf.exists_event (h : AttemptOf record attempt)
    (hnamed : NamesSources record.schedulePayload) :
    ∃ payload, dispatchAttemptPreparedPayload context attempt = .ok payload := by
  obtain ⟨route, position, hroute, hallocation⟩ := h.allocation
  obtain ⟨document, hdocument, hdocumentNe⟩ := hnamed.document
  obtain ⟨unit, hunit, hunitNe⟩ := hnamed.unit
  have hprovider : payloadText (allocationPayload route position) "provider" none =
      .ok route.provider :=
    payloadText_of_get (by simp [allocationPayload, Payload.get_ofEntries]) hroute.provider
  have haccount : payloadText (allocationPayload route position) "account_ref" none =
      .ok route.accountRef :=
    payloadText_of_get (by simp [allocationPayload, Payload.get_ofEntries]) hroute.accountRef
  have hmodel : payloadText (allocationPayload route position) "model_ref" none =
      .ok route.modelRef :=
    payloadText_of_get (by simp [allocationPayload, Payload.get_ofEntries]) hroute.modelRef
  unfold dispatchAttemptPreparedPayload dispatchMapping
  rw [h.schedulePayload, hallocation]
  simp only [bind, Except.bind, payloadText_of_get hdocument hdocumentNe,
    payloadText_of_get hunit hunitNe, hprovider, haccount, hmodel]
  exact ⟨_, rfl⟩

/-- Only then. -/
theorem AttemptOf.namesSources (h : AttemptOf record attempt) {payload : Payload}
    (hevent : dispatchAttemptPreparedPayload context attempt = .ok payload) :
    NamesSources record.schedulePayload := by
  obtain ⟨schedulePayload, hschedule, hrest⟩ := bind_eq_ok.mp hevent
  obtain ⟨_, _, hrest⟩ := bind_eq_ok.mp hrest
  obtain ⟨_, hdocument, hrest⟩ := bind_eq_ok.mp hrest
  obtain ⟨_, hunit, _⟩ := bind_eq_ok.mp hrest
  unfold dispatchMapping at hschedule
  rw [h.schedulePayload] at hschedule
  cases hschedule
  exact ⟨hasText_of_payloadText hdocument, hasText_of_payloadText hunit⟩

end Event

/-! The attempts of a batch -/

/-- The attempts of a batch are those of due records, and its windows have routes
that can be named. -/
structure BatchAnnounces (context : BatchContext) (initial : ExecutionStore)
    (due : List DueWorkItemRecord) (progress : BatchProgress) : Prop where
  frame : BatchFrame context initial progress
  routes : ∀ window ∈ progress.windows, NamedRoute window.capacity.route
  started : ∀ attempt ∈ progress.started, ∃ record ∈ due, AttemptOf record attempt

section Batch

variable {context : BatchContext} {initial : ExecutionStore} {due : List DueWorkItemRecord}
  {record : DueWorkItemRecord} {before after : BatchProgress}

/-- The schedule payload of a due item is the one of its lease. -/
theorem schedulePayload_of_leasable {store : ExecutionStore} {locked : String → Bool}
    (hdue : record ∈ dueWorkItems initial claimBuilderSectionWorkKind)
    (hschedules : store.schedules = initial.schedules) {row : WorkItemRow} {schedule : ScheduleRow}
    (hleasable : leasableRow store locked claimBuilderSectionWorkKind
      record.workItem.workItemId = some (row, schedule)) :
    record.schedulePayload = schedule.payload := by
  obtain ⟨dueRow, dueSchedule, _, hfound, _, _, rfl⟩ := mem_dueWorkItems.mp hdue
  have hleased := (leasableRow_eq_some_iff.mp hleasable).2.1
  rw [hschedules] at hleased
  have hsame : some dueSchedule = some schedule := hfound.symm.trans hleased
  cases hsame
  rfl

theorem Dispatched.attemptOf {index : Nat} {window : DirectCapacityWindow} {row : WorkItemRow}
    {schedule : ScheduleRow} {settings : ModelExecutionSettings}
    (h : Dispatched context record before index window row schedule settings after)
    (hpayload : record.schedulePayload = schedule.payload)
    (hroute : NamedRoute window.capacity.route) :
    AttemptOf record (startedAttempt (dispatchRow context
      (before.nextToken context record.workItem.workItemId) before.started.length row schedule
      window.capacity.route settings)) where
  workItemId := h.row_workItemId.symm
  schedulePayload := by
    rw [hpayload]
    simp [startedAttempt, dispatchRow, buildDispatchRecord, Payload.get_ofEntries]
  allocation := by
    refine ⟨window.capacity.route, before.started.length, hroute, ?_⟩
    simp [startedAttempt, dispatchRow, buildDispatchRecord, Payload.get_ofEntries]

theorem batchAnnounces_step
    (hdue : ∀ record ∈ due, record ∈ dueWorkItems initial claimBuilderSectionWorkKind)
    (h : BatchAnnounces context initial due before) (hrecord : record ∈ due)
    (hstep : PrepareStep context record before after) :
    BatchAnnounces context initial due after := by
  have hframe := batchFrame_step h.frame hstep
  cases hstep with
  | full => exact h
  | noWindow => exact h
  | notLeased => exact h
  | dispatched hdispatched =>
    have hwindow := h.routes _
      (List.mem_of_getElem? (getElem?_of_firstCapacityWindowThatFits hdispatched.fits).1)
    refine ⟨hframe, ?_, ?_⟩
    · intro window hmem
      rw [hdispatched.windows] at hmem
      rcases List.mem_or_eq_of_mem_set hmem with hold | rfl
      · exact h.routes window hold
      · exact hwindow
    · intro attempt hattempt
      rw [hdispatched.started, List.mem_append, List.mem_singleton] at hattempt
      rcases hattempt with hold | rfl
      · exact h.started attempt hold
      · have hpayload := schedulePayload_of_leasable (hdue record hrecord) h.frame.schedules
          hdispatched.leasable
        exact ⟨record, hrecord, hdispatched.attemptOf hpayload hwindow⟩

/-- The whole loop starts attempts of due records only. -/
theorem prepareDueRecords_announces {state : DispatchState} {windows : List DirectCapacityWindow}
    {progress : BatchProgress}
    (hdue : ∀ record ∈ due, record ∈ dueWorkItems state.execution claimBuilderSectionWorkKind)
    (hroutes : ∀ window ∈ windows, NamedRoute window.capacity.route)
    (h : prepareDueRecords context (initialProgress state windows) due = .ok progress) :
    BatchAnnounces context state.execution due progress := by
  have hinitial : BatchAnnounces context state.execution due (initialProgress state windows) :=
    ⟨batchFrame_initial context state windows, hroutes, by simp [initialProgress]⟩
  have hloop : Ends (BatchAnnounces context state.execution due) (fun _ => True)
      (prepareDueRecords context (initialProgress state windows) due) := by
    refine Ends.foldlM_keeps ?_ hinitial
    intro record hrecord before hbefore
    have hstep : Ends (PrepareStep context record before) (fun _ => True)
        (prepareDueRecord context before record) :=
      prepareDueRecord_ends (fun _ _ _ _ _ => trivial) fun _ _ _ _ _ _ _ => trivial
    exact hstep.mono (fun _ hafter => batchAnnounces_step hdue hbefore hrecord hafter)
      fun _ hfault => hfault
  rw [h] at hloop
  exact hloop

/-- Where all due items name their sources the batch is announced. -/
theorem BatchAnnounces.exists_events {progress : BatchProgress}
    (h : BatchAnnounces context initial due progress)
    (hnamed : ∀ record ∈ due, NamesSources record.schedulePayload) :
    ∃ events, dispatchAttemptPreparedPayloads context progress.started = .ok events := by
  have hevent : ∀ attempt ∈ progress.started, ∃ payload,
      dispatchAttemptPreparedPayload context attempt = .ok payload ∧ True := by
    intro attempt hattempt
    obtain ⟨record, hrecord, hof⟩ := h.started attempt hattempt
    obtain ⟨payload, hpayload⟩ := hof.exists_event (hnamed record hrecord)
    exact ⟨payload, hpayload, trivial⟩
  obtain ⟨events, hevents, _⟩ := exists_mapM_eq_ok hevent
  exact ⟨events, hevents⟩

/-- A batch that is announced has started only items that name their sources. -/
theorem BatchAnnounces.namesSources {progress : BatchProgress}
    (h : BatchAnnounces context initial due progress)
    (hnodup : (due.map fun record => record.workItem.workItemId).Nodup) {events : List Payload}
    (hevents : dispatchAttemptPreparedPayloads context progress.started = .ok events)
    (hrecord : record ∈ due)
    (hstarted : record.workItem.workItemId ∈ progress.started.map StartedAttempt.workItemId) :
    NamesSources record.schedulePayload := by
  obtain ⟨attempt, hattempt, hid⟩ := List.mem_map.mp hstarted
  obtain ⟨other, hother, hof⟩ := h.started attempt hattempt
  have hsame : other = record := by
    refine List.inj_on_of_nodup_map hnodup hother hrecord ?_
    exact hof.workItemId.trans hid
  obtain ⟨payload, _, hpayload⟩ := exists_of_mem_forall₂ (forall₂_of_mapM hevents) hattempt
  rw [← hsame]
  exact hof.namesSources hpayload

end Batch

/-! From the command -/

theorem accountCapacityFromPayload_named {entry : Payload} {capacity : ProviderAccountCapacity}
    (h : accountCapacityFromPayload entry = .ok capacity) : NamedRoute capacity.route := by
  obtain ⟨provider, hprovider, hrest⟩ := bind_eq_ok.mp h
  obtain ⟨accountRef, haccount, hrest⟩ := bind_eq_ok.mp hrest
  obtain ⟨modelRef, hmodel, hrest⟩ := bind_eq_ok.mp hrest
  obtain ⟨_, _, hrest⟩ := bind_eq_ok.mp hrest
  obtain ⟨_, _, hrest⟩ := bind_eq_ok.mp hrest
  obtain ⟨_, _, hrest⟩ := bind_eq_ok.mp hrest
  obtain ⟨_, _, hrest⟩ := bind_eq_ok.mp hrest
  cases hrest
  exact ⟨payloadText_ne hprovider, payloadText_ne haccount, payloadText_ne hmodel⟩

theorem accountCapacitiesFromDispatchPreparation_named {payload : Payload}
    {capacities : List ProviderAccountCapacity}
    (h : accountCapacitiesFromDispatchPreparation payload = .ok capacities) :
    ∀ capacity ∈ capacities, NamedRoute capacity.route := by
  have hentries : ∀ {preparation : Payload} {listed : List ProviderAccountCapacity},
      (do
        let raw ← payloadMappingSequence preparation "account_capacities"
        raw.mapM accountCapacityFromPayload) = .ok listed →
      ∀ capacity ∈ listed, NamedRoute capacity.route := by
    intro preparation listed hlisted capacity hcapacity
    obtain ⟨raw, _, hread⟩ := bind_eq_ok.mp hlisted
    obtain ⟨entry, _, hentry⟩ := exists_of_mem_forall₂ (forall₂_of_mapM hread).flip hcapacity
    exact accountCapacityFromPayload_named hentry
  obtain ⟨found, _, hrest⟩ := bind_eq_ok.mp h
  cases found with
  | none =>
    cases hrest
    exact List.forall_mem_nil _
  | some preparation =>
    dsimp only at hrest
    split at hrest
    · exact hentries hrest
    · obtain ⟨refs, _, hrest⟩ := bind_eq_ok.mp hrest
      split at hrest
      · cases hrest
        exact List.forall_mem_nil _
      · exact hentries hrest

theorem capacitiesForDirectPrepare_named {payload : Payload} {activeModelRef : String}
    {capacities : List ProviderAccountCapacity}
    (h : capacitiesForDirectPrepare payload activeModelRef = .ok capacities) :
    ∀ capacity ∈ capacities, NamedRoute capacity.route := by
  obtain ⟨listed, hlisted, hrest⟩ := bind_eq_ok.mp h
  have hnamed := accountCapacitiesFromDispatchPreparation_named hlisted
  cases listed with
  | nil => cases hrest
  | cons first rest =>
    obtain ⟨refs, _, hrest⟩ := bind_eq_ok.mp hrest
    split at hrest
    · cases hrest
      intro capacity hcapacity
      rw [List.mem_singleton.mp hcapacity]
      exact hnamed first List.mem_cons_self
    · cases hrest
      exact fun capacity hcapacity => hnamed capacity (List.mem_of_mem_filter hcapacity)

section Prepare

variable {catalog : RouteCatalog} {locked : String → Bool} {state : DispatchState}
  {command : WorkflowCommand} {context : BatchContext}

theorem AcceptedPrepare.routes_named {windows : List DirectCapacityWindow}
    (h : AcceptedPrepare catalog locked state command context windows) :
    ∀ window ∈ windows, NamedRoute window.capacity.route := by
  obtain ⟨activeModelRef, capacities, _, hcapacities, rfl⟩ := h.windows_eq
  intro window hwindow
  obtain ⟨capacity, hcapacity, rfl⟩ := List.mem_map.mp hwindow
  exact capacitiesForDirectPrepare_named hcapacities capacity hcapacity

/-- A walk over the due items has started attempts of the peeked records only. -/
theorem prepareBatch_announces {due : List DueWorkItemRecord} {progress : BatchProgress}
    (h : prepareBatch catalog locked state command = .ok (context, .walked due progress)) :
    due = peekDueWorkItems state.execution claimBuilderSectionWorkKind
        context.scheduledWorkItemCount ∧
      BatchAnnounces context state.execution due progress := by
  obtain ⟨⟨read, windows⟩, hread, hwalk⟩ := bind_eq_ok.mp h
  obtain ⟨outcome, hwalked, hpair⟩ := bind_eq_ok.mp hwalk
  cases hpair
  have haccepted := readPrepareCommand_ends catalog locked state command
  rw [hread] at haccepted
  unfold walkDueItems at hwalked
  split at hwalked
  · cases hwalked
  · obtain ⟨final, hloop, hpair⟩ := bind_eq_ok.mp hwalked
    cases hpair
    exact ⟨rfl, prepareDueRecords_announces (fun _ hmem => List.mem_of_mem_take hmem)
      haccepted.routes_named hloop⟩

end Prepare

end CrmBot.ClaimBuilder
