import CrmBot.CapacityAdmissionQueue.AdmissionReport
import CrmBot.CapacityAdmissionQueue.FitAgreement

/-! Whether a stale row blocks its lane.

A pass leases the first row that fits. When its execution item cannot be leased the pass
ends and leaves the tables as they are, so the next pass selects the same row again. -/

namespace CrmBot.CapacityAdmissionQueue

open Relational CrmBot.Python CrmBot.ExecutionRuntime FailingFold

variable {Rest : Type}

section Progress

variable (environment : PassEnvironment Rest) (command : PassCommand)

/-- The reservation port has room for every item, where a preview only reads, and every
execution is started. -/
structure Granting : Prop where
  previews : ∀ tables selected budget, ∃ remaining,
    environment.previewCapacity tables selected command.executionLaneKey budget command.now =
      .ok (.available remaining, tables.rest)
  starts : ∀ tables selected execution projection provisional,
    isBlank selected.workItemId = false → ∃ reference rest,
      environment.startOrAppendExecution tables selected command.executionLaneKey execution
        projection provisional command.now = .ok (reference, rest)
  reserves : ∀ tables attemptId reservationRef selected budget, isBlank reservationRef = false →
    isBlank selected.workItemId = false → command.executionLaneKey.hasTexts = true →
      ∃ budgetAfter reservation rest,
        environment.reserveCapacity tables attemptId reservationRef selected
          command.executionLaneKey budget command.now command.leaseExpiresAt =
            .ok (.reserved budgetAfter reservation, rest)

/-- The row that a pass selects first. -/
def firstSelected (tables : PassTables Rest) : Option WorkItemRow :=
  selectCapacityAdmissionWorkItem tables.queue.workItems (environment.selectionLocked tables.rest)
    command.laneKey command.budget

/-- The row and the schedule that the lease of a projection row takes. -/
def leasableItem (tables : PassTables Rest) (row : WorkItemRow) :
    Option (ExecutionRuntime.WorkItemRow × ScheduleRow) :=
  leasableRow tables.execution (environment.executionLocked tables.rest) row.lane.workKind
    row.workItemId

/-- A row of the lane that fits the budget and whose execution item can be leased. -/
def SomeRowLeasable (tables : PassTables Rest) : Prop :=
  command.budget.admitsAnyWork = true ∧ ∃ row ∈ tables.queue.workItems.rows,
    row.lane = command.laneKey ∧ row.status.isAdmissible = true ∧
      environment.selectionLocked tables.rest row = false ∧
      row.requiredWindowTokens ≤ command.budget.maxRequiredWindowTokens ∧
      (leasableItem environment tables row).isSome = true

/-- The loop of the pass comes to an admitted item. -/
def AdmitsSome (tables : PassTables Rest) : Prop :=
  ∃ rounds ≤ command.maxAdmittedItems, ∃ progress,
    passRounds environment.ports command tables rounds = .running progress ∧
      progress.admittedItems ≠ []

/-- The tables after a pass; what a pass that raises has written is rolled back. -/
def tablesAfterPass (tables : PassTables Rest) : PassTables Rest :=
  match admissionPass environment.ports command tables with
  | .ok (_, final) => final
  | .error _ => tables

/-- The tables after some passes, one after the other. -/
def passesFrom (tables : PassTables Rest) : Nat → PassTables Rest
  | 0 => tables
  | passes + 1 => tablesAfterPass environment command (passesFrom tables passes)

/-- Every pass selects the row and cannot lease its execution item. -/
def SelectsForever (tables : PassTables Rest) (row : WorkItemRow) : Prop :=
  ∀ passes, firstSelected environment command (passesFrom environment command tables passes) =
      some row ∧
    leasableItem environment (passesFrom environment command tables passes) row = none

/-- A row that can be leased leads to an admission, and no row is selected forever
without a lease. -/
def NotBlocked (tables : PassTables Rest) : Prop :=
  (SomeRowLeasable environment command tables → AdmitsSome environment command tables) ∧
    ∀ row, ¬ SelectsForever environment command tables row

/-- The execution item of the row can be leased and its schedule can be read, no other
transaction has locked the row, and the lanes and the kind of the command are accepted. -/
structure CanBeAdmitted (tables : PassTables Rest) (row : WorkItemRow) : Prop where
  leasable : ∃ found, leasableItem environment tables row = some found ∧
    ∃ context, dispatchContextFromSchedulePayload found.2.payload = .ok context
  unlocked : environment.projectionLocked tables.rest row = false
  lane : command.laneKey.hasTexts = true
  executionLane : command.executionLaneKey.hasTexts = true
  workKind : requireWorkKind environment.ports command.laneKey.workKind = .ok ()

end Progress

/-! What a pass selects. -/

variable {environment : PassEnvironment Rest} {command : PassCommand} {tables : PassTables Rest}
  {row : WorkItemRow}

theorem selectCapacityAdmissionWorkItem_some {workItems : Table WorkItemRow.workItemId}
    {locked : WorkItemRow → Bool} {lane : LaneKey} {budget : WindowBudget}
    (h : selectCapacityAdmissionWorkItem workItems locked lane budget = some row) :
    budget.admitsAnyWork = true ∧ row ∈ workItems.rows ∧ row.lane = lane ∧
      row.status.isAdmissible = true ∧ locked row = false ∧
      row.requiredWindowTokens ≤ budget.maxRequiredWindowTokens := by
  have hfirst : ∀ status : ProjectionStatus, status.isAdmissible = true →
      selectFirstFit workItems locked lane status budget.maxRequiredWindowTokens = some row →
      row ∈ workItems.rows ∧ row.lane = lane ∧ row.status.isAdmissible = true ∧
        locked row = false ∧ row.requiredWindowTokens ≤ budget.maxRequiredWindowTokens := by
    intro status hstatus hselect
    have hmem := Table.mem_select.mp (List.mem_of_mem_head? hselect)
    simp only [Bool.and_eq_true, decide_eq_true_eq, Bool.not_eq_true'] at hmem
    obtain ⟨hmem, ⟨⟨hlane, hrow⟩, hfits⟩, hlocked⟩ := hmem
    exact ⟨hmem, hlane, hrow ▸ hstatus, hlocked, hfits⟩
  unfold selectCapacityAdmissionWorkItem at h
  split at h
  · next hadmits =>
    refine ⟨hadmits, ?_⟩
    rcases Option.or_eq_some_iff.mp h with hretryable | ⟨_, hready⟩
    · exact hfirst _ rfl hretryable
    · exact hfirst _ rfl hready
  · cases h

/-- The ports select what the tables say. -/
theorem selectAdmissionWorkItem_eq (environment : PassEnvironment Rest) (tables : PassTables Rest)
    (lane : LaneKey) (budget : WindowBudget) :
    selectAdmissionWorkItem environment.ports tables lane budget =
      match selectCapacityAdmissionWorkItem tables.queue.workItems
          (environment.selectionLocked tables.rest) lane budget with
      | some row => (selectableOfRow row).map fun item => (.selected item, tables)
      | none => .ok (if budget.admitsAnyWork then .noFittingWorkItem else .capacityExhausted,
          tables) := by
  unfold selectAdmissionWorkItem selectCapacityAdmissionWorkItem
  split
  · next hadmits =>
    simp only [PassEnvironment.ports, PassEnvironment.selectFit]
    cases hretryable : selectFirstFit tables.queue.workItems
        (environment.selectionLocked tables.rest) lane .retryableFailed
        budget.maxRequiredWindowTokens with
    | some row =>
      cases hitem : selectableOfRow row with
      | error fault => simp [bind, Except.bind, Except.map, hitem]
      | ok item => simp [bind, Except.bind, Except.map, pure, Except.pure, hitem]
    | none =>
      cases hready : selectFirstFit tables.queue.workItems
          (environment.selectionLocked tables.rest) lane .ready budget.maxRequiredWindowTokens with
      | some row =>
        cases hitem : selectableOfRow row with
        | error fault => simp [bind, Except.bind, Except.map, hready, hitem]
        | ok item => simp [bind, Except.bind, Except.map, pure, Except.pure, hready, hitem]
      | none => simp [bind, Except.bind, pure, Except.pure, hready]
  · simp [pure, Except.pure]

/-- The item that is made from a row carries its id, lane and tokens. -/
theorem selectableOfRow_eq_ok {item : SelectableWorkItem} (h : selectableOfRow row = .ok item) :
    item.workItemId = row.workItemId ∧ item.laneKey = row.lane ∧
      item.reportedInputTokens ≤ item.requiredWindowTokens := by
  unfold selectableOfRow at h
  split at h
  · split at h
    · cases h
    · cases h
      have hrequired := row.required_ge
      refine ⟨rfl, rfl, ?_⟩
      change row.inputTokens ≤ row.requiredWindowTokens
      omega
  · cases h

theorem exists_selectableOfRow (hstatus : row.status.isAdmissible = true)
    (htext : isBlank row.workItemId = false) : ∃ item, selectableOfRow row = .ok item := by
  have hid : row.workItemId ≠ "" := by
    rintro heq
    rw [heq] at htext
    cases htext
  unfold selectableOfRow
  rw [dif_pos hstatus, dif_neg hid]
  exact ⟨_, rfl⟩

/-! The calls of the first round. -/

theorem leaseById_eq (environment : PassEnvironment Rest) (tables : PassTables Rest)
    (workKind worker leaseToken : String) {workItemId : String} {leaseExpiresAt now : Int}
    (htext : isBlank workItemId = false) (hfuture : now < leaseExpiresAt) :
    match leasableRow tables.execution (environment.executionLocked tables.rest) workKind
        workItemId with
    | none =>
      environment.leaseById tables workKind workItemId worker leaseToken leaseExpiresAt now =
        .ok (none, tables)
    | some found => ∃ execution store, execution.schedulePayload = found.2.payload ∧
        environment.leaseById tables workKind workItemId worker leaseToken leaseExpiresAt now =
          .ok (some execution, { tables with execution := store }) := by
  unfold PassEnvironment.leaseById
  rw [requireNonEmptyText_eq_ok.mpr htext, leaseDueWorkItemById_eq hfuture]
  cases leasableRow tables.execution (environment.executionLocked tables.rest) workKind
      workItemId with
  | none => rfl
  | some found => exact ⟨_, _, rfl, rfl⟩

theorem answer_ok {Value : Type} {value : Value} {rest : Rest}
    {answered : Except Fault (Value × Rest)} (h : answered = .ok (value, rest)) :
    tables.answer answered = .ok (value, { tables with rest := rest }) := by
  rw [h]
  rfl

/-- A preview with room leaves the tables as they are. -/
theorem Granting.preview (hgrants : Granting environment command) (tables : PassTables Rest)
    (selected : SelectableWorkItem) (budget : WindowBudget) :
    ∃ remaining, environment.ports.previewCapacityForSelectedWorkItem tables selected
      command.executionLaneKey budget command.now = .ok (.available remaining, tables) := by
  obtain ⟨remaining, hpreview⟩ := hgrants.previews tables selected budget
  exact ⟨remaining, answer_ok hpreview⟩

theorem isBlank_of_leasable {found : ExecutionRuntime.WorkItemRow × ScheduleRow}
    (h : leasableItem environment tables row = some found) : isBlank row.workItemId = false := by
  obtain ⟨hfind, _⟩ :=
    leasableRow_eq_some_iff.mp (h : leasableRow _ _ _ _ = some (found.1, found.2))
  rw [← (Table.find?_eq_some_iff.mp hfind).2]
  exact found.1.item.workItemId_ne

theorem lane_of_firstSelected (h : firstSelected environment command tables = some row) :
    row.lane = command.laneKey := (selectCapacityAdmissionWorkItem_some h).2.2.1

/-- The first round leases the execution item of the first row. -/
theorem exists_leasesItem (hgrants : Granting environment command)
    (hselect : firstSelected environment command tables = some row) {selected : SelectableWorkItem}
    (hitem : selectableOfRow row = .ok selected)
    (hkind : requireWorkKind environment.ports command.laneKey.workKind = .ok ())
    {found : ExecutionRuntime.WorkItemRow × ScheduleRow}
    (hleasable : leasableItem environment tables row = some found) :
    ∃ execution store, execution.schedulePayload = found.2.payload ∧
      LeasesItem environment.ports command 0 command.budget tables selected execution
        { tables with execution := store } := by
  obtain ⟨hid, hlane, _⟩ := selectableOfRow_eq_ok hitem
  have htext := isBlank_of_leasable hleasable
  have hlease := leaseById_eq environment tables row.lane.workKind command.worker
    (roundRef command 0 row.workItemId) htext command.lease_future
  rw [show leasableRow _ _ _ _ = some found from hleasable] at hlease
  obtain ⟨execution, store, hpayload, hlease⟩ := hlease
  obtain ⟨remaining, hpreview⟩ := hgrants.preview tables selected command.budget
  refine ⟨execution, store, hpayload, tables, remaining, tables, ?_, hpreview, ?_, ?_⟩
  · rw [selectAdmissionWorkItem_eq, show selectCapacityAdmissionWorkItem _ _ _ _ = _ from hselect]
    simp [hitem, Except.map]
  · rw [hlane, lane_of_firstSelected hselect]
    exact hkind
  · rw [hid, hlane]
    exact hlease

/-- The row, and the lease, behind an item that the first round selects. -/
theorem of_selected {selected : SelectableWorkItem} {selecting : PassTables Rest}
    (h : selectAdmissionWorkItem environment.ports tables command.laneKey command.budget =
      .ok (.selected selected, selecting)) :
    selecting = tables ∧ ∃ row, firstSelected environment command tables = some row ∧
      selectableOfRow row = .ok selected := by
  rw [selectAdmissionWorkItem_eq] at h
  split at h
  · next row hrow =>
    cases hitem : selectableOfRow row with
    | error fault =>
      rw [hitem] at h
      cases h
    | ok item =>
      rw [hitem] at h
      cases h
      exact ⟨rfl, row, hrow, hitem⟩
  · split at h
    · cases h
    · cases h

/-- What is leased in the first round is the execution item of the first row. -/
theorem LeasesItem.of_first (hgrants : Granting environment command)
    {selected : SelectableWorkItem} {execution : LeasedWorkItemRecord} {leased : PassTables Rest}
    (h : LeasesItem environment.ports command 0 command.budget tables selected execution leased) :
    ∃ row found, firstSelected environment command tables = some row ∧
      selectableOfRow row = .ok selected ∧
      requireWorkKind environment.ports command.laneKey.workKind = .ok () ∧
      leasableItem environment tables row = some found ∧
      execution.schedulePayload = found.2.payload ∧ leased.queue = tables.queue ∧
      leased.rest = tables.rest := by
  obtain ⟨selecting, remaining, previewed, hselect, hpreview, hkind, hlease⟩ := h
  obtain ⟨rfl, row, hrow, hitem⟩ := of_selected hselect
  obtain ⟨hid, hlane, _⟩ := selectableOfRow_eq_ok hitem
  obtain ⟨room, hroom⟩ := hgrants.preview selecting selected command.budget
  rw [hroom] at hpreview
  cases hpreview
  rw [hlane, lane_of_firstSelected hrow] at hkind
  obtain ⟨_, htext, _⟩ := bind_eq_ok.mp hlease
  rw [requireNonEmptyText_eq_ok] at htext
  have hcases := leaseById_eq environment selecting row.lane.workKind command.worker
    (roundRef command 0 selected.workItemId) htext command.lease_future
  rw [hlane] at hlease
  rw [hid] at hcases hlease
  cases hleasable : leasableItem environment selecting row with
  | none =>
    rw [show leasableRow _ _ _ _ = none from hleasable] at hcases
    cases hlease.symm.trans hcases
  | some found =>
    rw [show leasableRow _ _ _ _ = some found from hleasable] at hcases
    obtain ⟨record, store, hpayload, hrecord⟩ := hcases
    cases hlease.symm.trans hrecord
    exact ⟨row, found, hrow, hitem, hkind, hleasable, hpayload, rfl, rfl⟩

/-- The projection admits a selected row that is not locked. -/
theorem admitProjection_of_unlocked (leased : PassTables Rest) (lease : ProjectionLease)
    (hmem : row ∈ leased.queue.workItems.rows) (hstatus : row.status.isAdmissible = true)
    (hid : lease.workItemId = row.workItemId) (hlane : lease.laneKey = row.lane)
    (hunlocked : environment.projectionLocked leased.rest row = false) :
    ∃ projection admitted, projection.laneKey = row.lane ∧
      environment.ports.admitProjectionWorkItem leased lease = .ok (some projection, admitted) := by
  have hfind : leased.queue.workItems.find? lease.workItemId = some row :=
    Table.find?_eq_some_iff.mpr ⟨hmem, hid.symm⟩
  simp only [PassEnvironment.ports, PassEnvironment.admitProjection, hfind, dif_pos hstatus]
  rw [if_pos ⟨hlane.symm, hunlocked⟩]
  exact ⟨_, _, hlane, rfl⟩

theorem unlocked_of_admitProjection {leased admitted : PassTables Rest} {lease : ProjectionLease}
    {projection : ProjectionLeaseResult} (hmem : row ∈ leased.queue.workItems.rows)
    (hid : lease.workItemId = row.workItemId)
    (h : environment.ports.admitProjectionWorkItem leased lease = .ok (some projection, admitted)) :
    environment.projectionLocked leased.rest row = false := by
  have hfind : leased.queue.workItems.find? lease.workItemId = some row :=
    Table.find?_eq_some_iff.mpr ⟨hmem, hid.symm⟩
  have hpair : environment.admitProjection leased lease = (some projection, admitted) :=
    Except.ok.inj h
  unfold PassEnvironment.admitProjection at hpair
  rw [hfind] at hpair
  dsimp only at hpair
  split at hpair
  · split at hpair
    · next hopen => exact hopen.2
    · cases hpair
  · cases hpair

theorem isBlank_roundRef (command : PassCommand) (index : Nat) (workItemId : String) :
    isBlank (roundRef command index workItemId) = false := by
  simp [isBlank, roundRef, String.toList_append, isSpace]

theorem exists_provisionalReservation_iff {selected : SelectableWorkItem}
    (htext : isBlank selected.workItemId = false) :
    (∃ provisional, provisionalReservation command 0 selected = .ok provisional) ↔
      command.executionLaneKey.hasTexts = true := by
  have href := isBlank_roundRef command 0 selected.workItemId
  constructor
  · rintro ⟨provisional, h⟩
    obtain ⟨lane, hlane, _⟩ := bind_eq_ok.mp h
    exact exists_laneSummary_iff.mp ⟨lane, hlane⟩
  · intro h
    obtain ⟨lane, hlane⟩ := exists_laneSummary_iff.mpr h
    unfold provisionalReservation
    simp only [hlane, bind, Except.bind, dif_pos href, dif_pos htext]
    exact ⟨_, rfl⟩

/-! The first round. -/

/-- The local variables before the first round. -/
def passStart (command : PassCommand) (tables : PassTables Rest) :
    PassProgress (PassTables Rest) where
  state := tables
  budget := command.budget
  admittedItems := []
  projectionLeases := []
  capacityReservations := []
  startedAttempts := []
  executeCommandRefs := []

theorem passRounds_one (environment : PassEnvironment Rest) (command : PassCommand)
    (tables : PassTables Rest) :
    passRounds environment.ports command tables 1 =
      passRound environment.ports command 0 (passStart command tables) := rfl

variable {last : PassProgress (PassTables Rest)}

/-- A summary of the item is made for an append as for a started attempt. -/
theorem admittedItemSummary_of_running {progress : PassProgress (PassTables Rest)}
    {answer : RoundAnswer} {selected : SelectableWorkItem} {execution : LeasedWorkItemRecord}
    (hexecution : (∃ projection ref htext,
        answer = .appended selected execution projection ref htext) ∨
      ∃ projection attempt budgetAfter reservation,
        answer = .started selected execution projection attempt budgetAfter reservation)
    (h : settleAnswer progress answer = .running last) :
    ∃ item, admittedItemSummary selected execution.schedulePayload = .ok item := by
  rcases hexecution with ⟨_, _, _, rfl⟩ | ⟨_, _, _, _, rfl⟩
  · obtain ⟨item, hitem, _⟩ := bind_eq_ok.mp (PassOutcome.ofExcept_eq_running.mp h)
    exact ⟨item, hitem⟩
  · obtain ⟨item, hitem, _⟩ := bind_eq_ok.mp (PassOutcome.ofExcept_eq_running.mp h)
    exact ⟨item, hitem⟩

theorem canBeAdmitted_of_calls (hgrants : Granting environment command)
    {selected : SelectableWorkItem} {execution : LeasedWorkItemRecord}
    {leased executed : PassTables Rest} {projection : ProjectionLeaseResult}
    {reference : ExecutionReference}
    (hlease : LeasesItem environment.ports command 0 command.budget tables selected execution
      leased)
    (hexecute : Executes environment.ports command 0 selected execution leased projection reference
      executed)
    (hitem : ∃ item, admittedItemSummary selected execution.schedulePayload = .ok item) :
    ∃ row, firstSelected environment command tables = some row ∧
      CanBeAdmitted environment command tables row := by
  obtain ⟨row, found, hrow, hselected, hkind, hleasable, hpayload, hqueue, hrest⟩ :=
    hlease.of_first hgrants
  obtain ⟨htext, admitted, provisional, hadmission, hprovisional, _⟩ := hexecute
  obtain ⟨hid, hlane, _⟩ := selectableOfRow_eq_ok hselected
  obtain ⟨hlaneTexts, hcontext, _, _⟩ := exists_admittedItemSummary_iff.mp hitem
  have hmem : row ∈ leased.queue.workItems.rows := by
    rw [hqueue]
    exact (selectCapacityAdmissionWorkItem_some hrow).2.1
  have hunlocked := unlocked_of_admitProjection hmem hid hadmission
  rw [hrest] at hunlocked
  rw [hlane, lane_of_firstSelected hrow] at hlaneTexts
  rw [hpayload] at hcontext
  exact ⟨row, hrow, ⟨found, hleasable, hcontext⟩, hunlocked, hlaneTexts,
    (exists_provisionalReservation_iff htext).mp ⟨provisional, hprovisional⟩, hkind⟩

theorem canBeAdmitted_of_running (hgrants : Granting environment command)
    (h : passRounds environment.ports command tables 1 = .running last) :
    ∃ row, firstSelected environment command tables = some row ∧
      CanBeAdmitted environment command tables row := by
  rw [passRounds_one] at h
  rcases passRound_calls h with ⟨_, hraised⟩ | ⟨answer, next, hcalls, hsettled⟩
  · cases hraised
  · cases hcalls with
    | exhausted _ | nothingFits _ _ | unavailable _ _ | notLeased _ _ _ _ | conflict _ _ _
    | denied _ _ _ => cases hsettled
    | appended hlease hexecute =>
      exact canBeAdmitted_of_calls hgrants hlease hexecute
        (admittedItemSummary_of_running (.inl ⟨_, _, _, rfl⟩) hsettled.symm)
    | started hlease hexecute hreserve =>
      exact canBeAdmitted_of_calls hgrants hlease hexecute
        (admittedItemSummary_of_running (.inr ⟨_, _, _, _, rfl⟩) hsettled.symm)

/-- The first round admits the first row, when that can be. -/
theorem running_of_canBeAdmitted (hgrants : Granting environment command)
    (hselect : firstSelected environment command tables = some row)
    (hcan : CanBeAdmitted environment command tables row) :
    ∃ last, passRounds environment.ports command tables 1 = .running last ∧
      last.admittedItems ≠ [] := by
  obtain ⟨_, hmem, hrowLane, hstatus, _, _⟩ := selectCapacityAdmissionWorkItem_some hselect
  obtain ⟨found, hleasable, hcontext⟩ := hcan.leasable
  have hrowText := isBlank_of_leasable hleasable
  obtain ⟨selected, hitem⟩ := exists_selectableOfRow hstatus hrowText
  obtain ⟨hid, hlane, hrequired⟩ := selectableOfRow_eq_ok hitem
  have htext : isBlank selected.workItemId = false := by rw [hid]; exact hrowText
  have htexts : selected.laneKey.hasTexts = true := by rw [hlane, hrowLane]; exact hcan.lane
  obtain ⟨execution, store, hpayload, hlease⟩ :=
    exists_leasesItem hgrants hselect hitem hcan.workKind hleasable
  obtain ⟨projection, admitted, hprojection, hadmission⟩ :=
    admitProjection_of_unlocked { tables with execution := store }
      (projectionRequest command selected htext) hmem hstatus hid hlane hcan.unlocked
  obtain ⟨provisional, hprovisional⟩ :=
    (exists_provisionalReservation_iff htext).mpr hcan.executionLane
  obtain ⟨reference, rest, hstart⟩ :=
    hgrants.starts admitted selected execution projection provisional htext
  have hexecute : Executes environment.ports command 0 selected execution
      { tables with execution := store } projection reference { admitted with rest := rest } :=
    ⟨htext, admitted, provisional, hadmission, hprovisional, answer_ok hstart⟩
  obtain ⟨summary, hsummary⟩ := exists_admittedItemSummary_iff.mpr
    ⟨htexts, hpayload ▸ hcontext, htext, hrequired⟩
  obtain ⟨lease, hleaseSummary⟩ := exists_projectionLeaseSummary_iff.mpr
    (show projection.laneKey.hasTexts = true by rw [hprojection, ← hlane]; exact htexts)
  rw [passRounds_one]
  cases reference with
  | command workItemId executeCommandRef hrefText =>
    rw [passRound_of_calls (.appended hlease hexecute)]
    simp only [settleAnswer, PassProgress.append, hsummary, hleaseSummary, bind, Except.bind]
    exact ⟨_, rfl, by simp⟩
  | attempt attempt =>
    obtain ⟨budgetAfter, reservation, reserved, hreserve⟩ :=
      hgrants.reserves { admitted with rest := rest } attempt.attemptId
        (roundRef command 0 selected.workItemId) selected command.budget
        (isBlank_roundRef command 0 selected.workItemId) htext hcan.executionLane
    have hcalls : RoundCalls environment.ports command 0 command.budget tables
        (.started selected execution projection attempt budgetAfter reservation)
        { admitted with rest := reserved } := .started hlease hexecute (answer_ok hreserve)
    rw [passRound_of_calls hcalls]
    simp only [settleAnswer, PassProgress.start, hsummary, hleaseSummary, bind, Except.bind]
    exact ⟨_, rfl, by simp⟩

/-! Passes whose first row cannot be leased. -/

theorem passRounds_running_of_le {rounds earlier : Nat} (hle : earlier ≤ rounds)
    (h : passRounds environment.ports command tables rounds = .running last) :
    ∃ progress, passRounds environment.ports command tables earlier = .running progress := by
  induction rounds generalizing last with
  | zero =>
    obtain rfl : earlier = 0 := by omega
    exact ⟨last, h⟩
  | succ rounds ih =>
    rcases Nat.lt_or_ge rounds earlier with hlast | hbefore
    · obtain rfl : earlier = rounds + 1 := by omega
      exact ⟨last, h⟩
    · obtain ⟨progress, hprogress, _⟩ := passRounds_succ_running h
      exact ih hbefore hprogress

theorem canBeAdmitted_of_admitsSome (hgrants : Granting environment command)
    (h : AdmitsSome environment command tables) :
    ∃ row, firstSelected environment command tables = some row ∧
      CanBeAdmitted environment command tables row := by
  obtain ⟨rounds, _, progress, hrunning, hne⟩ := h
  have hrounds : 1 ≤ rounds := by
    rw [Nat.one_le_iff_ne_zero]
    rintro rfl
    cases hrunning
    exact hne rfl
  obtain ⟨first, hfirst⟩ := passRounds_running_of_le hrounds hrunning
  exact canBeAdmitted_of_running hgrants hfirst

/-- The first round of a stale row leaves the tables as they are. -/
theorem RoundCalls.of_stale (hgrants : Granting environment command)
    (hselect : firstSelected environment command tables = some row)
    (hstale : leasableItem environment tables row = none) {answer : RoundAnswer}
    {next : PassTables Rest}
    (h : RoundCalls environment.ports command 0 command.budget tables answer next) :
    next = tables := by
  have hunleased : ∀ {selected execution leased}, ¬ LeasesItem environment.ports command 0
      command.budget tables selected execution leased := by
    intro selected execution leased hlease
    obtain ⟨other, found, hother, _, _, hleasable, _⟩ := hlease.of_first hgrants
    cases hselect.symm.trans hother
    cases hstale.symm.trans hleasable
  cases h with
  | exhausted hnone => exact tables_of_select hnone
  | nothingFits hnone hreason =>
    rw [selectAdmissionWorkItem_eq,
      show selectCapacityAdmissionWorkItem _ _ _ _ = some row from hselect] at hnone
    dsimp only at hnone
    cases hitem : selectableOfRow row with
    | error fault =>
      rw [hitem] at hnone
      cases hnone
    | ok item =>
      rw [hitem] at hnone
      cases hnone
  | unavailable hselected hpreview =>
    obtain ⟨rfl, _⟩ := of_selected hselected
    obtain ⟨room, hroom⟩ := hgrants.preview _ _ command.budget
    cases hroom.symm.trans hpreview
  | notLeased hselected hpreview hkind hlease =>
    obtain ⟨hsame, other, hother, hitem⟩ := of_selected hselected
    cases hselect.symm.trans hother
    obtain ⟨room, hroom⟩ := hgrants.preview tables _ command.budget
    rw [hsame] at hpreview
    cases hroom.symm.trans hpreview
    obtain ⟨hid, hlane, _⟩ := selectableOfRow_eq_ok hitem
    obtain ⟨_, htext, _⟩ := bind_eq_ok.mp hlease
    have hcases := leaseById_eq environment tables row.lane.workKind command.worker
      (roundRef command 0 row.workItemId) (hid ▸ requireNonEmptyText_eq_ok.mp htext)
      command.lease_future
    rw [show leasableRow _ _ _ _ = none from hstale] at hcases
    rw [hid, hlane] at hlease
    cases hlease.symm.trans hcases
    rfl
  | conflict hlease _ _ => exact absurd hlease hunleased
  | appended hlease _ => exact absurd hlease hunleased
  | denied hlease _ _ => exact absurd hlease hunleased
  | started hlease _ _ => exact absurd hlease hunleased

theorem tablesAfterPass_of_stale (hgrants : Granting environment command)
    (hselect : firstSelected environment command tables = some row)
    (hstale : leasableItem environment tables row = none) :
    tablesAfterPass environment command tables = tables := by
  have hfirst : ∀ progress, passRounds environment.ports command tables 1 ≠ .running progress := by
    intro progress hrunning
    obtain ⟨other, hother, hcan⟩ := canBeAdmitted_of_running hgrants hrunning
    obtain ⟨found, hleasable, _⟩ := hcan.leasable
    cases hselect.symm.trans hother
    cases hstale.symm.trans hleasable
  have hone : ∀ {rounds progress}, 1 ≤ rounds →
      passRounds environment.ports command tables rounds ≠ .running progress := by
    intro rounds progress hle hrunning
    obtain ⟨first, hrunningFirst⟩ := passRounds_running_of_le hle hrunning
    exact hfirst first hrunningFirst
  unfold tablesAfterPass
  split
  · next result final hpass =>
    obtain ⟨last, reason, hfinish, hlast⟩ := admissionPass_progress hpass
    rcases hlast with hrunning | hstopped
    · exact absurd hrunning (hone command.maxAdmittedItems_pos)
    · obtain ⟨index, progress, _, hrunning, hround⟩ := passRounds_stopped hstopped
      obtain rfl : index = 0 := by
        by_contra hindex
        exact hone (Nat.one_le_iff_ne_zero.mpr hindex) hrunning
      cases hrunning
      rcases passRound_calls hround with ⟨_, hraised⟩ | ⟨answer, next, hcalls, hsettled⟩
      · cases hraised
      · obtain ⟨_, rfl⟩ := settleAnswer_stopped hsettled.symm
        obtain ⟨hfinal, _⟩ := finishPass_reports hfinish
        rw [hfinal]
        exact hcalls.of_stale hgrants hselect hstale
  · rfl

theorem passesFrom_of_stale (hgrants : Granting environment command)
    (hselect : firstSelected environment command tables = some row)
    (hstale : leasableItem environment tables row = none) (passes : Nat) :
    passesFrom environment command tables passes = tables := by
  induction passes with
  | zero => rfl
  | succ passes ih =>
    rw [passesFrom, ih]
    exact tablesAfterPass_of_stale hgrants hselect hstale

theorem selectsForever_of_stale (hgrants : Granting environment command)
    (hselect : firstSelected environment command tables = some row)
    (hstale : leasableItem environment tables row = none) :
    SelectsForever environment command tables row := by
  intro passes
  rw [passesFrom_of_stale hgrants hselect hstale]
  exact ⟨hselect, hstale⟩

/-- A lane is not blocked exactly when its first fitting row, if there is one, can be
admitted. -/
theorem notBlocked_iff (environment : PassEnvironment Rest) (command : PassCommand)
    (tables : PassTables Rest) (hgrants : Granting environment command) :
    NotBlocked environment command tables ↔
      ∀ row, firstSelected environment command tables = some row →
        CanBeAdmitted environment command tables row := by
  constructor
  · rintro ⟨hadmits, hforever⟩ row hselect
    have hleasable : (leasableItem environment tables row).isSome = true := by
      rw [Option.isSome_iff_ne_none]
      intro hstale
      exact hforever row (selectsForever_of_stale hgrants hselect hstale)
    obtain ⟨hbudget, hmem, hlane, hstatus, hlocked, hfits⟩ :=
      selectCapacityAdmissionWorkItem_some hselect
    obtain ⟨other, hother, hcan⟩ := canBeAdmitted_of_admitsSome hgrants
      (hadmits ⟨hbudget, row, hmem, hlane, hstatus, hlocked, hfits, hleasable⟩)
    cases hselect.symm.trans hother
    exact hcan
  · intro hcan
    constructor
    · rintro ⟨hbudget, row, hmem, hlane, hstatus, hlocked, hfits, _⟩
      cases hselect : firstSelected environment command tables with
      | none =>
        have hunfit :=
          selectCapacityAdmissionWorkItem_eq_none hselect hmem hlane hstatus hlocked hbudget
        omega
      | some first =>
        obtain ⟨last, hrunning, hne⟩ :=
          running_of_canBeAdmitted hgrants hselect (hcan first hselect)
        exact ⟨1, command.maxAdmittedItems_pos, last, hrunning, hne⟩
    · intro row hforever
      obtain ⟨hselect, hstale⟩ := hforever 0
      obtain ⟨found, hleasable, _⟩ := (hcan row hselect).leasable
      cases hstale.symm.trans hleasable

/-! A first row without an execution item. -/

/-- Every reservation is granted. -/
def grantsReservation : PassEnvironment Unit :=
  { deniesReservation with
    reserveCapacity := fun _ _ reservationRef selected lane budget _ expiresAt =>
      if hvalid : isBlank reservationRef = false ∧ isBlank selected.workItemId = false ∧
          lane.hasTexts = true then
        .ok (.reserved
          { remainingRequests := budget.remainingRequests - 1
            remainingTokens := budget.remainingTokens - selected.requiredWindowTokens
            remainingDailyRequests := budget.remainingDailyRequests - 1
            remainingDailyTokens := budget.remainingDailyTokens - selected.requiredWindowTokens }
          { reservationRef := reservationRef, workItemId := selected.workItemId
            lane := ⟨lane, hvalid.2.2⟩, reservedRequests := 1
            reservedTokens := selected.requiredWindowTokens, expiresAt := expiresAt
            reservationRef_text := hvalid.1, workItemId_text := hvalid.2.1
            reservedRequests_pos := Nat.one_pos, reservedTokens_pos := selected.required_pos }, ())
      else .error (.valueError "reservation_ref must be non-empty") }

theorem grantsReservation_granting (command : PassCommand) :
    Granting grantsReservation command where
  previews _ _ budget := ⟨budget, rfl⟩
  starts _ _ _ _ _ htext := ⟨_, (), dif_pos htext⟩
  reserves _ _ _ _ _ href htext hlane := ⟨_, _, (), dif_pos ⟨href, htext, hlane⟩⟩

/-- Two rows of a lane, of which only the second has an execution item. -/
def staleTables : PassTables Unit where
  execution := freshStore "second" "section" (Eq.refl false)
  queue := wholeBudgetQueue sampleDrain sampleDrain_budget_pos
  rest := ()

theorem staleTables_first :
    firstSelected grantsReservation samplePass staleTables =
        some (wholeBudgetItem sampleDrain (by decide) "first" 0 .ready) ∧
      leasableItem grantsReservation staleTables
        (wholeBudgetItem sampleDrain (by decide) "first" 0 .ready) = none :=
  ⟨wholeBudget_select_first sampleDrain (by decide) (by decide), rfl⟩

/-- The second row could be leased, and yet nothing is admitted and every pass selects
the first row. -/
theorem staleRow_blocks :
    SomeRowLeasable grantsReservation samplePass staleTables ∧
      ¬ AdmitsSome grantsReservation samplePass staleTables ∧
      ¬ NotBlocked grantsReservation samplePass staleTables := by
  refine ⟨?_, ?_, ?_⟩
  · exact ⟨by decide, wholeBudgetItem sampleDrain (by decide) "second" 1 .ready,
      List.mem_cons_of_mem _ List.mem_cons_self, rfl, rfl, rfl, le_refl _, rfl⟩
  · intro hadmits
    obtain ⟨row, hrow, hcan⟩ :=
      canBeAdmitted_of_admitsSome (grantsReservation_granting samplePass) hadmits
    obtain ⟨found, hleasable, _⟩ := hcan.leasable
    cases staleTables_first.1.symm.trans hrow
    cases staleTables_first.2.symm.trans hleasable
  · rintro ⟨_, hforever⟩
    exact hforever _ (selectsForever_of_stale (grantsReservation_granting samplePass)
      staleTables_first.1 staleTables_first.2)

/-- The condition at the two rows. -/
theorem staleTables_notBlocked_iff :
    NotBlocked grantsReservation samplePass staleTables ↔
      ∀ row, firstSelected grantsReservation samplePass staleTables = some row →
        CanBeAdmitted grantsReservation samplePass staleTables row :=
  notBlocked_iff grantsReservation samplePass staleTables (grantsReservation_granting samplePass)

end CrmBot.CapacityAdmissionQueue
