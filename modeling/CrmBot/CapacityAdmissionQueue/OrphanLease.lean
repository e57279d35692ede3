import CrmBot.CapacityAdmissionQueue.AdmissionPass
import CrmBot.CapacityAdmissionQueue.DrainBudget
import CrmBot.ExecutionRuntime.StoreRuns

/-! Which items an admission pass leaves leased.

The pass leases an item before the projection has admitted it and before its capacity
is reserved. It takes no lease back. -/

namespace CrmBot.CapacityAdmissionQueue

open Relational CrmBot.Python CrmBot.ExecutionRuntime FailingFold

/-! The Postgres adapters of the pass. -/

/-- The tables of a pass. What the reservation port and the execution boundary keep
is part of the rest. -/
structure PassTables (Rest : Type) where
  execution : ExecutionStore
  queue : QueueState
  rest : Rest

/-- What the work item tables do not decide: row locks of others, the identifiers of
lane events, the capacity that is previewed and reserved, and the executions. -/
structure PassEnvironment (Rest : Type) where
  lower : String → String
  selectionLocked : Rest → WorkItemRow → Bool
  executionLocked : Rest → String → Bool
  projectionLocked : Rest → WorkItemRow → Bool
  eventId : Rest → String
  previewCapacity : PassTables Rest → SelectableWorkItem → LaneKey → WindowBudget → Int →
    Except Fault (CapacityPreview × Rest)
  reserveCapacity : PassTables Rest → (attemptId reservationRef : String) → SelectableWorkItem →
    LaneKey → WindowBudget → (now expiresAt : Int) → Except Fault (ReservationResult × Rest)
  startOrAppendExecution : PassTables Rest → SelectableWorkItem → LaneKey →
    LeasedWorkItemRecord → ProjectionLeaseResult → ReservationSummary → Int →
      Except Fault (ExecutionReference × Rest)
  hasActiveLeasedWork : PassTables Rest → LaneKey → Int → Except Fault (Bool × Rest)

variable {Rest : Type}

/-- `_row_to_selectable_work_item`. -/
def selectableOfRow (row : WorkItemRow) : Except Fault SelectableWorkItem :=
  if hstatus : row.status.isAdmissible = true then
    if hid : row.workItemId = "" then
      .error (.valueError "work_item_id must be a non-empty string")
    else
      .ok
        { workItemId := row.workItemId, laneKey := row.lane, status := row.status
          requiredWindowTokens := row.requiredWindowTokens, inputTokens := some row.inputTokens
          artifactTokens := some row.artifactTokens, workItemId_ne := hid
          status_admissible := hstatus, required_pos := row.requiredWindowTokens_pos
          inputTokens_pos := by
            intro tokens htokens
            cases htokens
            exact row.inputTokens_pos }
  else .error (.valueError "unsupported capacity admission status")

/-- `_select_first_fit` of the selector. -/
def PassEnvironment.selectFit (environment : PassEnvironment Rest) (status : ProjectionStatus)
    (tables : PassTables Rest) (lane : LaneKey) (maxRequiredWindowTokens : Nat) :
    Except Fault (Option SelectableWorkItem × PassTables Rest) :=
  match selectFirstFit tables.queue.workItems (environment.selectionLocked tables.rest) lane status
      maxRequiredWindowTokens with
  | none => .ok (none, tables)
  | some row => do
    let item ← selectableOfRow row
    return (some item, tables)

/-- `lease_due_work_item_by_id` with the check of its argument. -/
def PassEnvironment.leaseById (environment : PassEnvironment Rest) (tables : PassTables Rest)
    (workKind workItemId worker leaseToken : String) (leaseExpiresAt now : Int) :
    Except Fault (Option LeasedWorkItemRecord × PassTables Rest) := do
  requireNonEmptyText workItemId "work_item_id"
  let (record, execution) ← leaseDueWorkItemById tables.execution
    (environment.executionLocked tables.rest) workKind workItemId worker leaseToken leaseExpiresAt
    now
  return (record, { tables with execution := execution })

/-- `PostgresCapacityAdmissionProjectionAdmitter`. The row that is returned has the id
and the lane of the request. -/
def PassEnvironment.admitProjection (environment : PassEnvironment Rest)
    (tables : PassTables Rest) (lease : ProjectionLease) :
    Option ProjectionLeaseResult × PassTables Rest :=
  match tables.queue.workItems.find? lease.workItemId with
  | none => (none, tables)
  | some row =>
    if hstatus : row.status.isAdmissible = true then
      if row.lane = lease.laneKey ∧ environment.projectionLocked tables.rest row = false then
        (some
          { workItemId := lease.workItemId, laneKey := lease.laneKey, previousStatus := row.status
            eventId := environment.eventId tables.rest, workItemId_text := lease.workItemId_text
            previousStatus_admissible := hstatus },
          { tables with
            queue := { tables.queue with
              workItems := tables.queue.workItems.updateWhere
                (fun other => other.workItemId = lease.workItemId)
                (fun other => { other with status := .leased, updatedAt := lease.leasedAt })
                fun _ => rfl } })
      else (none, tables)
    else (none, tables)

/-- What is answered from the rest leaves the work item tables alone. -/
def PassTables.answer {Value : Type} (tables : PassTables Rest)
    (answered : Except Fault (Value × Rest)) : Except Fault (Value × PassTables Rest) := do
  let (value, rest) ← answered
  return (value, { tables with rest := rest })

def PassEnvironment.ports (environment : PassEnvironment Rest) :
    AdmissionPorts (PassTables Rest) where
  lower := environment.lower
  selectFirstRetryableFailedFit := environment.selectFit .retryableFailed
  selectFirstReadyFit := environment.selectFit .ready
  leaseDueWorkItemById := environment.leaseById
  admitProjectionWorkItem tables lease := .ok (environment.admitProjection tables lease)
  previewCapacityForSelectedWorkItem tables selected lane budget now :=
    tables.answer (environment.previewCapacity tables selected lane budget now)
  reserveCapacityForSelectedWorkItem tables attemptId reservationRef selected lane budget now
      expiresAt :=
    tables.answer (environment.reserveCapacity tables attemptId reservationRef selected lane budget
      now expiresAt)
  startOrAppendExecution tables selected lane execution projection reservation now :=
    tables.answer (environment.startOrAppendExecution tables selected lane execution projection
      reservation now)
  hasActiveLeasedWork tables lane now :=
    tables.answer (environment.hasActiveLeasedWork tables lane now)

/-! Leased items that the result does not name. -/

/-- Every item that the pass has leased and that is leased when the pass returns is
reported as admitted, with its lease. -/
def NoOrphanLease (environment : PassEnvironment Rest) (command : PassCommand)
    (start : PassTables Rest) : Prop :=
  ∀ result final, admissionPass environment.ports command start = .ok (result, final) →
    ∀ id row, final.execution.workItems.find? id = some row → row.item.status = .leased →
      start.execution.workItems.find? id = some row ∨
        (∃ item ∈ result.admittedItems, item.workItemId = id) ∧
          ∃ lease ∈ result.projectionLeases, lease.workItemId = id

/-- The item that an answer leaves leased without admitting it. -/
def RoundAnswer.stranded : RoundAnswer → Option String
  | .conflict selected _ => some selected.workItemId
  | .denied selected _ _ _ _ => some selected.workItemId
  | .skipped _ | .appended _ _ _ _ _ | .started _ _ _ _ _ _ => none

/-- In no round of the pass the ports lease an item and then do not let it through:
the projection does not admit it, or the reservation is denied. -/
def LeasesGoThrough (environment : PassEnvironment Rest) (command : PassCommand)
    (start : PassTables Rest) : Prop :=
  ∀ result final, admissionPass environment.ports command start = .ok (result, final) →
    ∀ index progress, index < command.maxAdmittedItems →
      passRounds environment.ports command start index = .running progress →
        ∀ answer next,
          RoundCalls environment.ports command index progress.budget progress.state answer next →
            answer.stranded = none

/-! What the calls do to the work items. -/

/-- The step leased an item that was due, and left the others alone. -/
structure LeasedIn (before after : ExecutionStore) (id : String) : Prop where
  due : ∃ row, before.workItems.find? id = some row ∧ row.item.isDue = true
  leased : ∃ row, after.workItems.find? id = some row ∧ row.item.status = .leased
  others : ∀ other, other ≠ id → after.workItems.find? other = before.workItems.find? other

variable {environment : PassEnvironment Rest} {command : PassCommand} {index : Nat}
  {budget : WindowBudget} {tables next : PassTables Rest}

theorem execution_of_answer {Value : Type} {answered : Except Fault (Value × Rest)} {value : Value}
    (h : tables.answer answered = .ok (value, next)) : next.execution = tables.execution := by
  obtain ⟨⟨_, rest⟩, _, h⟩ := bind_eq_ok.mp h
  cases h
  rfl

theorem execution_of_selectFit {status : ProjectionStatus} {lane : LaneKey} {limit : Nat}
    {item : Option SelectableWorkItem}
    (h : environment.selectFit status tables lane limit = .ok (item, next)) : next = tables := by
  unfold PassEnvironment.selectFit at h
  split at h
  · cases h
    rfl
  · obtain ⟨_, _, h⟩ := bind_eq_ok.mp h
    cases h
    rfl

theorem tables_of_select {lane : LaneKey} {selection : Selection}
    (h : selectAdmissionWorkItem environment.ports tables lane budget = .ok (selection, next)) :
    next = tables := by
  unfold selectAdmissionWorkItem at h
  split at h
  · obtain ⟨⟨retryable, first⟩, hfirst, h⟩ := bind_eq_ok.mp h
    have hsame : first = tables := execution_of_selectFit hfirst
    cases retryable with
    | some item =>
      cases h
      exact hsame
    | none =>
      obtain ⟨⟨ready, second⟩, hsecond, h⟩ := bind_eq_ok.mp h
      have hagain : second = first := execution_of_selectFit hsecond
      rw [← hsame, ← hagain]
      cases ready with
      | some item =>
        cases h
        rfl
      | none =>
        cases h
        rfl
  · cases h
    rfl

theorem execution_of_admission {lease : ProjectionLease} {result : Option ProjectionLeaseResult}
    (h : environment.ports.admitProjectionWorkItem tables lease = .ok (result, next)) :
    next.execution = tables.execution := by
  have hpair : environment.admitProjection tables lease = (result, next) := Except.ok.inj h
  unfold PassEnvironment.admitProjection at hpair
  split at hpair
  · cases hpair
    rfl
  · split at hpair
    · split at hpair
      · cases hpair
        rfl
      · cases hpair
        rfl
    · cases hpair
      rfl

theorem workItemId_of_admission {lease : ProjectionLease} {result : ProjectionLeaseResult}
    (h : environment.ports.admitProjectionWorkItem tables lease = .ok (some result, next)) :
    result.workItemId = lease.workItemId := by
  have hpair : environment.admitProjection tables lease = (some result, next) := Except.ok.inj h
  unfold PassEnvironment.admitProjection at hpair
  split at hpair
  · cases hpair
  · split at hpair
    · split at hpair
      · cases hpair
        rfl
      · cases hpair
    · cases hpair

theorem leaseById_leases {workKind workItemId worker leaseToken : String}
    {leaseExpiresAt now : Int} {record : Option LeasedWorkItemRecord}
    (hfuture : now < leaseExpiresAt)
    (h : environment.leaseById tables workKind workItemId worker leaseToken leaseExpiresAt now =
      .ok (record, next)) :
    if record.isSome then LeasedIn tables.execution next.execution workItemId
    else next.execution = tables.execution := by
  obtain ⟨_, _, h⟩ := bind_eq_ok.mp h
  obtain ⟨⟨_, execution⟩, hlease, h⟩ := bind_eq_ok.mp h
  cases h
  rw [leaseDueWorkItemById_eq hfuture] at hlease
  cases hrow : leasableRow tables.execution (environment.executionLocked tables.rest) workKind
      workItemId with
  | none =>
    rw [hrow] at hlease
    cases hlease
    rfl
  | some found =>
    obtain ⟨row, schedule⟩ := found
    obtain ⟨hfind, _, _, hdue, _⟩ := leasableRow_eq_some_iff.mp hrow
    rw [hrow] at hlease
    cases hlease
    change LeasedIn _ _ _
    refine ⟨⟨row, hfind, hdue⟩, ⟨_, find?_updateWorkItem_self hfind, rfl⟩, ?_⟩
    intro other hne
    exact find?_updateWorkItem_of_ne hne

theorem LeasesItem.leasedIn {selected : SelectableWorkItem} {execution : LeasedWorkItemRecord}
    (h : LeasesItem environment.ports command index budget tables selected execution next) :
    LeasedIn tables.execution next.execution selected.workItemId := by
  obtain ⟨selecting, _, previewed, hselect, hpreview, _, hlease⟩ := h
  have hpreviewed : previewed.execution = selecting.execution := execution_of_answer hpreview
  have hleased := leaseById_leases command.lease_future hlease
  rw [hpreviewed, tables_of_select hselect] at hleased
  exact hleased

theorem Executes.execution_eq {selected : SelectableWorkItem} {execution : LeasedWorkItemRecord}
    {leased : PassTables Rest} {projection : ProjectionLeaseResult}
    {reference : ExecutionReference}
    (h : Executes environment.ports command index selected execution leased projection reference
      next) :
    next.execution = leased.execution ∧ projection.workItemId = selected.workItemId := by
  obtain ⟨htext, admitted, _, hadmission, _, hstart⟩ := h
  have hexecuted : next.execution = admitted.execution := execution_of_answer hstart
  exact ⟨hexecuted.trans (execution_of_admission hadmission), workItemId_of_admission hadmission⟩

/-- The item that an answer has leased. -/
def RoundAnswer.leasedItem : RoundAnswer → Option String
  | .skipped _ => none
  | .conflict selected _ => some selected.workItemId
  | .denied selected _ _ _ _ => some selected.workItemId
  | .appended selected _ _ _ _ => some selected.workItemId
  | .started selected _ _ _ _ _ => some selected.workItemId

theorem RoundCalls.leaves {answer : RoundAnswer}
    (h : RoundCalls environment.ports command index budget tables answer next) :
    match answer.leasedItem with
    | none => next.execution = tables.execution
    | some id => LeasedIn tables.execution next.execution id := by
  cases h with
  | exhausted hselect => exact congrArg PassTables.execution (tables_of_select hselect)
  | nothingFits hselect hreason =>
    obtain ⟨⟨_, asked⟩, hasked, hreason⟩ := bind_eq_ok.mp hreason
    cases hreason
    exact (execution_of_answer hasked).trans
      (congrArg PassTables.execution (tables_of_select hselect))
  | unavailable hselect hpreview =>
    exact (execution_of_answer hpreview).trans
      (congrArg PassTables.execution (tables_of_select hselect))
  | notLeased hselect hpreview hkind hlease =>
    have hsame : next.execution = _ := leaseById_leases command.lease_future hlease
    rw [hsame, execution_of_answer hpreview, tables_of_select hselect]
    rfl
  | conflict hlease htext hadmission =>
    dsimp only [RoundAnswer.leasedItem]
    rw [execution_of_admission hadmission]
    exact hlease.leasedIn
  | appended hlease hexecute =>
    dsimp only [RoundAnswer.leasedItem]
    rw [hexecute.execution_eq.1]
    exact hlease.leasedIn
  | denied hlease hexecute hreserve =>
    dsimp only [RoundAnswer.leasedItem]
    rw [execution_of_answer hreserve, hexecute.execution_eq.1]
    exact hlease.leasedIn
  | started hlease hexecute hreserve =>
    dsimp only [RoundAnswer.leasedItem]
    rw [execution_of_answer hreserve, hexecute.execution_eq.1]
    exact hlease.leasedIn

/-- The projection lease of an admitted item is its own. -/
theorem RoundCalls.projection_names {answer : RoundAnswer} {selected : SelectableWorkItem}
    {projection : ProjectionLeaseResult}
    (h : RoundCalls environment.ports command index budget tables answer next)
    (hadmitted : answer.admitted = some (selected, projection)) :
    answer.leasedItem = some selected.workItemId ∧ projection.workItemId = selected.workItemId := by
  cases h with
  | exhausted _ | nothingFits _ _ | unavailable _ _ | notLeased _ _ _ _ | conflict _ _ _
  | denied _ _ _ => cases hadmitted
  | appended hlease hexecute =>
    cases hadmitted
    exact ⟨rfl, hexecute.execution_eq.2⟩
  | started hlease hexecute hreserve =>
    cases hadmitted
    exact ⟨rfl, hexecute.execution_eq.2⟩

/-! What holds while the pass goes on. -/

/-- The pass has leased the items it has admitted, and no others. -/
structure LeasesReported (start : ExecutionStore) (progress : PassProgress (PassTables Rest)) :
    Prop where
  others : ∀ id, id ∉ progress.admittedItems.map AdmittedItemSummary.workItemId →
    progress.state.execution.workItems.find? id = start.workItems.find? id
  leased : ∀ id ∈ progress.admittedItems.map AdmittedItemSummary.workItemId,
    ∃ row, progress.state.execution.workItems.find? id = some row ∧ row.item.status = .leased
  reported : ∀ id ∈ progress.admittedItems.map AdmittedItemSummary.workItemId,
    id ∈ progress.projectionLeases.map ProjectionLeaseSummary.workItemId

theorem LeasesReported.add {start : ExecutionStore} {progress last : PassProgress (PassTables Rest)}
    {selected : SelectableWorkItem} {projection : ProjectionLeaseResult}
    (h : LeasesReported start progress)
    (hlease : LeasedIn progress.state.execution next.execution selected.workItemId)
    (hnames : projection.workItemId = selected.workItemId)
    (hadmits : Admits { progress with state := next } selected projection last) :
    LeasesReported start last := by
  obtain ⟨item, hitem, hitems⟩ := hadmits.item
  obtain ⟨lease, ⟨hleaseId, _⟩, hleases⟩ := hadmits.lease
  have hids : last.admittedItems.map AdmittedItemSummary.workItemId =
      progress.admittedItems.map AdmittedItemSummary.workItemId ++ [selected.workItemId] := by
    rw [hitems, List.map_append, List.map_singleton, hitem.workItemId]
  have hleaseIds : last.projectionLeases.map ProjectionLeaseSummary.workItemId =
      progress.projectionLeases.map ProjectionLeaseSummary.workItemId ++ [selected.workItemId] := by
    rw [hleases, List.map_append, List.map_singleton, hleaseId, hnames]
  have hstate : last.state = next := hadmits.state
  constructor
  · intro id hnot
    rw [hids, List.mem_append, List.mem_singleton, not_or] at hnot
    rw [hstate, hlease.others id hnot.2]
    exact h.others id hnot.1
  · intro id hmem
    rw [hstate]
    by_cases hid : id = selected.workItemId
    · rw [hid]
      exact hlease.leased
    · rw [hids, List.mem_append, List.mem_singleton] at hmem
      rw [hlease.others id hid]
      exact h.leased id (hmem.resolve_right hid)
  · intro id hmem
    rw [hids, List.mem_append] at hmem
    rw [hleaseIds, List.mem_append]
    exact hmem.imp_left (h.reported id)

variable {start : PassTables Rest}

theorem leasesReported_of_rounds {rounds : Nat} {progress : PassProgress (PassTables Rest)}
    (h : passRounds environment.ports command start rounds = .running progress) :
    LeasesReported start.execution progress := by
  induction rounds generalizing progress with
  | zero =>
    cases h
    exact ⟨fun _ _ => rfl, nofun, nofun⟩
  | succ rounds ih =>
    obtain ⟨earlier, hearlier, hround⟩ := passRounds_succ_running h
    rcases passRound_calls hround with ⟨_, hraised⟩ | ⟨answer, next, hcalls, hsettled⟩
    · cases hraised
    · obtain ⟨selected, projection, hadmitted, hadmits⟩ := settleAnswer_running hsettled.symm
      obtain ⟨hleased, hnames⟩ := hcalls.projection_names hadmitted
      have hleaves := hcalls.leaves
      rw [hleased] at hleaves
      exact (ih hearlier).add hleaves hnames hadmits

/-! Whole passes. -/

/-- The progress at the end of a pass that has returned. -/
theorem admissionPass_progress {result : PassResult} {final : PassTables Rest}
    (h : admissionPass environment.ports command start = .ok (result, final)) :
    ∃ last reason, finishPass command last reason = .ok (result, final) ∧
      (passRounds environment.ports command start command.maxAdmittedItems = .running last ∨
        passRounds environment.ports command start command.maxAdmittedItems =
          .stopped last reason) := by
  unfold admissionPass at h
  split at h
  · cases h
  · next last reason hstopped => exact ⟨last, reason, h, .inr hstopped⟩
  · next last hrunning => exact ⟨last, _, h, .inl hrunning⟩

/-- An item that is stranded in a round stays leased and is not reported. -/
theorem leasesGoThrough_of_noOrphanLease (h : NoOrphanLease environment command start) :
    LeasesGoThrough environment command start := by
  intro result final hpass index progress hindex hrunning answer next hcalls
  by_contra hstranded
  obtain ⟨id, hid⟩ := Option.ne_none_iff_exists'.mp hstranded
  have hanswer : answer.leasedItem = some id ∧ answer.admitted = none := by
    cases answer with
    | skipped _ | appended _ _ _ _ _ | started _ _ _ _ _ _ => cases hid
    | conflict selected execution => exact ⟨hid, rfl⟩
    | denied selected execution projection attempt reason => exact ⟨hid, rfl⟩
  have hleased := hcalls.leaves
  rw [hanswer.1] at hleased
  obtain ⟨⟨before, hbefore, hdue⟩, ⟨row, hrow, hstatus⟩, _⟩ := hleased
  have hnotLeased : before.item.status ≠ .leased := by
    intro heq
    unfold WorkItem.isDue at hdue
    rw [heq] at hdue
    cases hdue
  -- the round stops the pass, so the result is made from the items admitted before
  have hsettled : ∃ reason, settleAnswer { progress with state := next } answer =
      .stopped { progress with state := next } reason := settleAnswer_of_not_admitted hanswer.2
  obtain ⟨reason, hsettled⟩ := hsettled
  have hend := passRounds_of_stopped hindex hrunning ((passRound_of_calls hcalls).trans hsettled)
  obtain ⟨last, stopReason, hfinish, hlast⟩ := admissionPass_progress hpass
  rw [hend] at hlast
  rcases hlast with hrunning | hstopped
  · cases hrunning
  · cases hstopped
    obtain ⟨rfl, hitems, _⟩ := finishPass_reports hfinish
    have hreported := leasesReported_of_rounds hrunning
    have hnew : id ∉ progress.admittedItems.map AdmittedItemSummary.workItemId := by
      intro hmem
      obtain ⟨leasedRow, hleasedRow, hleasedStatus⟩ := hreported.leased id hmem
      rw [hbefore] at hleasedRow
      cases hleasedRow
      exact hnotLeased hleasedStatus
    rcases h result _ hpass id row hrow hstatus with hold | ⟨⟨item, hitem, hitemId⟩, _⟩
    · rw [← hreported.others id hnew, hbefore] at hold
      cases hold
      exact hnotLeased hstatus
    · rw [hitems] at hitem
      exact hnew (List.mem_map.mpr ⟨item, hitem, hitemId⟩)

theorem noOrphanLease_of_leasesGoThrough (h : LeasesGoThrough environment command start) :
    NoOrphanLease environment command start := by
  intro result final hpass id row hrow hstatus
  obtain ⟨last, reason, hfinish, hlast⟩ := admissionPass_progress hpass
  have hreported : LeasesReported start.execution last := by
    rcases hlast with hrunning | hstopped
    · exact leasesReported_of_rounds hrunning
    · obtain ⟨index, progress, hindex, hrunning, hround⟩ := passRounds_stopped hstopped
      rcases passRound_calls hround with ⟨_, hraised⟩ | ⟨answer, next, hcalls, hsettled⟩
      · cases hraised
      · have hthrough := h result final hpass index progress hindex hrunning answer next hcalls
        obtain ⟨hnone, hsame⟩ := settleAnswer_stopped hsettled.symm
        have hunleased : answer.leasedItem = none := by
          cases answer with
          | skipped reason => rfl
          | conflict _ _ | denied _ _ _ _ _ => cases hthrough
          | appended _ _ _ _ _ | started _ _ _ _ _ _ => cases hnone
        have hexecution := hcalls.leaves
        rw [hunleased] at hexecution
        obtain ⟨hothers, hleased, hleases⟩ := leasesReported_of_rounds hrunning
        rw [hsame]
        refine ⟨?_, ?_, hleases⟩
        · rw [hexecution]
          exact hothers
        · rw [hexecution]
          exact hleased
  obtain ⟨hfinal, hitems, hleases⟩ := finishPass_reports hfinish
  rw [hfinal] at hrow
  by_cases hmem : id ∈ last.admittedItems.map AdmittedItemSummary.workItemId
  · have hne : last.admittedItems ≠ [] := by
      intro hnil
      rw [hnil] at hmem
      cases hmem
    obtain ⟨lease, hlease, hleaseId⟩ := List.mem_map.mp (hreported.reported id hmem)
    obtain ⟨item, hitem, hitemId⟩ := List.mem_map.mp hmem
    right
    rw [hitems, hleases hne]
    exact ⟨⟨item, hitem, hitemId⟩, lease, hlease, hleaseId⟩
  · left
    rw [← hreported.others id hmem]
    exact hrow

/-- No item is left leased without an admission exactly when every lease of the pass
is let through by the projection and by the reservation. -/
theorem noOrphanLease_iff (environment : PassEnvironment Rest) (command : PassCommand)
    (start : PassTables Rest) :
    NoOrphanLease environment command start ↔ LeasesGoThrough environment command start :=
  ⟨leasesGoThrough_of_noOrphanLease, noOrphanLease_of_leasesGoThrough⟩

/-! An item whose reservation is denied. -/

def samplePass : PassCommand where
  workflowRunId := "workflow"
  phase := "extraction"
  operationKey := "prepare"
  laneKey := sampleDrain.selectionLane
  executionLaneKey := sampleDrain.executionLane
  budget := sampleDrain.budget
  worker := "worker"
  leaseTokenPrefix := "lease"
  leaseExpiresAt := 120000000
  now := 10
  maxAdmittedItems := 10
  workflowRunId_text := Eq.refl false
  phase_text := Eq.refl false
  operationKey_text := Eq.refl false
  accountRef_isSome := rfl
  workKind_eq := rfl
  provider_eq := rfl
  modelRef_eq := rfl
  leaseTokenPrefix_text := by decide
  lease_future := by decide
  maxAdmittedItems_pos := by decide

/-- `str.lower` on the texts below. -/
def lowerLatin (text : String) : String := String.ofList (text.toList.map Char.toLower)

theorem nextAttempt_pos (execution : ExecutionRuntime.LeasedWorkItemRecord) :
    0 < execution.workItem.attemptCount + 1 := Nat.succ_pos _

/-- The capacity is there at the preview and is gone at the reservation. -/
def deniesReservation : PassEnvironment Unit where
  lower := lowerLatin
  selectionLocked _ _ := false
  executionLocked _ _ := false
  projectionLocked _ _ := false
  eventId _ := "event"
  previewCapacity _ _ _ budget _ := .ok (.available budget, ())
  reserveCapacity _ _ _ _ _ budget _ _ := .ok (.denied budget .capacityExhausted, ())
  startOrAppendExecution _ selected _ execution _ _ _ :=
    if htext : isBlank selected.workItemId = false then
      .ok (.attempt
        { attemptId := "attempt", workItemId := selected.workItemId
          attemptNumber := execution.workItem.attemptCount + 1, attemptId_text := Eq.refl false
          workItemId_text := htext, attemptNumber_pos := nextAttempt_pos execution }, ())
    else .error (.valueError "work_item_id must be non-empty")
  hasActiveLeasedWork _ _ _ := .ok (false, ())

/-- The item is leased and its attempt is started, the reservation is denied, and the
pass reports nothing but exhausted capacity. -/
theorem deniedReservation_strands :
    ¬ NoOrphanLease deniesReservation samplePass
      { execution := freshStore "first" "section" (by decide)
        queue := wholeBudgetQueue sampleDrain (by decide), rest := () } := by
  intro h
  have hleft : ∃ result final row old,
      admissionPass deniesReservation.ports samplePass
          { execution := freshStore "first" "section" (by decide)
            queue := wholeBudgetQueue sampleDrain (by decide), rest := () } = .ok (result, final) ∧
        final.execution.workItems.find? "first" = some row ∧ row.item.status = .leased ∧
        (freshStore "first" "section" (by decide)).workItems.find? "first" = some old ∧
        old.item.status = .ready ∧ result.admittedItems = [] :=
    ⟨_, _, _, _, rfl, rfl, rfl, rfl, rfl, rfl⟩
  obtain ⟨result, final, row, old, hpass, hrow, hstatus, hold, hready, hnone⟩ := hleft
  rcases h result final hpass "first" row hrow hstatus with hkept | ⟨⟨item, hitem, _⟩, _⟩
  · rw [hold] at hkept
    cases hkept
    rw [hready] at hstatus
    cases hstatus
  · rw [hnone] at hitem
    cases hitem

end CrmBot.CapacityAdmissionQueue
