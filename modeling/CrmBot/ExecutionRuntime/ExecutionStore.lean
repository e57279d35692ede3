import CrmBot.ExecutionRuntime.WorkItem
import CrmBot.Library.Fold
import CrmBot.Library.Table
import CrmBot.Python.PyValue
import Mathlib.Data.Prod.Lex

/-! The tables of the execution runtime and the statements of its repositories.

Row locks of other transactions enter as a predicate on work item ids, since a
statement with `SKIP LOCKED` may pass over any row. -/

namespace CrmBot.ExecutionRuntime

open Relational CrmBot.Python

/-- A row of `execution_work_items`. -/
structure WorkItemRow where
  item : WorkItem
  createdAt : Int
  updatedAt : Int
  updated_ge : createdAt ≤ updatedAt
  deriving DecidableEq

theorem epoch_le_epoch : (0 : Int) ≤ 0 := Int.le_refl 0

def WorkItemRow.workItemId (row : WorkItemRow) : String := row.item.workItemId

structure ScheduleRow where
  workItemId : String
  idempotencyKey : String
  payloadHash : String
  payload : Payload
  deriving DecidableEq

inductive AttemptOutcomeStatus
  | succeeded
  | retryableFailed
  | terminalFailed
  deriving DecidableEq, Repr

structure AttemptRow where
  attemptId : String
  workItemId : String
  attemptNumber : Nat
  startedAt : Int
  finishedAt : Option Int
  outcomeStatus : Option AttemptOutcomeStatus
  errorKind : Option String
  validationMetadata : Option Payload
  llmOutputPayload : Option Payload
  deriving DecidableEq

/-- `UNIQUE (work_item_id, attempt_number)`. -/
def AttemptRow.itemAttempt (row : AttemptRow) : String × Nat := (row.workItemId, row.attemptNumber)

/-- A row of `execution_work_item_attempt_dispatches`; also the record that
`save_started_dispatch_attempt` writes. -/
structure DispatchRow where
  attemptId : String
  workItemId : String
  attemptNumber : Nat
  leaseToken : String
  workerRef : String
  schedulePayload : Payload
  llmAllocationPayload : Payload
  dispatchPayload : Payload
  deriving DecidableEq

def DispatchRow.itemAttempt (row : DispatchRow) :
    String × Nat := (row.workItemId, row.attemptNumber)

structure ExecutionStore where
  workItems : Table WorkItemRow.workItemId
  schedules : UniqueTable ScheduleRow.workItemId ScheduleRow.idempotencyKey
  attempts : UniqueTable AttemptRow.attemptId AttemptRow.itemAttempt
  dispatches : UniqueTable DispatchRow.attemptId DispatchRow.itemAttempt

/-- The lifecycle columns an `UPDATE execution_work_items` sets. The update time
is never before the creation time, by `GREATEST` or by the database clock. -/
def WorkItemRow.setLifecycle (row : WorkItemRow) (item : WorkItem)
    (retryPlan : Option WorkItemRetryPlan) (updatedAt : Int) : WorkItemRow :=
  { item :=
      { row.item with
        status := item.status, attemptCount := item.attemptCount, leasedBy := item.leasedBy
        leaseToken := item.leaseToken, leaseExpiresAt := item.leaseExpiresAt
        lastErrorKind := item.lastErrorKind, retryPlan := retryPlan
        lease_shape := item.lease_shape }
    createdAt := row.createdAt
    updatedAt := max updatedAt row.createdAt
    updated_ge := le_max_right _ _ }

@[simp] theorem WorkItemRow.setLifecycle_workItemId (row : WorkItemRow) (item : WorkItem)
    (retryPlan : Option WorkItemRetryPlan) (updatedAt : Int) :
    (row.setLifecycle item retryPlan updatedAt).workItemId = row.workItemId := rfl

/-- `UPDATE execution_work_items SET … WHERE work_item_id = …`. -/
def updateWorkItem (store : ExecutionStore) (workItemId : String) (item : WorkItem)
    (retryPlan : WorkItemRow → Option WorkItemRetryPlan) (updatedAt : Int) : ExecutionStore :=
  { store with
    workItems := store.workItems.updateWhere (fun row => row.workItemId = workItemId)
      (fun row => row.setLifecycle item (retryPlan row) updatedAt)
      fun row => row.setLifecycle_workItemId item (retryPlan row) updatedAt }

theorem find?_updateWorkItem_self {store : ExecutionStore} {workItemId : String}
    {row : WorkItemRow} {item : WorkItem} {retryPlan : WorkItemRow → Option WorkItemRetryPlan}
    {updatedAt : Int} (hrow : store.workItems.find? workItemId = some row) :
    (updateWorkItem store workItemId item retryPlan updatedAt).workItems.find? workItemId =
      some (row.setLifecycle item (retryPlan row) updatedAt) := by
  have hkey := (Table.find?_eq_some_iff.mp hrow).2
  unfold updateWorkItem
  rw [Table.find?_updateWhere, hrow]
  simp [hkey]

theorem find?_updateWorkItem_of_ne {store : ExecutionStore} {workItemId other : String}
    {item : WorkItem} {retryPlan : WorkItemRow → Option WorkItemRetryPlan} {updatedAt : Int}
    (hne : other ≠ workItemId) :
    (updateWorkItem store workItemId item retryPlan updatedAt).workItems.find? other =
      store.workItems.find? other := by
  unfold updateWorkItem
  rw [Table.find?_updateWhere]
  cases hfind : store.workItems.find? other with
  | none => rfl
  | some row =>
    have hkey := (Table.find?_eq_some_iff.mp hfind).2
    simp [hkey, hne]

/-! `PostgresWorkItemLeaseRepository` -/

/-- `_hydrate_work_item` of the lease repository, which does not read the
retry plan. -/
def hydrateWithoutRetryPlan (row : WorkItemRow) : WorkItem := { row.item with retryPlan := none }

structure DueWorkItemRecord where
  workItem : WorkItem
  schedulePayload : Payload
  deriving DecidableEq

structure LeasedWorkItemRecord where
  workItem : WorkItem
  schedulePayload : Payload
  deriving DecidableEq

/-- `CASE status WHEN 'retryable_failed' THEN 0 WHEN 'ready' THEN 1 ELSE 2 END`. -/
def dueRank : WorkItemStatus → Nat
  | .retryableFailed => 0
  | .ready => 1
  | _ => 2

/-- The order in which due items are taken. -/
def WorkItemRow.dueBefore (first second : WorkItemRow) : Prop :=
  dueRank first.item.status < dueRank second.item.status ∨
    (dueRank first.item.status = dueRank second.item.status ∧
      (first.updatedAt < second.updatedAt ∨
        (first.updatedAt = second.updatedAt ∧ first.workItemId ≤ second.workItemId)))

instance : DecidableRel WorkItemRow.dueBefore := fun _ _ =>
  inferInstanceAs (Decidable (_ ∨ (_ ∧ (_ ∨ _))))

/-- The sort key of the due order. -/
def WorkItemRow.dueKey (row : WorkItemRow) : Nat ×ₗ Int ×ₗ String :=
  toLex (dueRank row.item.status, toLex (row.updatedAt, row.workItemId))

theorem WorkItemRow.dueBefore_iff {first second : WorkItemRow} :
    first.dueBefore second ↔ first.dueKey ≤ second.dueKey := by
  simp only [dueBefore, dueKey, Prod.Lex.toLex_le_toLex]

theorem WorkItemRow.workItemId_eq_of_dueBefore {first second : WorkItemRow}
    (hfirst : first.dueBefore second) (hsecond : second.dueBefore first) :
    first.workItemId = second.workItemId := by
  have hkey := le_antisymm (dueBefore_iff.mp hfirst) (dueBefore_iff.mp hsecond)
  exact (Prod.mk.inj (Prod.mk.inj hkey).2).2

instance : Std.Total WorkItemRow.dueBefore where
  total first second := by
    rw [WorkItemRow.dueBefore_iff, WorkItemRow.dueBefore_iff]
    exact le_total _ _

instance : IsTrans WorkItemRow WorkItemRow.dueBefore where
  trans first second third := by
    rw [WorkItemRow.dueBefore_iff, WorkItemRow.dueBefore_iff, WorkItemRow.dueBefore_iff]
    exact le_trans

/-- The due rows of a kind, joined with their schedules. -/
def dueWorkItems (store : ExecutionStore) (workKind : String) : List DueWorkItemRecord :=
  (store.workItems.select (fun row => row.item.workKind = workKind && row.item.isDue)
    WorkItemRow.dueBefore).filterMap fun row =>
      (store.schedules.find? row.workItemId).map fun schedule =>
        { workItem := hydrateWithoutRetryPlan row, schedulePayload := schedule.payload }

/-- `peek_due_work_items`, which takes a positive number of rows. -/
def peekDueWorkItems (store : ExecutionStore) (workKind : String) (requestedItems : Nat) :
    List DueWorkItemRecord :=
  (dueWorkItems store workKind).take requestedItems

theorem mem_dueWorkItems {store : ExecutionStore} {workKind : String}
    {record : DueWorkItemRecord} :
    record ∈ dueWorkItems store workKind ↔ ∃ row schedule,
      store.workItems.find? row.workItemId = some row ∧
        store.schedules.find? row.workItemId = some schedule ∧ row.item.workKind = workKind ∧
        row.item.isDue = true ∧
        record =
          { workItem := hydrateWithoutRetryPlan row, schedulePayload := schedule.payload } := by
  unfold dueWorkItems
  simp only [List.mem_filterMap, Table.mem_select, Bool.and_eq_true, decide_eq_true_eq,
    Option.map_eq_some_iff]
  constructor
  · rintro ⟨row, ⟨hmem, hkind, hdue⟩, schedule, hschedule, rfl⟩
    exact ⟨row, schedule, Table.find?_eq_some_iff.mpr ⟨hmem, rfl⟩, hschedule, hkind, hdue, rfl⟩
  · rintro ⟨row, schedule, hrow, hschedule, hkind, hdue, rfl⟩
    exact ⟨row, ⟨(Table.find?_eq_some_iff.mp hrow).1, hkind, hdue⟩, schedule, hschedule, rfl⟩

/-- An item is due once. -/
theorem dueWorkItems_nodup (store : ExecutionStore) (workKind : String) :
    ((dueWorkItems store workKind).map fun record => record.workItem.workItemId).Nodup := by
  unfold dueWorkItems Table.select
  rw [List.Nodup, List.pairwise_map]
  have hrows : (store.workItems.rows.filter fun row =>
      decide (row.item.workKind = workKind) && row.item.isDue).Pairwise
        fun first second => first.workItemId ≠ second.workItemId :=
    (List.pairwise_map.mp store.workItems.key_nodup).filter _
  have hsorted := (List.perm_insertionSort WorkItemRow.dueBefore _).symm.pairwise hrows
    fun hne => Ne.symm hne
  refine hsorted.filterMap _ ?_
  intro first second hne found hfound other hother
  obtain ⟨_, _, rfl⟩ := Option.map_eq_some_iff.mp hfound
  obtain ⟨_, _, rfl⟩ := Option.map_eq_some_iff.mp hother
  exact hne

theorem peekDueWorkItems_nodup (store : ExecutionStore) (workKind : String)
    (requestedItems : Nat) :
    ((peekDueWorkItems store workKind requestedItems).map
      fun record => record.workItem.workItemId).Nodup :=
  (dueWorkItems_nodup store workKind).sublist ((List.take_sublist _ _).map _)

/-- Only a positive request sees an item. -/
theorem requestedItems_pos {store : ExecutionStore} {workKind : String} {requestedItems : Nat}
    {record : DueWorkItemRecord} (h : record ∈ peekDueWorkItems store workKind requestedItems) :
    0 < requestedItems :=
  (List.length_pos_of_mem h).trans_le (List.length_take_le _ _)

/-- The row `lease_due_work_item_by_id` selects `FOR UPDATE SKIP LOCKED`. -/
def leasableRow (store : ExecutionStore) (locked : String → Bool) (workKind workItemId : String) :
    Option (WorkItemRow × ScheduleRow) :=
  match store.workItems.find? workItemId, store.schedules.find? workItemId with
  | some row, some schedule =>
    if row.item.workKind = workKind ∧ row.item.isDue ∧ ¬ locked workItemId then some (row, schedule)
    else none
  | _, _ => none

/-- `lease_due_work_item_by_id`. The retry plan column keeps its value. -/
def leaseDueWorkItemById (store : ExecutionStore) (locked : String → Bool)
    (workKind workItemId worker leaseToken : String) (leaseExpiresAt now : Int) :
    Except Fault (Option LeasedWorkItemRecord × ExecutionStore) :=
  match leasableRow store locked workKind workItemId with
  | none => .ok (none, store)
  | some (row, schedule) => do
    let leased ← WorkItemStateMachine.leaseReady (hydrateWithoutRetryPlan row) worker leaseToken
      leaseExpiresAt now
    return (some { workItem := leased, schedulePayload := schedule.payload },
      updateWorkItem store workItemId leased (fun old => old.item.retryPlan) now)

theorem leasableRow_eq_some_iff {store : ExecutionStore} {locked : String → Bool}
    {workKind workItemId : String} {row : WorkItemRow} {schedule : ScheduleRow} :
    leasableRow store locked workKind workItemId = some (row, schedule) ↔
      store.workItems.find? workItemId = some row ∧
        store.schedules.find? workItemId = some schedule ∧ row.item.workKind = workKind ∧
        row.item.isDue = true ∧ locked workItemId = false := by
  unfold leasableRow
  cases hrow : store.workItems.find? workItemId with
  | none => simp
  | some found =>
    cases hschedule : store.schedules.find? workItemId with
    | none => simp
    | some payload =>
      simp only [Bool.not_eq_true, Option.ite_none_right_eq_some, Option.some.injEq, Prod.mk.injEq]
      constructor
      · rintro ⟨⟨hkind, hdue, hfree⟩, rfl, rfl⟩
        exact ⟨rfl, rfl, hkind, hdue, hfree⟩
      · rintro ⟨rfl, rfl, hkind, hdue, hfree⟩
        exact ⟨⟨hkind, hdue, hfree⟩, rfl, rfl⟩

/-- A due item that no other transaction holds can be leased. -/
theorem leasableRow_of_due {store : ExecutionStore} {locked : String → Bool} {workKind : String}
    {record : DueWorkItemRecord} (hdue : record ∈ dueWorkItems store workKind)
    (hfree : locked record.workItem.workItemId = false) :
    ∃ row schedule, leasableRow store locked workKind record.workItem.workItemId =
      some (row, schedule) := by
  obtain ⟨row, schedule, hrow, hschedule, hkind, hisDue, rfl⟩ := mem_dueWorkItems.mp hdue
  exact ⟨row, schedule, leasableRow_eq_some_iff.mpr ⟨hrow, hschedule, hkind, hisDue, hfree⟩⟩

/-- For an expiry in the future a lease never fails: the row is leased if it can
be selected. -/
theorem leaseDueWorkItemById_eq {store : ExecutionStore} {locked : String → Bool}
    {workKind workItemId worker leaseToken : String} {leaseExpiresAt now : Int}
    (hfuture : now < leaseExpiresAt) :
    leaseDueWorkItemById store locked workKind workItemId worker leaseToken leaseExpiresAt now =
      .ok (match leasableRow store locked workKind workItemId with
        | none => (none, store)
        | some (row, schedule) =>
          let leased := WorkItemStateMachine.leasedItem (hydrateWithoutRetryPlan row) worker
            leaseToken leaseExpiresAt
          (some { workItem := leased, schedulePayload := schedule.payload },
            updateWorkItem store workItemId leased (fun old => old.item.retryPlan) now)) := by
  unfold leaseDueWorkItemById
  cases hrow : leasableRow store locked workKind workItemId with
  | none => rfl
  | some found =>
    obtain ⟨row, schedule⟩ := found
    obtain ⟨_, _, _, hdue, _⟩ := leasableRow_eq_some_iff.mp hrow
    have hwaiting : (hydrateWithoutRetryPlan row).status.isWaiting = true := hdue
    simp only [WorkItemStateMachine.leaseReady_of_waiting hwaiting hfuture]
    rfl

/-! `PostgresWorkItemAttemptDispatchRepository` -/

/-- The attempt row of a dispatch that starts. -/
def startedAttemptRow (record : DispatchRow) (startedAt : Int) : AttemptRow :=
  { attemptId := record.attemptId, workItemId := record.workItemId
    attemptNumber := record.attemptNumber, startedAt := startedAt, finishedAt := none
    outcomeStatus := none, errorKind := none, validationMetadata := none
    llmOutputPayload := none }

/-- `save_started_dispatch_attempt`. A known attempt id is ignored by the first
statement and refused by the second. The row that is read back afterwards is
the inserted one, so the comparison with the record cannot fail. -/
def saveStartedDispatchAttempt (store : ExecutionStore) (record : DispatchRow) (startedAt : Int) :
    Except Fault ExecutionStore :=
  match store.attempts.insertOrIgnore? (startedAttemptRow record startedAt) with
  | none => .error (.uniqueViolation "uq_execution_work_item_attempts_work_item_attempt")
  | some attempts => match store.dispatches.insert? record with
    | none => .error (.uniqueViolation "execution_work_item_attempt_dispatches_pkey")
    | some dispatches => .ok { store with attempts := attempts, dispatches := dispatches }

/-- What a saved attempt leaves: a new dispatch row, and a new attempt row unless
there was one of that id. -/
structure SavedAttempt (store : ExecutionStore) (record : DispatchRow) (startedAt : Int)
    (next : ExecutionStore) : Prop where
  workItems : next.workItems = store.workItems
  schedules : next.schedules = store.schedules
  dispatch_new : record.attemptId ∉ store.dispatches.keys
  dispatches : next.dispatches.rows = store.dispatches.rows ++ [record]
  attempts : next.attempts = store.attempts ∧ record.attemptId ∈ store.attempts.keys ∨
    next.attempts.rows = store.attempts.rows ++ [startedAttemptRow record startedAt]

theorem saveStartedDispatchAttempt_ends (store : ExecutionStore) (record : DispatchRow)
    (startedAt : Int) :
    FailingFold.Ends (SavedAttempt store record startedAt) Fault.IsUniqueViolation
      (saveStartedDispatchAttempt store record startedAt) := by
  unfold saveStartedDispatchAttempt
  split
  · trivial
  · next attempts hattempts =>
    split
    · trivial
    · next dispatches hdispatches =>
      obtain ⟨hnew, _, hrows⟩ := UniqueTable.rows_of_insert? hdispatches
      refine ⟨rfl, rfl, hnew, hrows, ?_⟩
      rcases UniqueTable.rows_of_insertOrIgnore? hattempts with ⟨hold, hsame⟩ | ⟨_, _, hattempt⟩
      · exact .inl ⟨hsame, hold⟩
      · exact .inr hattempt

/-- An attempt that is new in id and number is saved. -/
theorem saveStartedDispatchAttempt_of_new {store : ExecutionStore} {record : DispatchRow}
    {startedAt : Int} (hattempt : record.attemptId ∉ store.attempts.keys)
    (hattemptNumber : record.itemAttempt ∉ store.attempts.uniques)
    (hdispatch : record.attemptId ∉ store.dispatches.keys)
    (hdispatchNumber : record.itemAttempt ∉ store.dispatches.uniques) :
    ∃ next, saveStartedDispatchAttempt store record startedAt = .ok next := by
  have hrow : (startedAttemptRow record startedAt).itemAttempt ∉ store.attempts.uniques :=
    hattemptNumber
  have hid : (startedAttemptRow record startedAt).attemptId ∉ store.attempts.keys := hattempt
  obtain ⟨attempts, hattempts, _⟩ := UniqueTable.insertOrIgnore?_of_new hid hrow
  obtain ⟨dispatches, hdispatches, _⟩ := UniqueTable.insert?_of_new hdispatch hdispatchNumber
  refine ⟨{ store with attempts := attempts, dispatches := dispatches }, ?_⟩
  unfold saveStartedDispatchAttempt
  simp only [hattempts, hdispatches]

/-! `PostgresWorkItemAttemptOutcomeRepository` -/

/-- `WorkItemAttemptOutcomeRecord` with the conditions its constructor checks. -/
structure AttemptOutcomeRecord where
  attemptId : String
  workItemId : String
  attemptNumber : Nat
  leaseToken : String
  finishedAt : Int
  outcomeStatus : AttemptOutcomeStatus
  errorKind : Option String
  retryPlan : Option WorkItemRetryPlan
  validationMetadata : Option Payload
  llmOutputPayload : Option Payload
  errorKind_iff : errorKind.isSome = true ↔ outcomeStatus ≠ .succeeded
  retryPlan_iff : retryPlan.isSome = true ↔ outcomeStatus = .retryableFailed

/-- `_validate_current_lease`. -/
def validateCurrentLease (current : WorkItem) (record : AttemptOutcomeRecord) :
    Except Fault Unit :=
  if current.status ≠ .leased then
    .error (.valueError "work item must be leased to record attempt outcome")
  else if current.leaseToken ≠ some record.leaseToken then
    .error (.valueError "lease_token does not match current work item lease")
  else if current.attemptCount ≠ record.attemptNumber then
    .error (.valueError "attempt_number does not match current work item attempt_count")
  else .ok ()

/-- `_transition_work_item`. -/
def transitionWorkItem (current : WorkItem) (record : AttemptOutcomeRecord) :
    Except Fault WorkItem :=
  match record.outcomeStatus, record.errorKind with
  | .succeeded, _ => .ok current
  | _, none => .error (.valueError "error_kind is required for failed/deferred outcomes")
  | .retryableFailed, some errorKind => match record.retryPlan with
    | none => .error (.valueError "retry_plan is required for retryable/deferred outcomes")
    | some plan => WorkItemStateMachine.failLeasedRetryable current errorKind plan
  | .terminalFailed, some errorKind => WorkItemStateMachine.failLeasedTerminal current errorKind

/-- `record_attempt_outcome`, at the database time `now`. -/
def recordAttemptOutcome (store : ExecutionStore) (record : AttemptOutcomeRecord) (now : Int) :
    Except Fault (WorkItem × ExecutionStore) :=
  match store.workItems.find? record.workItemId with
  | none => .error (.valueError "work item does not exist")
  | some row => do
    validateCurrentLease row.item record
    let transitioned ← transitionWorkItem row.item record
    let isAttempt (attempt : AttemptRow) : Bool :=
      attempt.attemptId = record.attemptId && attempt.workItemId = record.workItemId &&
        attempt.attemptNumber = record.attemptNumber
    if store.attempts.rows.any isAttempt then
      return (transitioned, updateWorkItem
        { store with
          attempts := store.attempts.updateWhere isAttempt
            (fun attempt =>
              { attempt with
                finishedAt := some record.finishedAt, outcomeStatus := some record.outcomeStatus
                errorKind := record.errorKind, validationMetadata := record.validationMetadata
                llmOutputPayload := record.llmOutputPayload })
            (fun _ => rfl) fun _ => rfl }
        record.workItemId transitioned (fun _ => transitioned.retryPlan) now)
    else .error (.runtimeError "attempt outcome update must affect exactly one row")

/-- `complete_work_item_after_domain_apply`. -/
def completeWorkItemAfterDomainApply (store : ExecutionStore) (workItemId leaseToken : String)
    (now : Int) : Except Fault (WorkItem × ExecutionStore) :=
  match store.workItems.find? workItemId with
  | none => .error (.valueError "work item does not exist")
  | some row =>
    if row.item.status ≠ .leased then
      .error (.valueError "work item must be leased to complete after domain apply")
    else if row.item.leaseToken ≠ some leaseToken then
      .error (.valueError "lease_token does not match current work item lease")
    else do
      let completed ← WorkItemStateMachine.completeLeased row.item
      return (completed, updateWorkItem store workItemId completed (fun _ => none) now)

/-! `PostgresExpiredLeaseRecoveryRepository` -/

/-- `ORDER BY lease_expires_at, work_item_id`. -/
def WorkItemRow.expiresBefore (first second : WorkItemRow) : Prop :=
  first.item.leaseExpiresAt.getD 0 < second.item.leaseExpiresAt.getD 0 ∨
    (first.item.leaseExpiresAt.getD 0 = second.item.leaseExpiresAt.getD 0 ∧
      first.workItemId ≤ second.workItemId)

instance : DecidableRel WorkItemRow.expiresBefore := fun _ _ =>
  inferInstanceAs (Decidable (_ ∨ _))

def leaseExpired (row : WorkItemRow) (now : Int) : Bool :=
  row.item.status = .leased && row.item.leaseExpiresAt.any fun expires => decide (expires ≤ now)

/-- The rows one `reclaim_expired` statement takes. -/
def expiredRows (store : ExecutionStore) (locked : String → Bool) (now : Int) (limit : Nat) :
    List WorkItemRow :=
  (store.workItems.select (fun row => leaseExpired row now && !locked row.workItemId)
    WorkItemRow.expiresBefore).take limit

/-- `reclaim_expired`: the abandoned attempts are closed and the items are made
ready again. -/
def reclaimExpired (store : ExecutionStore) (locked : String → Bool) (now : Int) (limit : Nat) :
    ExecutionStore :=
  let expired := expiredRows store locked now limit
  { store with
    attempts := store.attempts.updateWhere
      (fun attempt => expired.any fun row =>
        attempt.workItemId = row.workItemId && attempt.attemptNumber = row.item.attemptCount)
      (fun attempt =>
        { attempt with
          finishedAt := attempt.finishedAt.or (some now)
          outcomeStatus := attempt.outcomeStatus.or (some .retryableFailed)
          errorKind := attempt.errorKind.or (some "lease_expired") })
      (fun _ => rfl) fun _ => rfl
    workItems := store.workItems.updateWhere
      (fun row => row.workItemId ∈ expired.map WorkItemRow.workItemId)
      (fun row => row.setLifecycle
        (WorkItemStateMachine.withoutLease row.item .ready
          (some "lease_expired") none ready_ne_leased)
        none now)
      fun row => row.setLifecycle_workItemId _ _ _ }

/-! `PostgresWorkItemSchedulingRepository` -/

/-- `save_scheduled_work_item`, at the database time `now`. -/
def saveScheduledWorkItem (store : ExecutionStore) (item : WorkItem)
    (idempotencyKey payloadHash : String) (payload : Payload) (now : Int) :
    Except Fault ExecutionStore :=
  match store.workItems.insert?
      { item := { item with retryPlan := none }, createdAt := now, updatedAt := now
        updated_ge := le_refl now } with
  | none => .error (.uniqueViolation "execution_work_items_pkey")
  | some workItems => match store.schedules.insert?
      { workItemId := item.workItemId, idempotencyKey := idempotencyKey
        payloadHash := payloadHash, payload := payload } with
    | none => .error (.uniqueViolation "uq_execution_work_item_schedules_idempotency_key")
    | some schedules => .ok { store with workItems := workItems, schedules := schedules }

end CrmBot.ExecutionRuntime
