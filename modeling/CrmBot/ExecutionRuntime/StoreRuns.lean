import CrmBot.ExecutionRuntime.RecordedOutcome
import CrmBot.ExecutionRuntime.WorkItemRuns

/-! The repository operations on the execution store, and the row of one item under
each of them.

An operation changes the row of an item by at most one transition of the state
machine; the statements that load an item without its retry plan write the row back
without that column. -/

namespace CrmBot.ExecutionRuntime

open Relational CrmBot.Python FailingFold

/-- The first due row of a kind that no other transaction holds. -/
def firstDueRow (store : ExecutionStore) (locked : String → Bool) (workKind : String) :
    Option WorkItemRow :=
  (store.workItems.select
    (fun row => row.item.workKind = workKind && row.item.isDue &&
      (store.schedules.find? row.workItemId).isSome && !locked row.workItemId)
    WorkItemRow.dueBefore).head?

/-- `lease_due_work_item`: it selects a row, and then does what the lease by id
does. -/
def leaseDueWorkItem (store : ExecutionStore) (locked : String → Bool)
    (workKind worker leaseToken : String) (leaseExpiresAt now : Int) :
    Except Fault (Option LeasedWorkItemRecord × ExecutionStore) :=
  match firstDueRow store locked workKind with
  | none => .ok (none, store)
  | some row =>
    leaseDueWorkItemById store locked workKind row.workItemId worker leaseToken leaseExpiresAt now

/-! `PostgresWorkItemSplitSupersedeRepository` -/

def loadWorkItem (store : ExecutionStore) (workItemId : String) : Option WorkItem :=
  (store.workItems.find? workItemId).map hydrateWithoutRetryPlan

/-- `save_work_item`. The retry plan column keeps its value. -/
def saveWorkItem (store : ExecutionStore) (item : WorkItem) (now : Int) : ExecutionStore :=
  updateWorkItem store item.workItemId item (fun old => old.item.retryPlan) now

/-- What `SupersedeWaitingWorkItemsForSplit.execute` does for one id. -/
def supersedeWaitingWorkItem (store : ExecutionStore) (workItemId : String) (now : Int) :
    Except Fault ExecutionStore :=
  match loadWorkItem store workItemId with
  | none => .error (.valueError ("work item not found: " ++ workItemId))
  | some item =>
    if item.status = .splitSuperseded then .ok store
    else (WorkItemStateMachine.markSplitSupersededWaiting item).map fun superseded =>
      saveWorkItem store superseded now

/-- An outcome record with the remaining checks of its constructor. -/
structure CheckedOutcomeRecord extends AttemptOutcomeRecord where
  attemptId_ne : isBlank attemptId = false
  attemptNumber_pos : 0 < attemptNumber
  errorKind_ne : errorKind.any isBlank = false

/-- `chk_execution_work_item_attempts_finished_after_started` refuses the outcome. -/
def endsBeforeStart (store : ExecutionStore) (record : AttemptOutcomeRecord) : Bool :=
  store.attempts.rows.any fun attempt =>
    attempt.attemptId = record.attemptId && attempt.workItemId = record.workItemId &&
      attempt.attemptNumber = record.attemptNumber && decide (record.finishedAt < attempt.startedAt)

/-- The same check refuses a recovery that would close an attempt before its
start. -/
def closesBeforeStart (store : ExecutionStore) (locked : String → Bool) (now : Int)
    (limit : Nat) : Bool :=
  store.attempts.rows.any fun attempt =>
    ((expiredRows store locked now limit).any fun row =>
      attempt.workItemId = row.workItemId && attempt.attemptNumber = row.item.attemptCount) &&
    attempt.finishedAt = none && decide (now < attempt.startedAt)

inductive StoreOperation
  | leaseDue (locked : String → Bool) (workKind worker leaseToken : String)
      (leaseExpiresAt now : Int)
  | leaseById (locked : String → Bool) (workKind workItemId worker leaseToken : String)
      (leaseExpiresAt now : Int)
  | start (record : DispatchRow) (startedAt : Int)
  | record (outcome : CheckedOutcomeRecord) (now : Int)
  | complete (workItemId leaseToken : String) (now : Int)
  | recover (locked : String → Bool) (now : Int) (limit : Nat)
  | supersede (workItemId : String) (now : Int)

/-- A transaction that raises leaves the store as it was. -/
def committedStore (store : ExecutionStore) (result : Except Fault ExecutionStore) :
    ExecutionStore :=
  match result with
  | .ok next => next
  | .error _ => store

def performStore (store : ExecutionStore) : StoreOperation → ExecutionStore
  | .leaseDue locked workKind worker leaseToken leaseExpiresAt now =>
    committedStore store ((leaseDueWorkItem store locked workKind worker leaseToken leaseExpiresAt
      now).map Prod.snd)
  | .leaseById locked workKind workItemId worker leaseToken leaseExpiresAt now =>
    committedStore store ((leaseDueWorkItemById store locked workKind workItemId worker leaseToken
      leaseExpiresAt now).map Prod.snd)
  | .start record startedAt =>
    committedStore store (saveStartedDispatchAttempt store record startedAt)
  | .record outcome now =>
    if endsBeforeStart store outcome.toAttemptOutcomeRecord then store
    else committedStore store ((recordAttemptOutcome store outcome.toAttemptOutcomeRecord now).map
      Prod.snd)
  | .complete workItemId leaseToken now =>
    committedStore store ((completeWorkItemAfterDomainApply store workItemId leaseToken now).map
      Prod.snd)
  | .recover locked now limit =>
    if closesBeforeStart store locked now limit then store
    else reclaimExpired store locked now limit
  | .supersede workItemId now =>
    committedStore store (supersedeWaitingWorkItem store workItemId now)

/-! The transition an operation stands for. -/

/-- The item that an operation leases. -/
def StoreOperation.leasedId (store : ExecutionStore) : StoreOperation → Option String
  | .leaseDue locked workKind _ _ leaseExpiresAt now =>
    if now < leaseExpiresAt then (firstDueRow store locked workKind).map WorkItemRow.workItemId
    else none
  | .leaseById locked workKind workItemId _ _ leaseExpiresAt now =>
    if now < leaseExpiresAt then
      (leasableRow store locked workKind workItemId).map fun found => found.1.workItemId
    else none
  | _ => none

/-- An operation that is accepted may change the item it is meant for. -/
def acceptedFor {Value : Type} (result : Except Fault Value) (target workItemId : String)
    (transition : Option Transition) : Option Transition :=
  match result with
  | .ok _ => if target = workItemId then transition else none
  | .error _ => none

/-- The transition of a recorded outcome; a success has none of its own. -/
def outcomeTransition (record : AttemptOutcomeRecord) : Option Transition :=
  match record.outcomeStatus, record.errorKind, record.retryPlan with
  | .retryableFailed, some errorKind, some retryPlan =>
    some (.failLeasedRetryable errorKind retryPlan)
  | .terminalFailed, some errorKind, _ => some (.failLeasedTerminal errorKind)
  | _, _, _ => none

/-- The transition of the state machine that an operation stands for on an item. -/
def StoreOperation.transition (store : ExecutionStore) (workItemId : String)
    (operation : StoreOperation) : Option Transition :=
  match operation with
  | .leaseDue _ _ worker leaseToken leaseExpiresAt now =>
    if operation.leasedId store = some workItemId then
      some (.leaseReady worker leaseToken leaseExpiresAt now)
    else none
  | .leaseById _ _ _ worker leaseToken leaseExpiresAt now =>
    if operation.leasedId store = some workItemId then
      some (.leaseReady worker leaseToken leaseExpiresAt now)
    else none
  | .start _ _ => none
  | .record outcome now =>
    if endsBeforeStart store outcome.toAttemptOutcomeRecord then none
    else acceptedFor (recordAttemptOutcome store outcome.toAttemptOutcomeRecord now)
      outcome.workItemId workItemId (outcomeTransition outcome.toAttemptOutcomeRecord)
  | .complete target leaseToken now =>
    acceptedFor (completeWorkItemAfterDomainApply store target leaseToken now) target workItemId
      (some .completeLeased)
  | .recover locked now limit =>
    if closesBeforeStart store locked now limit then none
    else if workItemId ∈ (expiredRows store locked now limit).map WorkItemRow.workItemId then
      some (.reclaimExpiredLease now)
    else none
  | .supersede target _ =>
    if target = workItemId ∧ (loadWorkItem store target).any (fun item => item.status.isWaiting)
    then some .markSplitSupersededWaiting
    else none

/-- The operations that load their item without its retry plan. -/
def Transition.keepsPlan : Transition → Bool
  | .leaseReady .. | .markSplitSupersededWaiting => true
  | _ => false

def WorkItem.withRetryPlan (item : WorkItem) (retryPlan : Option WorkItemRetryPlan) : WorkItem :=
  { item with retryPlan := retryPlan }

/-- The item of a row before and after an operation that stands for a transition. -/
def ItemStep (before after : WorkItem) : Option Transition → Prop
  | none => after = before
  | some transition => ∃ item, transition.apply before = .ok item ∧
      after = if transition.keepsPlan then item.withRetryPlan before.retryPlan else item

variable {store : ExecutionStore} {workItemId : String} {row : WorkItemRow}

/-! One lemma for each operation. -/

/-- A lease by id leases the row it can select, until a time in the future. -/
theorem performStore_leaseById {locked : String → Bool} {workKind target worker leaseToken : String}
    {leaseExpiresAt now : Int} :
    performStore store (.leaseById locked workKind target worker leaseToken leaseExpiresAt now) =
      match leasableRow store locked workKind target with
      | none => store
      | some (row, _) =>
        if now < leaseExpiresAt then
          updateWorkItem store target (WorkItemStateMachine.leasedItem
            (hydrateWithoutRetryPlan row) worker leaseToken leaseExpiresAt)
            (fun old => old.item.retryPlan) now
        else store := by
  unfold performStore
  dsimp only
  by_cases hfuture : now < leaseExpiresAt
  · rw [leaseDueWorkItemById_eq hfuture]
    cases leasableRow store locked workKind target with
    | none => rfl
    | some found => exact (if_pos hfuture).symm
  · unfold leaseDueWorkItemById
    cases hrow : leasableRow store locked workKind target with
    | none => rfl
    | some found =>
      obtain ⟨row, schedule⟩ := found
      dsimp only
      rw [if_neg hfuture]
      have hrefused : ∃ fault, WorkItemStateMachine.leaseReady (hydrateWithoutRetryPlan row) worker
          leaseToken leaseExpiresAt now = .error fault := by
        unfold WorkItemStateMachine.leaseReady
        split
        · exact ⟨_, rfl⟩
        · rw [if_pos (by omega)]
          exact ⟨_, rfl⟩
      obtain ⟨fault, hfault⟩ := hrefused
      rw [hfault]
      rfl

theorem leasableRow_of_firstDueRow {locked : String → Bool} {workKind : String}
    (h : firstDueRow store locked workKind = some row) :
    ∃ schedule, leasableRow store locked workKind row.workItemId = some (row, schedule) := by
  obtain ⟨hmem, htest⟩ := Table.mem_select.mp (List.mem_of_mem_head? h)
  simp only [Bool.and_eq_true, decide_eq_true_eq, Bool.not_eq_true'] at htest
  obtain ⟨⟨⟨hkind, hdue⟩, hschedule⟩, hfree⟩ := htest
  obtain ⟨schedule, hfind⟩ := Option.isSome_iff_exists.mp hschedule
  have hrow : store.workItems.find? row.workItemId = some row :=
    Table.find?_eq_some_iff.mpr ⟨hmem, rfl⟩
  exact ⟨schedule, leasableRow_eq_some_iff.mpr ⟨hrow, hfind, hkind, hdue, hfree⟩⟩

/-- A lease by claim is a lease by id of the first due row. -/
theorem performStore_leaseDue {locked : String → Bool} {workKind worker leaseToken : String}
    {leaseExpiresAt now : Int} :
    performStore store (.leaseDue locked workKind worker leaseToken leaseExpiresAt now) =
      match firstDueRow store locked workKind with
      | none => store
      | some row => performStore store
          (.leaseById locked workKind row.workItemId worker leaseToken leaseExpiresAt now) := by
  unfold performStore leaseDueWorkItem
  dsimp only
  cases firstDueRow store locked workKind with
  | none => rfl
  | some row => rfl

theorem leasedId_leaseDue {locked : String → Bool} {workKind worker leaseToken : String}
    {leaseExpiresAt now : Int} :
    (StoreOperation.leaseDue locked workKind worker leaseToken leaseExpiresAt now).leasedId store =
      match firstDueRow store locked workKind with
      | none => none
      | some row => (StoreOperation.leaseById locked workKind row.workItemId worker leaseToken
          leaseExpiresAt now).leasedId store := by
  unfold StoreOperation.leasedId
  dsimp only
  cases hrow : firstDueRow store locked workKind with
  | none => simp
  | some row =>
    obtain ⟨schedule, hleasable⟩ := leasableRow_of_firstDueRow hrow
    dsimp only
    rw [hleasable]
    rfl

/-- The rows a lease can take are due. -/
theorem leasedId_leaseById_eq_some {locked : String → Bool}
    {workKind target worker leaseToken : String} {leaseExpiresAt now : Int}
    (h : (StoreOperation.leaseById locked workKind target worker leaseToken leaseExpiresAt
      now).leasedId store = some workItemId) :
    workItemId = target ∧ now < leaseExpiresAt ∧ ∃ row schedule,
      leasableRow store locked workKind target = some (row, schedule) ∧
        store.workItems.find? target = some row ∧ row.item.isDue = true := by
  unfold StoreOperation.leasedId at h
  dsimp only at h
  split at h
  · next hfuture =>
    obtain ⟨⟨row, schedule⟩, hrow, hid⟩ := Option.map_eq_some_iff.mp h
    obtain ⟨hfind, _, _, hdue, _⟩ := leasableRow_eq_some_iff.mp hrow
    have htarget : row.workItemId = target := (Table.find?_eq_some_iff.mp hfind).2
    exact ⟨hid.symm.trans htarget, hfuture, row, schedule, hrow, hfind, hdue⟩
  · cases h

/-! The row of an item. -/

/-- A lease writes the row of its own item, and keeps the retry plan of the row. -/
theorem itemStep_leaseById {locked : String → Bool} {workKind target worker leaseToken : String}
    {leaseExpiresAt now : Int} (hrow : store.workItems.find? workItemId = some row) :
    ∃ next, (performStore store (.leaseById locked workKind target worker leaseToken leaseExpiresAt
        now)).workItems.find? workItemId = some next ∧
      ItemStep row.item next.item ((StoreOperation.leaseById locked workKind target worker
        leaseToken leaseExpiresAt now).transition store workItemId) := by
  unfold StoreOperation.transition
  dsimp only
  rw [performStore_leaseById]
  by_cases hleased : (StoreOperation.leaseById locked workKind target worker leaseToken
      leaseExpiresAt now).leasedId store = some workItemId
  · rw [if_pos hleased]
    obtain ⟨rfl, hfuture, found, schedule, hleasable, hfind, hdue⟩ :=
      leasedId_leaseById_eq_some hleased
    rw [hrow] at hfind
    cases hfind
    rw [hleasable]
    dsimp only
    rw [if_pos hfuture]
    exact ⟨_, find?_updateWorkItem_self hrow, _,
      WorkItemStateMachine.leaseReady_of_waiting hdue hfuture, rfl⟩
  · rw [if_neg hleased]
    refine ⟨row, ?_, rfl⟩
    cases hleasable : leasableRow store locked workKind target with
    | none => exact hrow
    | some found =>
      obtain ⟨other, schedule⟩ := found
      dsimp only
      split
      · next hfuture =>
        rw [find?_updateWorkItem_of_ne]
        · exact hrow
        · rintro rfl
          apply hleased
          unfold StoreOperation.leasedId
          dsimp only
          rw [if_pos hfuture, hleasable]
          obtain ⟨hfind, _⟩ := leasableRow_eq_some_iff.mp hleasable
          exact congrArg some (Table.find?_eq_some_iff.mp hfind).2
      · exact hrow

theorem itemStep_leaseDue {locked : String → Bool} {workKind worker leaseToken : String}
    {leaseExpiresAt now : Int} (hrow : store.workItems.find? workItemId = some row) :
    ∃ next, (performStore store (.leaseDue locked workKind worker leaseToken leaseExpiresAt
        now)).workItems.find? workItemId = some next ∧
      ItemStep row.item next.item ((StoreOperation.leaseDue locked workKind worker leaseToken
        leaseExpiresAt now).transition store workItemId) := by
  rw [performStore_leaseDue]
  unfold StoreOperation.transition
  dsimp only
  rw [leasedId_leaseDue]
  cases firstDueRow store locked workKind with
  | none => exact ⟨row, hrow, rfl⟩
  | some first => exact itemStep_leaseById hrow

/-- A row with the columns of an item of the same id and kind holds that item. -/
theorem WorkItemRow.setLifecycle_item {item : WorkItem} {retryPlan : Option WorkItemRetryPlan}
    {updatedAt : Int}
    (h : item.workItemId = row.item.workItemId ∧ item.workKind = row.item.workKind) :
    (row.setLifecycle item retryPlan updatedAt).item = item.withRetryPlan retryPlan := by
  unfold WorkItemRow.setLifecycle WorkItem.withRetryPlan
  simp only [WorkItem.mk.injEq, and_true]
  exact ⟨h.1.symm, h.2.symm⟩

/-- The item that a recorded outcome leaves is that of the transition. -/
theorem setLifecycle_of_transitionWorkItem {item : WorkItem} {record : AttemptOutcomeRecord}
    {updatedAt : Int} (h : transitionWorkItem row.item record = .ok item) :
    ItemStep row.item (row.setLifecycle item item.retryPlan updatedAt).item
      (outcomeTransition record) := by
  unfold transitionWorkItem at h
  unfold outcomeTransition
  split at h
  · next hsucceeded =>
    cases h
    rw [hsucceeded]
    exact WorkItemRow.setLifecycle_item ⟨rfl, rfl⟩
  · cases h
  · next errorKind hstatus herror =>
    split at h
    · cases h
    · next plan hplan =>
      rw [hstatus, herror, hplan]
      have happly : (Transition.failLeasedRetryable errorKind plan).apply row.item = .ok item := h
      exact ⟨item, happly, WorkItemRow.setLifecycle_item (identity_of_apply happly)⟩
  · next errorKind hstatus herror =>
    rw [hstatus, herror]
    have happly : (Transition.failLeasedTerminal errorKind).apply row.item = .ok item := h
    exact ⟨item, happly, WorkItemRow.setLifecycle_item (identity_of_apply happly)⟩

/-- What a recorded outcome makes of the store. -/
theorem eq_of_recordAttemptOutcome {next : ExecutionStore} {record : AttemptOutcomeRecord}
    {now : Int} {item : WorkItem} (h : recordAttemptOutcome store record now = .ok (item, next)) :
    next = updateWorkItem
      { store with
        attempts := store.attempts.updateWhere
          (fun attempt => attempt.attemptId = record.attemptId &&
            attempt.workItemId = record.workItemId && attempt.attemptNumber = record.attemptNumber)
          (fun attempt => attempt.withOutcome record) (fun _ => rfl) fun _ => rfl }
      record.workItemId item (fun _ => item.retryPlan) now := by
  unfold recordAttemptOutcome at h
  split at h
  · cases h
  · obtain ⟨_, _, h⟩ := bind_eq_ok.mp h
    obtain ⟨_, _, h⟩ := bind_eq_ok.mp h
    dsimp only at h
    split at h
    · cases h
      rfl
    · cases h

theorem eq_of_completeWorkItemAfterDomainApply {next : ExecutionStore}
    {target leaseToken : String} {now : Int} {item : WorkItem}
    (h : completeWorkItemAfterDomainApply store target leaseToken now = .ok (item, next)) :
    ∃ row, store.workItems.find? target = some row ∧
      Transition.completeLeased.apply row.item = .ok item ∧
      next = updateWorkItem store target item (fun _ => item.retryPlan) now := by
  unfold completeWorkItemAfterDomainApply at h
  split at h
  · cases h
  · next row hrow =>
    split at h
    · cases h
    · split at h
      · cases h
      · obtain ⟨completed, hcomplete, heq⟩ := bind_eq_ok.mp h
        cases heq
        obtain ⟨_, _, hcompleted⟩ := bind_eq_ok.mp hcomplete
        cases hcompleted
        exact ⟨row, hrow, hcomplete, rfl⟩

/-- The item of an expired row is leased until a time that has passed. -/
theorem leaseExpired_of_mem {locked : String → Bool} {now : Int} {limit : Nat}
    (hrow : store.workItems.find? workItemId = some row)
    (h : workItemId ∈ (expiredRows store locked now limit).map WorkItemRow.workItemId) :
    row.item.status = .leased ∧
      (row.item.leaseExpiresAt.any fun expires => decide (expires ≤ now)) = true := by
  obtain ⟨expired, htaken, hid⟩ := List.mem_map.mp h
  obtain ⟨hmem, htest⟩ := Table.mem_select.mp (List.mem_of_mem_take htaken)
  have hexpired : store.workItems.find? workItemId = some expired :=
    Table.find?_eq_some_iff.mpr ⟨hmem, hid⟩
  rw [hrow] at hexpired
  cases hexpired
  unfold leaseExpired at htest
  simp only [Bool.and_eq_true, decide_eq_true_eq] at htest
  exact htest.1

theorem itemStep_record {outcome : CheckedOutcomeRecord} {now : Int}
    (hrow : store.workItems.find? workItemId = some row) :
    ∃ next, (performStore store (.record outcome now)).workItems.find? workItemId = some next ∧
      ItemStep row.item next.item
        ((StoreOperation.record outcome now).transition store workItemId) := by
  unfold performStore StoreOperation.transition
  dsimp only
  split
  · exact ⟨row, hrow, rfl⟩
  · cases hrecord : recordAttemptOutcome store outcome.toAttemptOutcomeRecord now with
    | error fault => exact ⟨row, hrow, rfl⟩
    | ok result =>
      obtain ⟨item, next⟩ := result
      unfold acceptedFor
      dsimp only
      split
      · next hid =>
        obtain ⟨found, attempt, hrecorded⟩ := outcomeRecorded_of_recordAttemptOutcome hrecord
        have hfound := hrecorded.row_eq
        rw [hid, hrow] at hfound
        cases hfound
        exact ⟨_, hid ▸ hrecorded.next_row,
          setLifecycle_of_transitionWorkItem hrecorded.transition⟩
      · next hne =>
        refine ⟨row, ?_, rfl⟩
        rw [eq_of_recordAttemptOutcome hrecord]
        exact (find?_updateWorkItem_of_ne (Ne.symm hne)).trans hrow

theorem itemStep_complete {target leaseToken : String} {now : Int}
    (hrow : store.workItems.find? workItemId = some row) :
    ∃ next, (performStore store (.complete target leaseToken now)).workItems.find? workItemId =
        some next ∧
      ItemStep row.item next.item
        ((StoreOperation.complete target leaseToken now).transition store workItemId) := by
  unfold performStore StoreOperation.transition
  dsimp only
  cases hcomplete : completeWorkItemAfterDomainApply store target leaseToken now with
  | error fault => exact ⟨row, hrow, rfl⟩
  | ok result =>
    obtain ⟨item, next⟩ := result
    obtain ⟨found, hfound, happly, heq⟩ := eq_of_completeWorkItemAfterDomainApply hcomplete
    unfold acceptedFor
    dsimp only
    split
    · next hid =>
      subst hid
      rw [hrow] at hfound
      cases hfound
      rw [heq]
      exact ⟨_, find?_updateWorkItem_self hrow, item, happly,
        WorkItemRow.setLifecycle_item (identity_of_apply happly)⟩
    · next hne =>
      refine ⟨row, ?_, rfl⟩
      rw [heq]
      exact (find?_updateWorkItem_of_ne (Ne.symm hne)).trans hrow

/-- The recovery takes the row of an item whose lease has expired. -/
theorem itemStep_recover {locked : String → Bool} {now : Int} {limit : Nat}
    (hrow : store.workItems.find? workItemId = some row) :
    ∃ next, (performStore store (.recover locked now limit)).workItems.find? workItemId =
        some next ∧
      ItemStep row.item next.item
        ((StoreOperation.recover locked now limit).transition store workItemId) := by
  have hid := (Table.find?_eq_some_iff.mp hrow).2
  unfold performStore StoreOperation.transition reclaimExpired
  dsimp only
  split
  · exact ⟨row, hrow, rfl⟩
  · rw [Table.find?_updateWhere, hrow, Option.map_some, hid]
    split
    · next hexpired =>
      have htaken := of_decide_eq_true hexpired
      rw [if_pos htaken]
      refine ⟨_, rfl, _, congrArg Except.ok (if_pos (leaseExpired_of_mem hrow htaken)), ?_⟩
      exact WorkItemRow.setLifecycle_item ⟨rfl, rfl⟩
    · next hkept =>
      rw [if_neg fun htaken => hkept (decide_eq_true htaken)]
      exact ⟨row, rfl, rfl⟩

/-- A waiting item is superseded; no other one is changed. -/
theorem performStore_supersede {target : String} {now : Int}
    (hfind : store.workItems.find? target = some row) :
    performStore store (.supersede target now) =
      if row.item.status.isWaiting then
        updateWorkItem store target (WorkItemStateMachine.withoutLease
          (hydrateWithoutRetryPlan row) .splitSuperseded none none (by decide))
          (fun old => old.item.retryPlan) now
      else store := by
  have hid : row.item.workItemId = target := (Table.find?_eq_some_iff.mp hfind).2
  unfold performStore supersedeWaitingWorkItem loadWorkItem
  dsimp only
  rw [hfind, Option.map_some]
  dsimp only
  have hstatus : (hydrateWithoutRetryPlan row).status = row.item.status := rfl
  unfold WorkItemStateMachine.markSplitSupersededWaiting
  rw [hstatus]
  cases hwaiting : row.item.status.isWaiting with
  | true =>
    have hopen : row.item.status ≠ .splitSuperseded := by
      intro hsuperseded
      rw [hsuperseded] at hwaiting
      cases hwaiting
    rw [if_neg hopen, if_neg (not_not.mpr rfl), if_pos rfl, ← hid]
    rfl
  | false =>
    rw [if_neg Bool.false_ne_true]
    split
    · rfl
    · rfl

theorem itemStep_supersede {target : String} {now : Int}
    (hrow : store.workItems.find? workItemId = some row) :
    ∃ next, (performStore store (.supersede target now)).workItems.find? workItemId =
        some next ∧
      ItemStep row.item next.item
        ((StoreOperation.supersede target now).transition store workItemId) := by
  unfold StoreOperation.transition
  dsimp only
  by_cases heq : target = workItemId
  · subst heq
    rw [performStore_supersede hrow]
    have hload : loadWorkItem store target = some (hydrateWithoutRetryPlan row) := by
      unfold loadWorkItem
      rw [hrow, Option.map_some]
    rw [hload]
    cases hwaiting : row.item.status.isWaiting with
    | true =>
      have happly : Transition.markSplitSupersededWaiting.apply row.item =
          .ok (WorkItemStateMachine.withoutLease row.item .splitSuperseded none none
            (by decide)) := by
        unfold Transition.apply WorkItemStateMachine.markSplitSupersededWaiting
        dsimp only
        rw [if_neg (not_not.mpr hwaiting)]
      rw [if_pos rfl, if_pos ⟨rfl, hwaiting⟩]
      exact ⟨_, find?_updateWorkItem_self hrow, _, happly, rfl⟩
    | false =>
      rw [if_neg Bool.false_ne_true, if_neg]
      · exact ⟨row, hrow, rfl⟩
      · rintro ⟨_, hany⟩
        have hready : row.item.status.isWaiting = true := hany
        rw [hwaiting] at hready
        cases hready
  · rw [if_neg fun h => heq h.1]
    refine ⟨row, ?_, rfl⟩
    cases hfind : store.workItems.find? target with
    | none =>
      unfold performStore supersedeWaitingWorkItem loadWorkItem
      dsimp only
      rw [hfind]
      exact hrow
    | some other =>
      rw [performStore_supersede hfind]
      split
      · rw [find?_updateWorkItem_of_ne (Ne.symm heq)]
        exact hrow
      · exact hrow

theorem itemStep_start {record : DispatchRow} {startedAt : Int}
    (hrow : store.workItems.find? workItemId = some row) :
    (performStore store (.start record startedAt)).workItems.find? workItemId = some row := by
  unfold performStore
  dsimp only
  have hends := saveStartedDispatchAttempt_ends store record startedAt
  cases hsave : saveStartedDispatchAttempt store record startedAt with
  | error fault => exact hrow
  | ok next =>
    rw [hsave] at hends
    have hsaved : SavedAttempt store record startedAt next := hends
    unfold committedStore
    dsimp only
    rw [hsaved.workItems]
    exact hrow

/-- Every operation changes the row of an item by the transition it stands for, save
for the retry plan. -/
theorem itemStep_performStore (operation : StoreOperation)
    (hrow : store.workItems.find? workItemId = some row) :
    ∃ next, (performStore store operation).workItems.find? workItemId = some next ∧
      ItemStep row.item next.item (operation.transition store workItemId) := by
  cases operation with
  | leaseDue locked workKind worker leaseToken leaseExpiresAt now => exact itemStep_leaseDue hrow
  | leaseById locked workKind target worker leaseToken leaseExpiresAt now =>
    exact itemStep_leaseById hrow
  | start record startedAt => exact ⟨row, itemStep_start hrow, rfl⟩
  | record outcome now => exact itemStep_record hrow
  | complete target leaseToken now => exact itemStep_complete hrow
  | recover locked now limit => exact itemStep_recover hrow
  | supersede target now => exact itemStep_supersede hrow

/-- A store with one scheduled item. -/
def freshStore (workItemId workKind : String) (hid : isBlank workItemId = false) :
    ExecutionStore where
  workItems :=
    { rows := [{ item := .fresh workItemId workKind hid, createdAt := 0, updatedAt := 0
                 updated_ge := epoch_le_epoch }]
      key_nodup := List.nodup_singleton _ }
  schedules :=
    { rows := [{ workItemId, idempotencyKey := workItemId, payloadHash := "hash", payload := [] }]
      key_nodup := List.nodup_singleton _
      unique_nodup := List.nodup_singleton _ }
  attempts := .empty
  dispatches := .empty

/-- The dispatch of the first attempt of an item. -/
def firstDispatch : DispatchRow where
  attemptId := "attempt-1"
  workItemId := "item"
  attemptNumber := 1
  leaseToken := "token-1"
  workerRef := "worker"
  schedulePayload := []
  llmAllocationPayload := []
  dispatchPayload := []

end CrmBot.ExecutionRuntime
