import CrmBot.Library.Table
import CrmBot.Python.Builtins

/-! The tables of the capacity admission queue and their statements.

Work item rows are a projection of execution work items; dirty flags and claims
say which lanes a drain may work on; window rows keep the observed budget of a
provider account and model. Row locks of other transactions enter as
predicates, since a statement with `SKIP LOCKED` may pass over any row. -/

namespace CrmBot.CapacityAdmissionQueue

open Relational CrmBot.Python

inductive ProjectionStatus
  | ready
  | leased
  | retryableFailed
  | completed
  | terminalFailed
  | cancelled
  | splitSuperseded
  | userActionRequired
  deriving DecidableEq, Repr

structure LaneKey where
  workKind : String
  provider : String
  modelRef : String
  accountRef : Option String
  deriving DecidableEq, Repr

/-- `_lane_id`. -/
def laneId (lane : LaneKey) : String :=
  lane.workKind ++ ":" ++ lane.provider ++ ":" ++ lane.accountRef.getD "-" ++ ":" ++ lane.modelRef

/-- A row of `capacity_admission_work_items`. The check constraint makes the
required window tokens at least one. -/
structure WorkItemRow where
  workItemId : String
  lane : LaneKey
  workflowRunId : Option String
  projectId : Option String
  status : ProjectionStatus
  retryPlan : Option String
  inputTokens : Nat
  artifactTokens : Nat
  requiredWindowTokens : Nat
  createdAt : Int
  updatedAt : Int
  inputTokens_pos : 0 < inputTokens
  required_ge : inputTokens + artifactTokens ≤ requiredWindowTokens
  deriving DecidableEq

theorem WorkItemRow.requiredWindowTokens_pos (row : WorkItemRow) :
    0 < row.requiredWindowTokens := by
  have hinput := row.inputTokens_pos
  have hrequired := row.required_ge
  omega

structure DirtyFlagRow where
  laneId : String
  lane : LaneKey
  dirtyReason : String
  dirtyCount : Nat
  firstMarkedAt : Int
  lastMarkedAt : Int
  claimedBy : Option String
  claimedUntil : Option Int
  deriving DecidableEq, Repr

structure LaneClaimRow where
  laneId : String
  lane : LaneKey
  claimedBy : String
  claimedUntil : Int
  claimedAt : Int
  claimVersion : Nat
  deriving DecidableEq, Repr

structure WindowKey where
  provider : String
  accountRef : Option String
  modelRef : String
  deriving DecidableEq, Repr

/-- A row of `capacity_window_budget_state`. Unknown remaining amounts are
`none`; the check constraints keep all amounts non-negative. -/
structure WindowRow where
  window : WindowKey
  remainingMinuteRequests : Option Nat
  remainingMinuteTokens : Option Nat
  remainingDailyRequests : Option Nat
  remainingDailyTokens : Option Nat
  reservedMinuteRequests : Nat
  reservedMinuteTokens : Nat
  reservedDailyRequests : Nat
  reservedDailyTokens : Nat
  minuteResetAt : Option Int
  dailyResetAt : Option Int
  frozenUntil : Option Int
  createdAt : Int
  updatedAt : Int
  deriving DecidableEq, Repr

structure QueueState where
  workItems : Table WorkItemRow.workItemId
  dirtyFlags : Table DirtyFlagRow.laneId
  laneClaims : Table LaneClaimRow.laneId
  windows : Table WindowRow.window

/-! `PostgresCapacityAdmissionWorkItemSelector` -/

/-- `ORDER BY updated_at ASC, work_item_id ASC`. -/
def WorkItemRow.before (first second : WorkItemRow) : Prop :=
  first.updatedAt < second.updatedAt ∨
    (first.updatedAt = second.updatedAt ∧ first.workItemId ≤ second.workItemId)

instance : DecidableRel WorkItemRow.before := fun _ _ => inferInstanceAs (Decidable (_ ∨ _))

/-- `_select_first_fit`: the first unlocked row of the lane and status whose
required tokens fit. -/
def selectFirstFit (workItems : Table WorkItemRow.workItemId) (locked : WorkItemRow → Bool)
    (lane : LaneKey) (status : ProjectionStatus) (maxRequiredWindowTokens : Nat) :
    Option WorkItemRow :=
  (workItems.select
    (fun row => row.lane = lane && row.status = status &&
      decide (row.requiredWindowTokens ≤ maxRequiredWindowTokens) && !locked row)
    WorkItemRow.before).head?

theorem selectFirstFit_fits {workItems : Table WorkItemRow.workItemId}
    {locked : WorkItemRow → Bool} {lane : LaneKey} {status : ProjectionStatus}
    {maxRequiredWindowTokens : Nat} {row : WorkItemRow}
    (h : selectFirstFit workItems locked lane status maxRequiredWindowTokens = some row) :
    row ∈ workItems.rows ∧ row.lane = lane ∧ row.status = status ∧
      row.requiredWindowTokens ≤ maxRequiredWindowTokens := by
  have hmem := Table.mem_select.mp (List.mem_of_mem_head? h)
  simp only [Bool.and_eq_true, decide_eq_true_eq] at hmem
  exact ⟨hmem.1, hmem.2.1.1.1, hmem.2.1.1.2, hmem.2.1.2⟩

/-- `CapacityAdmissionWindowBudget`. -/
structure WindowBudget where
  remainingRequests : Nat
  remainingTokens : Nat
  remainingDailyRequests : Nat
  remainingDailyTokens : Nat
  deriving DecidableEq, Repr

def WindowBudget.admitsAnyWork (budget : WindowBudget) : Bool :=
  0 < budget.remainingRequests && 0 < budget.remainingTokens &&
    0 < budget.remainingDailyRequests && 0 < budget.remainingDailyTokens

def WindowBudget.maxRequiredWindowTokens (budget : WindowBudget) : Nat :=
  min budget.remainingTokens budget.remainingDailyTokens

/-- `SelectCapacityAdmissionWorkItem.execute`: retryable items first. -/
def selectCapacityAdmissionWorkItem (workItems : Table WorkItemRow.workItemId)
    (locked : WorkItemRow → Bool) (lane : LaneKey) (budget : WindowBudget) : Option WorkItemRow :=
  if budget.admitsAnyWork then
    (selectFirstFit workItems locked lane .retryableFailed budget.maxRequiredWindowTokens).or
      (selectFirstFit workItems locked lane .ready budget.maxRequiredWindowTokens)
  else none

theorem selectCapacityAdmissionWorkItem_fits {workItems : Table WorkItemRow.workItemId}
    {locked : WorkItemRow → Bool} {lane : LaneKey} {budget : WindowBudget} {row : WorkItemRow}
    (h : selectCapacityAdmissionWorkItem workItems locked lane budget = some row) :
    row ∈ workItems.rows ∧ row.lane = lane ∧ 0 < budget.remainingRequests ∧
      0 < budget.remainingDailyRequests ∧ row.requiredWindowTokens ≤ budget.remainingTokens ∧
      row.requiredWindowTokens ≤ budget.remainingDailyTokens := by
  unfold selectCapacityAdmissionWorkItem at h
  split at h
  · next hadmits =>
    simp only [WindowBudget.admitsAnyWork, Bool.and_eq_true, decide_eq_true_eq] at hadmits
    obtain ⟨⟨⟨hrequests, _⟩, hdaily⟩, _⟩ := hadmits
    have hfits : row ∈ workItems.rows ∧ row.lane = lane ∧
        row.requiredWindowTokens ≤ budget.maxRequiredWindowTokens := by
      rcases Option.or_eq_some_iff.mp h with hretryable | ⟨_, hready⟩
      · obtain ⟨hmem, hlane, _, hle⟩ := selectFirstFit_fits hretryable
        exact ⟨hmem, hlane, hle⟩
      · obtain ⟨hmem, hlane, _, hle⟩ := selectFirstFit_fits hready
        exact ⟨hmem, hlane, hle⟩
    obtain ⟨hmem, hlane, hle⟩ := hfits
    unfold WindowBudget.maxRequiredWindowTokens at hle
    exact ⟨hmem, hlane, hrequests, hdaily, by omega, by omega⟩
  · simp at h

/-! `PostgresCapacityLaneClaimRepository` -/

/-- `claim_dirty_lane`: an unclaimed or expired dirty flag of the lane is
claimed, and the claim row is written or renewed with the next version. -/
def claimDirtyLane (state : QueueState) (locked : DirtyFlagRow → Bool) (lane : LaneKey)
    (workerRef : String) (now claimTtlSeconds : Int) :
    Except Fault (Option LaneClaimRow × QueueState) :=
  if claimTtlSeconds ≤ 0 then .error (.valueError "claim_ttl_seconds must be positive")
  else
    let claimable := state.dirtyFlags.rows.any fun row =>
      row.laneId = laneId lane && row.lane = lane &&
        (row.claimedBy.isNone || row.claimedUntil.any (fun deadline => decide (deadline ≤ now))) &&
        !locked row
    if claimable then
      let version := match state.laneClaims.find? (laneId lane) with
        | none => 1
        | some old => old.claimVersion + 1
      let claim : LaneClaimRow :=
        { laneId := laneId lane, lane := lane, claimedBy := workerRef
          claimedUntil := now + claimTtlSeconds * microsPerSecond, claimedAt := now
          claimVersion := version }
      .ok (some claim,
        { state with
          laneClaims := (state.laneClaims.updateWhere (fun row => row.laneId = laneId lane)
            (fun row =>
              { row with
                claimedBy := claim.claimedBy, claimedUntil := claim.claimedUntil
                claimedAt := claim.claimedAt, claimVersion := claim.claimVersion })
            fun _ => rfl).insertOrIgnore claim
          dirtyFlags := state.dirtyFlags.updateWhere (fun row => row.laneId = laneId lane)
            (fun row =>
              { row with claimedBy := some workerRef, claimedUntil := some claim.claimedUntil })
            fun _ => rfl })
    else .ok (none, state)

def releaseLaneClaim (state : QueueState) (lane : String) (workerRef : String) (now : Int) :
    QueueState :=
  { state with
    dirtyFlags := state.dirtyFlags.updateWhere
      (fun row => row.laneId = lane && row.claimedBy = some workerRef)
      (fun row =>
        { row with
          claimedBy := none, claimedUntil := none, lastMarkedAt := max row.lastMarkedAt now })
      fun _ => rfl }

def clearDirtyFlag (state : QueueState) (lane : String) (workerRef : String) (now : Int) :
    QueueState :=
  { state with
    dirtyFlags := state.dirtyFlags.deleteWhere fun row =>
      row.laneId = lane && row.claimedBy = some workerRef && decide (row.lastMarkedAt ≤ now) }

/-! `PostgresCapacityAdmissionProjectionLifecycleSynchronizer` -/

def markLaneDirty (state : QueueState) (lane : LaneKey) (reason : String) (occurredAt : Int) :
    QueueState :=
  { state with
    dirtyFlags := (state.dirtyFlags.updateWhere (fun row => row.laneId = laneId lane)
      (fun row =>
        { row with
          dirtyReason := reason, dirtyCount := row.dirtyCount + 1, lastMarkedAt := occurredAt
          claimedBy := none, claimedUntil := none })
      fun _ => rfl).insertOrIgnore
        { laneId := laneId lane, lane := lane, dirtyReason := reason, dirtyCount := 1
          firstMarkedAt := occurredAt, lastMarkedAt := occurredAt, claimedBy := none
          claimedUntil := none } }

def reasonForStatus (status : ProjectionStatus) : String :=
  match status with
  | .retryableFailed => "work_item_returned_retryable"
  | .ready => "work_item_released_ready"
  | .splitSuperseded => "leased_work_item_split_superseded"
  | .userActionRequired => "work_item_requires_user_action"
  | _ => "attempt_finished_capacity_available"

/-- `CapacityAdmissionProjectionLifecycleUpdate`: only a retryable failure
carries a plan, and it always does. -/
structure LifecycleUpdate where
  workItemId : String
  status : ProjectionStatus
  changedAt : Int
  retryPlan : Option String
  modelRef : Option String
  retryPlan_iff : retryPlan.isSome = true ↔ status = .retryableFailed
  modelRef_only : modelRef.isSome = true → status = .retryableFailed

theorem leased_without_plan :
    (none : Option String).isSome = true ↔ ProjectionStatus.leased = .retryableFailed := by simp

/-- `sync_projection_lifecycle`: the row is written, and its lane marked dirty,
only if the status, the plan or the given model differs. -/
def syncProjectionLifecycle (state : QueueState) (update : LifecycleUpdate) : QueueState :=
  match state.workItems.find? update.workItemId with
  | none => state
  | some row =>
    if row.status ≠ update.status ∨ row.retryPlan ≠ update.retryPlan ∨
        (∃ model ∈ update.modelRef, row.lane.modelRef ≠ model) then
      let lane := { row.lane with modelRef := update.modelRef.getD row.lane.modelRef }
      markLaneDirty
        { state with
          workItems := state.workItems.updateWhere
            (fun old => old.workItemId = update.workItemId)
            (fun old =>
              { old with
                status := update.status, retryPlan := update.retryPlan
                updatedAt := update.changedAt
                lane := { old.lane with modelRef := update.modelRef.getD old.lane.modelRef } })
            fun _ => rfl }
        lane (reasonForStatus update.status) update.changedAt
    else state

/-- A changed status is written to the row of the item and to no other row. -/
theorem syncProjectionLifecycle_rows {state : QueueState} {update : LifecycleUpdate}
    {row : WorkItemRow} (hfind : state.workItems.find? update.workItemId = some row)
    (hchanged : row.status ≠ update.status) :
    (syncProjectionLifecycle state update).workItems.rows = state.workItems.rows.map fun old =>
      if old.workItemId = update.workItemId then
        { old with
          status := update.status, retryPlan := update.retryPlan, updatedAt := update.changedAt
          lane := { old.lane with modelRef := update.modelRef.getD old.lane.modelRef } }
      else old := by
  simp [syncProjectionLifecycle, hfind, hchanged, markLaneDirty, Table.rows_updateWhere]

/-! `PostgresCapacityWindowBudgetRepository` -/

/-- `CapacityReservation`. The constructor of a reservation refuses counts that
are not positive. -/
structure CapacityReservation where
  window : WindowKey
  requestCount : Nat
  tokenCount : Nat
  reservedAt : Int
  deriving DecidableEq, Repr

def hasRoom (remaining : Option Nat) (reserved needed : Nat) : Bool :=
  match remaining with
  | none => true
  | some amount => decide (reserved + needed ≤ amount)

def tryReserve (windows : Table WindowRow.window) (window : WindowKey)
    (requestCount tokenCount : Nat) (now : Int) :
    Except Fault (Option CapacityReservation × Table WindowRow.window) :=
  if requestCount = 0 then .error (.valueError "request_count must be positive")
  else if tokenCount = 0 then .error (.valueError "token_count must be positive")
  else
    let granted := match windows.find? window with
      | none => false
      | some row =>
        row.frozenUntil.all (fun frozen => decide (frozen ≤ now)) &&
          hasRoom row.remainingMinuteRequests row.reservedMinuteRequests requestCount &&
          hasRoom row.remainingMinuteTokens row.reservedMinuteTokens tokenCount &&
          hasRoom row.remainingDailyRequests row.reservedDailyRequests requestCount &&
          hasRoom row.remainingDailyTokens row.reservedDailyTokens tokenCount
    if granted then
      .ok (some ⟨window, requestCount, tokenCount, now⟩,
        windows.updateWhere (fun row => row.window = window)
          (fun row =>
            { row with
              reservedMinuteRequests := row.reservedMinuteRequests + requestCount
              reservedMinuteTokens := row.reservedMinuteTokens + tokenCount
              reservedDailyRequests := row.reservedDailyRequests + requestCount
              reservedDailyTokens := row.reservedDailyTokens + tokenCount
              updatedAt := now })
          fun _ => rfl)
    else .ok (none, windows)

/-- `GREATEST(0, reserved - released)` is the truncated subtraction. -/
def releaseReservation (windows : Table WindowRow.window) (reservation : CapacityReservation)
    (now : Int) : Table WindowRow.window :=
  windows.updateWhere (fun row => row.window = reservation.window)
    (fun row =>
      { row with
        reservedMinuteRequests := row.reservedMinuteRequests - reservation.requestCount
        reservedMinuteTokens := row.reservedMinuteTokens - reservation.tokenCount
        reservedDailyRequests := row.reservedDailyRequests - reservation.requestCount
        reservedDailyTokens := row.reservedDailyTokens - reservation.tokenCount
        updatedAt := now })
    fun _ => rfl

/-- The observed amounts of `apply_capacity_observation`. -/
structure CapacityObservation where
  window : WindowKey
  remainingMinuteRequests : Option Nat
  remainingMinuteTokens : Option Nat
  remainingDailyRequests : Option Nat
  remainingDailyTokens : Option Nat
  minuteResetAt : Option Int
  dailyResetAt : Option Int
  observedAt : Int

/-- The row after an observation: the observed amounts, nothing reserved and
not frozen, whatever the row was before. -/
def observedRow (observation : CapacityObservation) (createdAt : Int) : WindowRow :=
  { window := observation.window
    remainingMinuteRequests := observation.remainingMinuteRequests
    remainingMinuteTokens := observation.remainingMinuteTokens
    remainingDailyRequests := observation.remainingDailyRequests
    remainingDailyTokens := observation.remainingDailyTokens
    reservedMinuteRequests := 0
    reservedMinuteTokens := 0
    reservedDailyRequests := 0
    reservedDailyTokens := 0
    minuteResetAt := observation.minuteResetAt
    dailyResetAt := observation.dailyResetAt
    frozenUntil := none
    createdAt := createdAt
    updatedAt := observation.observedAt }

/-- `apply_capacity_observation`: the upserted row and the table. -/
def applyCapacityObservation (windows : Table WindowRow.window)
    (observation : CapacityObservation) : WindowRow × Table WindowRow.window :=
  match windows.find? observation.window with
  | none =>
    let row := observedRow observation observation.observedAt
    (row, windows.insertOrIgnore row)
  | some old =>
    let row := observedRow observation old.createdAt
    (row, windows.updateWhere (fun other => other.window = observation.window)
      (fun other => { observedRow observation old.createdAt with window := other.window })
      fun _ => rfl)

/-- After the observation the stored row of the window is the observed one. -/
theorem find?_applyCapacityObservation (windows : Table WindowRow.window)
    (observation : CapacityObservation) :
    ∃ createdAt, (applyCapacityObservation windows observation).2.find? observation.window =
      some (observedRow observation createdAt) := by
  unfold applyCapacityObservation
  split
  · next hnone =>
    refine ⟨observation.observedAt, Table.find?_eq_some_iff.mpr ⟨?_, rfl⟩⟩
    exact Table.mem_insertOrIgnore.mpr (.inr ⟨Table.find?_eq_none_iff.mp hnone, rfl⟩)
  · next old hsome =>
    obtain ⟨hmem, hkey⟩ := Table.find?_eq_some_iff.mp hsome
    refine ⟨old.createdAt, Table.find?_eq_some_iff.mpr ⟨?_, rfl⟩⟩
    rw [Table.rows_updateWhere, List.mem_map]
    refine ⟨old, hmem, ?_⟩
    simp only [hkey, decide_true, if_true]
    rfl

/-- `freeze_until` moves the freeze only later. -/
def freezeUntil (windows : Table WindowRow.window) (window : WindowKey) (frozenUntil now : Int) :
    Table WindowRow.window :=
  windows.updateWhere (fun row => row.window = window)
    (fun row =>
      { row with
        frozenUntil := match row.frozenUntil with
          | none => some frozenUntil
          | some old => if old < frozenUntil then some frozenUntil else some old
        updatedAt := now })
    fun _ => rfl

end CrmBot.CapacityAdmissionQueue
