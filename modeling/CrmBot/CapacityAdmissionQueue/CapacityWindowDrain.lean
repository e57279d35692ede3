import CrmBot.CapacityAdmissionQueue.QueueState

/-! `RunCapacityWindowDrain`: the drain loop of one execution window.

The strategy, the pause request and the row locks of other transactions are an
environment that may act differently in every iteration and may change any
table. The loop is unfolded one iteration at a time, so that a statement about
all iteration counts also covers drains that never stop. -/

namespace CrmBot.CapacityAdmissionQueue

open Relational CrmBot.Python

/-- `CapacityDrainStrategyResult` with the conditions its constructor checks. -/
structure StrategyResult where
  workItemId : String
  dispatchAttemptId : Option String
  providerCallStarted : Bool
  capacityObservationRecorded : Bool
  freezeUntil : Option Int
  workItemId_ne : workItemId ≠ ""
  dispatchAttemptId_ne : dispatchAttemptId ≠ some ""
  observation_started : capacityObservationRecorded = true → providerCallStarted = true
  started_observed_or_frozen : providerCallStarted = true → capacityObservationRecorded = false →
    freezeUntil.isSome = true
  deriving DecidableEq

structure DrainCommand where
  workflowRunId : Option String
  selectionLane : LaneKey
  executionAccountRef : String
  workerRef : String
  now : Int
  remainingMinuteRequests : Nat
  remainingMinuteTokens : Nat
  remainingDailyRequests : Nat
  remainingDailyTokens : Nat
  maxItems : Option Int
  claimTtlSeconds : Int

/-- The execution window agrees with the selection lane in kind, provider and
model, and always names an account. -/
def DrainCommand.executionLane (command : DrainCommand) : LaneKey :=
  { command.selectionLane with accountRef := some command.executionAccountRef }

def DrainCommand.window (command : DrainCommand) : WindowKey :=
  { provider := command.selectionLane.provider, accountRef := some command.executionAccountRef
    modelRef := command.selectionLane.modelRef }

/-- The observation that every iteration applies again. -/
def DrainCommand.observation (command : DrainCommand) : CapacityObservation :=
  { window := command.window
    remainingMinuteRequests := some command.remainingMinuteRequests
    remainingMinuteTokens := some command.remainingMinuteTokens
    remainingDailyRequests := some command.remainingDailyRequests
    remainingDailyTokens := some command.remainingDailyTokens
    minuteResetAt := none
    dailyResetAt := none
    observedAt := command.now }

/-- What the drain does not decide itself. The first argument is the number of
iterations before. -/
structure DrainEnvironment where
  flagLocked : DirtyFlagRow → Bool
  itemLocked : Nat → WorkItemRow → Bool
  shouldPause : Nat → QueueState → Except Fault Bool
  executeAdmittedWorkItem : Nat → QueueState → String → CapacityReservation →
    QueueState × Except Fault StrategyResult

inductive StopReason
  | drainedItems
  | noFittingWork
  | budgetExhausted
  | windowFrozen
  | pauseRequested
  | laneAlreadyClaimed
  | maxItemsReached
  deriving DecidableEq, Repr

/-- The local variables of the loop. `executed` records, for the statements
below, each item with the result of its strategy. -/
structure DrainProgress where
  state : QueueState
  drainedWorkItemIds : List String
  attemptIds : List String
  providerCallCount : Nat
  executed : List (WorkItemRow × StrategyResult)

inductive DrainOutcome
  | running (progress : DrainProgress)
  | stopped (progress : DrainProgress) (reason : StopReason) (clearDirtyFlag : Bool)
  | raised (progress : DrainProgress) (fault : Fault)

def DrainOutcome.progress : DrainOutcome → DrainProgress
  | .running progress => progress
  | .stopped progress _ _ => progress
  | .raised progress _ => progress

/-- `_remaining`. -/
def remainingOrOne (value : Option Nat) : Nat :=
  value.getD 1

/-- `_budget_from_snapshot`. -/
def budgetFromSnapshot (row : WindowRow) : WindowBudget :=
  { remainingRequests := remainingOrOne row.remainingMinuteRequests - row.reservedMinuteRequests
    remainingTokens := remainingOrOne row.remainingMinuteTokens - row.reservedMinuteTokens
    remainingDailyRequests := remainingOrOne row.remainingDailyRequests - row.reservedDailyRequests
    remainingDailyTokens := remainingOrOne row.remainingDailyTokens - row.reservedDailyTokens }

def leasedUpdate (workItemId : String) (now : Int) : LifecycleUpdate :=
  { workItemId := workItemId, status := .leased, changedAt := now, retryPlan := none
    modelRef := none, retryPlan_iff := leased_without_plan, modelRef_only := by simp }

/-- What the drain does to the window after the strategy answered. -/
def settleReservation (command : DrainCommand) (windows : Table WindowRow.window)
    (reservation : CapacityReservation) (result : StrategyResult) : Table WindowRow.window :=
  if !result.providerCallStarted then releaseReservation windows reservation command.now
  else if result.capacityObservationRecorded then releaseReservation windows reservation command.now
  else match result.freezeUntil with
    | some frozen => freezeUntil windows command.window frozen command.now
    | none => windows

/-- The items still wanted by `max_items`. -/
def DrainCommand.wantsMore (command : DrainCommand) (drained : Nat) : Bool :=
  command.maxItems.all fun limit => decide ((drained : Int) < limit)

/-- The loop body after an item was selected. -/
def executeSelected (environment : DrainEnvironment) (command : DrainCommand) (iteration : Nat)
    (progress : DrainProgress) (item : WorkItemRow) : DrainOutcome :=
  match tryReserve progress.state.windows command.window 1 item.requiredWindowTokens
      command.now with
  | .error fault => .raised progress fault
  | .ok (none, _) => .stopped progress .budgetExhausted false
  | .ok (some reservation, windows) =>
    let leased := syncProjectionLifecycle { progress.state with windows := windows }
      (leasedUpdate item.workItemId command.now)
    match environment.executeAdmittedWorkItem iteration leased item.workItemId reservation with
    | (state, .error fault) =>
      .raised { progress with
        state := { state with
          windows := releaseReservation state.windows reservation command.now } } fault
    | (state, .ok result) =>
      .running
        { state := { state with
            windows := settleReservation command state.windows reservation result }
          drainedWorkItemIds := progress.drainedWorkItemIds ++ [item.workItemId]
          attemptIds := progress.attemptIds ++ result.dispatchAttemptId.toList
          providerCallCount := progress.providerCallCount +
            if result.providerCallStarted then 1 else 0
          executed := progress.executed ++ [(item, result)] }

/-- One pass through the `while` loop. -/
def drainIteration (environment : DrainEnvironment) (command : DrainCommand) (iteration : Nat)
    (progress : DrainProgress) : DrainOutcome :=
  if command.wantsMore progress.drainedWorkItemIds.length then
    match environment.shouldPause iteration progress.state with
    | .error fault => .raised progress fault
    | .ok true => .stopped progress .pauseRequested false
    | .ok false =>
      let (snapshot, windows) := applyCapacityObservation progress.state.windows command.observation
      let observed := { progress with state := { progress.state with windows := windows } }
      if snapshot.frozenUntil.any (fun frozen => decide (command.now < frozen)) then
        .stopped observed .windowFrozen false
      else
        match selectCapacityAdmissionWorkItem observed.state.workItems
            (environment.itemLocked iteration) command.selectionLane
            (budgetFromSnapshot snapshot) with
        | none => .stopped observed .noFittingWork true
        | some item => executeSelected environment command iteration observed item
  else .stopped progress .maxItemsReached false

/-- The loop after some number of iterations, from the state after the claim. -/
def drainIterations (environment : DrainEnvironment) (command : DrainCommand)
    (claimed : QueueState) : Nat → DrainOutcome
  | 0 => .running
      { state := claimed, drainedWorkItemIds := [], attemptIds := [], providerCallCount := 0
        executed := [] }
  | iteration + 1 =>
    match drainIterations environment command claimed iteration with
    | .running progress => drainIteration environment command iteration progress
    | finished => finished

end CrmBot.CapacityAdmissionQueue
