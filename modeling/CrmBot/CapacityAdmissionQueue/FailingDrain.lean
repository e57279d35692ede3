import CrmBot.CapacityAdmissionQueue.FitAgreement

/-! What a drain leaves behind when a call raises after an item was selected.

The calls of a drain are separate writes, and each is kept when a later one raises. The
`except` block gives back the reservation of a strategy that raised, and the `finally`
block releases the lane claim; nothing gives the projection row back. -/

namespace CrmBot.CapacityAdmissionQueue

open Relational CrmBot.Python

/-- How far `sync_projection_lifecycle` came: it writes the row, then the dirty flag. -/
inductive SyncStage
  | nothingWritten
  | rowWritten
  | laneMarked
  deriving DecidableEq, Repr

/-- The repository calls of one iteration that raise, and the release of the claim. -/
structure CallFaults where
  tryReserve : Option Fault
  syncProjection : Option (SyncStage × Fault)
  releaseReservation : Option Fault
  freezeUntil : Option Fault
  releaseLaneClaim : Option Fault

def CallFaults.none : CallFaults := ⟨.none, .none, .none, .none, .none⟩

/-- The writes of a synchronisation that raised. -/
def syncUpTo (stage : SyncStage) (state : QueueState) (update : LifecycleUpdate) : QueueState :=
  match stage with
  | .nothingWritten => state
  | .rowWritten => { state with workItems := (syncProjectionLifecycle state update).workItems }
  | .laneMarked => syncProjectionLifecycle state update

/-- The call that settles the reservation after the strategy has answered raises. -/
def CallFaults.settle (faults : CallFaults) (result : StrategyResult) : Option Fault :=
  if !result.providerCallStarted || result.capacityObservationRecorded then
    faults.releaseReservation
  else if result.freezeUntil.isSome then faults.freezeUntil
  else .none

/-- The loop body after an item was selected, with calls that may raise. -/
def executeFailing (environment : DrainEnvironment) (faults : CallFaults)
    (command : DrainCommand) (iteration : Nat) (progress : DrainProgress) (item : WorkItemRow) :
    DrainOutcome :=
  match faults.tryReserve with
  | some fault => .raised progress fault
  | none =>
    match tryReserve progress.state.windows command.window 1 item.requiredWindowTokens
        command.now with
    | .error fault => .raised progress fault
    | .ok (none, _) => .stopped progress .budgetExhausted false
    | .ok (some reservation, windows) =>
      let reserved := { progress.state with windows := windows }
      let update := leasedUpdate item.workItemId command.now
      match faults.syncProjection with
      | some (stage, fault) =>
        .raised { progress with state := syncUpTo stage reserved update } fault
      | none =>
        match environment.executeAdmittedWorkItem iteration
            (syncProjectionLifecycle reserved update) item.workItemId reservation with
        | (state, .error fault) =>
          match faults.releaseReservation with
          | some second => .raised { progress with state := state } second
          | none =>
            .raised { progress with
              state := { state with
                windows := releaseReservation state.windows reservation command.now } } fault
        | (state, .ok result) =>
          match faults.settle result with
          | some fault => .raised { progress with state := state } fault
          | none =>
            .running
              { state := { state with
                  windows := settleReservation command state.windows reservation result }
                drainedWorkItemIds := progress.drainedWorkItemIds ++ [item.workItemId]
                attemptIds := progress.attemptIds ++ result.dispatchAttemptId.toList
                providerCallCount := progress.providerCallCount +
                  if result.providerCallStarted then 1 else 0
                executed := progress.executed ++ [(item, result)] }

/-- Without calls that raise this is the loop body of the drain. -/
theorem executeFailing_none (environment : DrainEnvironment) (command : DrainCommand)
    (iteration : Nat) (progress : DrainProgress) (item : WorkItemRow) :
    executeFailing environment .none command iteration progress item =
      executeSelected environment command iteration progress item := by
  unfold executeFailing executeSelected
  dsimp only [CallFaults.none]
  cases tryReserve progress.state.windows command.window 1 item.requiredWindowTokens
      command.now with
  | error fault => rfl
  | ok reserved =>
    obtain ⟨reservation, windows⟩ := reserved
    cases reservation with
    | none => rfl
    | some reservation =>
      dsimp only
      rcases environment.executeAdmittedWorkItem iteration
        (syncProjectionLifecycle { progress.state with windows := windows }
          (leasedUpdate item.workItemId command.now)) item.workItemId reservation
        with ⟨state, fault | result⟩
      · rfl
      · simp [CallFaults.settle]

/-- The item that an iteration selects, with the progress after the observation. -/
def selectedItem (environment : DrainEnvironment) (command : DrainCommand) (iteration : Nat)
    (progress : DrainProgress) : Option (DrainProgress × WorkItemRow) :=
  if command.wantsMore progress.drainedWorkItemIds.length then
    match environment.shouldPause iteration progress.state with
    | .ok false =>
      let (snapshot, windows) := applyCapacityObservation progress.state.windows command.observation
      let observed := { progress with state := { progress.state with windows := windows } }
      if snapshot.frozenUntil.any (fun frozen => decide (command.now < frozen)) then none
      else
        (selectCapacityAdmissionWorkItem observed.state.workItems
          (environment.itemLocked iteration) command.selectionLane
          (budgetFromSnapshot snapshot)).map fun item => (observed, item)
    | _ => none
  else none

/-- One pass through the loop, with calls that may raise. -/
def failingIteration (environment : DrainEnvironment) (faults : CallFaults)
    (command : DrainCommand) (iteration : Nat) (progress : DrainProgress) : DrainOutcome :=
  match selectedItem environment command iteration progress with
  | some (observed, item) => executeFailing environment faults command iteration observed item
  | none => drainIteration environment command iteration progress

/-- The loop after some number of iterations. -/
def failingIterations (environment : DrainEnvironment) (faults : Nat → CallFaults)
    (command : DrainCommand) (claimed : QueueState) : Nat → DrainOutcome
  | 0 => drainIterations environment command claimed 0
  | iteration + 1 =>
    match failingIterations environment faults command claimed iteration with
    | .running progress =>
      failingIteration environment (faults iteration) command iteration progress
    | finished => finished

/-- The `finally` block. -/
def releaseFinally (faults : CallFaults) (command : DrainCommand) (state : QueueState) :
    QueueState :=
  match faults.releaseLaneClaim with
  | some _ => state
  | none => releaseLaneClaim state (laneId command.selectionLane) command.workerRef command.now

/-! Without calls that raise. -/

theorem drainIteration_of_selectedItem {environment : DrainEnvironment} {command : DrainCommand}
    {iteration : Nat} {progress observed : DrainProgress} {item : WorkItemRow}
    (h : selectedItem environment command iteration progress = some (observed, item)) :
    drainIteration environment command iteration progress =
      executeSelected environment command iteration observed item := by
  unfold selectedItem at h
  split at h
  · next hmore =>
    split at h
    · next hpause =>
      dsimp only at h
      split at h
      · cases h
      · next hopen =>
        obtain ⟨selected, hselect, hpair⟩ := Option.map_eq_some_iff.mp h
        cases hpair
        unfold drainIteration
        rw [if_pos hmore, hpause]
        dsimp only
        rw [if_neg hopen, hselect]
    · cases h
  · cases h

theorem failingIteration_none (environment : DrainEnvironment) (command : DrainCommand)
    (iteration : Nat) (progress : DrainProgress) :
    failingIteration environment .none command iteration progress =
      drainIteration environment command iteration progress := by
  unfold failingIteration
  split
  · next observed item hselected =>
    rw [executeFailing_none, drainIteration_of_selectedItem hselected]
  · rfl

theorem failingIterations_none (environment : DrainEnvironment) (command : DrainCommand)
    (claimed : QueueState) (iterations : Nat) :
    failingIterations environment (fun _ => .none) command claimed iterations =
      drainIterations environment command claimed iterations := by
  induction iterations with
  | zero => rfl
  | succ iteration ih =>
    rw [failingIterations, drainIterations, ih]
    cases drainIterations environment command claimed iteration with
    | running progress => exact failingIteration_none environment command iteration progress
    | stopped _ _ _ | raised _ _ => rfl

/-! What a failing iteration leaves behind. -/

/-- The reserved amount of a counter of the window. -/
def reservedOf (state : QueueState) (window : WindowKey) (counter : Counter) : Option Nat :=
  (state.windows.find? window).map counter.reserved

/-- The row of the item is in its lane with its status. -/
def RowKept (state : QueueState) (item : WorkItemRow) : Prop :=
  ∃ row ∈ state.workItems.rows, row.workItemId = item.workItemId ∧ row.lane = item.lane ∧
    row.status = item.status

/-- The worker does not hold the lane. -/
def ClaimFree (command : DrainCommand) (state : QueueState) : Prop :=
  ∀ flag ∈ state.dirtyFlags.rows, flag.laneId = laneId command.selectionLane →
    flag.claimedBy ≠ some command.workerRef

/-- The item is selectable as it was, the reserved counters are as before, and the lane
claim is released. -/
structure LeavesNoTrace (command : DrainCommand) (before : QueueState) (item : WorkItemRow)
    (final : QueueState) : Prop where
  row : RowKept final item
  counters : ∀ counter : Counter, reservedOf final command.window counter =
    reservedOf before command.window counter
  claim : ClaimFree command final

/-- The reservation of an item. -/
def itemReservation (command : DrainCommand) (item : WorkItemRow) : CapacityReservation where
  window := command.window
  requestCount := 1
  tokenCount := item.requiredWindowTokens
  reservedAt := command.now

/-- The state that the strategy meets: the item is reserved and leased. -/
def leasedState (command : DrainCommand) (before : QueueState) (item : WorkItemRow) : QueueState :=
  match tryReserve before.windows command.window 1 item.requiredWindowTokens command.now with
  | .ok (_, windows) => syncProjectionLifecycle { before with windows := windows }
      (leasedUpdate item.workItemId command.now)
  | .error _ => before

/-- What the strategy leaves and answers. -/
def strategyAnswer (environment : DrainEnvironment) (command : DrainCommand) (iteration : Nat)
    (before : QueueState) (item : WorkItemRow) : QueueState × Except Fault StrategyResult :=
  environment.executeAdmittedWorkItem iteration (leasedState command before item) item.workItemId
    (itemReservation command item)

/-- The `except` block gives the reservation back. -/
def CallFaults.givesBack (faults : CallFaults) : Except Fault StrategyResult → Bool
  | .error _ => faults.releaseReservation.isNone
  | .ok _ => false

/-- The strategy has put the row back itself, and the counters but for the reservation
where that is given back. -/
def StrategyUndid (faults : CallFaults) (command : DrainCommand) (before : QueueState)
    (item : WorkItemRow) (answer : QueueState × Except Fault StrategyResult) : Prop :=
  RowKept answer.1 item ∧ ∀ counter : Counter,
    (reservedOf answer.1 command.window counter).map (fun reserved =>
        if faults.givesBack answer.2 then reserved - counter.needed item else reserved) =
      reservedOf before command.window counter

/-- The call that raises is the reservation, or it comes after the lease of a row that
the strategy has put back; and the lane is released or was not held any more. -/
def RaisesCleanly (environment : DrainEnvironment) (faults : CallFaults) (command : DrainCommand)
    (iteration : Nat) (before : QueueState) (item : WorkItemRow) : Prop :=
  let answer := strategyAnswer environment command iteration before item
  if faults.tryReserve.isSome then
    faults.releaseLaneClaim = none ∨ ClaimFree command before
  else
    faults.syncProjection = none ∧ StrategyUndid faults command before item answer ∧
      (faults.releaseLaneClaim = none ∨ ClaimFree command answer.1)

/-! The step that raises. -/

variable {environment : DrainEnvironment} {faults : CallFaults} {command : DrainCommand}
  {iteration : Nat} {observed after : DrainProgress} {item : WorkItemRow} {fault : Fault}

theorem tryReserve_item (windows : Table WindowRow.window) (command : DrainCommand)
    (item : WorkItemRow) :
    (∃ granted, tryReserve windows command.window 1 item.requiredWindowTokens command.now =
        .ok (some (itemReservation command item), granted)) ∨
      tryReserve windows command.window 1 item.requiredWindowTokens command.now =
        .ok (none, windows) := by
  unfold tryReserve
  rw [if_neg one_ne_zero, if_neg item.requiredWindowTokens_pos.ne']
  dsimp only
  split
  · split
    · exact .inl ⟨_, rfl⟩
    · exact .inr rfl
  · split
    · exact .inl ⟨_, rfl⟩
    · exact .inr rfl

@[simp] theorem windows_syncProjectionLifecycle (state : QueueState) (update : LifecycleUpdate) :
    (syncProjectionLifecycle state update).windows = state.windows := by
  unfold syncProjectionLifecycle
  split
  · rfl
  · split
    · rfl
    · rfl

@[simp] theorem windows_syncUpTo (stage : SyncStage) (state : QueueState)
    (update : LifecycleUpdate) : (syncUpTo stage state update).windows = state.windows := by
  cases stage with
  | nothingWritten | rowWritten => rfl
  | laneMarked => exact windows_syncProjectionLifecycle state update

/-- A granted reservation shows in every counter. -/
theorem reservedOf_granted {before : QueueState} {granted : Table WindowRow.window}
    (h : tryReserve before.windows command.window 1 item.requiredWindowTokens command.now =
      .ok (some (itemReservation command item), granted)) (counter : Counter) :
    ∃ reserved, reservedOf before command.window counter = some reserved ∧
      (granted.find? command.window).map counter.reserved =
        some (reserved + counter.needed item) := by
  obtain ⟨_, _, _, row, after, hbefore, hafter, _, hcounters⟩ := tryReserve_some h
  refine ⟨counter.reserved row, by rw [reservedOf, hbefore]; rfl, ?_⟩
  rw [hafter, Option.map_some, (hcounters counter).1]
  cases counter <;> rfl

/-- Where a step that raises stood. -/
theorem executeFailing_raised
    (h : executeFailing environment faults command iteration observed item = .raised after fault) :
    (faults.tryReserve.isSome = true ∧ after = observed) ∨
      faults.tryReserve.isSome = false ∧ ∃ granted,
        tryReserve observed.state.windows command.window 1 item.requiredWindowTokens command.now =
          .ok (some (itemReservation command item), granted) ∧
        ((∃ stage, faults.syncProjection.map Prod.fst = some stage ∧
            after.state = syncUpTo stage { observed.state with windows := granted }
              (leasedUpdate item.workItemId command.now)) ∨
          faults.syncProjection = none ∧
            let answer := strategyAnswer environment command iteration observed.state item
            after.state = if faults.givesBack answer.2 then
                { answer.1 with
                  windows := releaseReservation answer.1.windows (itemReservation command item)
                    command.now }
              else answer.1) := by
  unfold executeFailing at h
  cases htry : faults.tryReserve with
  | some raised =>
    rw [htry] at h
    cases h
    exact .inl ⟨rfl, rfl⟩
  | none =>
    rw [htry] at h
    rcases tryReserve_item observed.state.windows command item with ⟨granted, hgranted⟩ | hdenied
    · refine .inr ⟨rfl, granted, hgranted, ?_⟩
      rw [hgranted] at h
      dsimp only at h
      cases hsync : faults.syncProjection with
      | some raised =>
        rw [hsync] at h
        cases h
        exact .inl ⟨raised.1, rfl, rfl⟩
      | none =>
        refine .inr ⟨rfl, ?_⟩
        rw [hsync] at h
        dsimp only at h
        have hanswer : strategyAnswer environment command iteration observed.state item =
            environment.executeAdmittedWorkItem iteration
              (syncProjectionLifecycle { observed.state with windows := granted }
                (leasedUpdate item.workItemId command.now)) item.workItemId
              (itemReservation command item) := by
          rw [strategyAnswer, leasedState, hgranted]
        rw [← hanswer] at h
        generalize strategyAnswer environment command iteration observed.state item = answer at h ⊢
        obtain ⟨state, raised | result⟩ := answer
        · dsimp only at h ⊢
          cases hrelease : faults.releaseReservation with
          | some second =>
            rw [hrelease] at h
            cases h
            simp [CallFaults.givesBack, hrelease]
          | none =>
            rw [hrelease] at h
            cases h
            simp [CallFaults.givesBack, hrelease]
        · dsimp only at h ⊢
          split at h
          · cases h
            rfl
          · cases h
    · rw [hdenied] at h
      cases h

theorem workItems_releaseFinally (faults : CallFaults) (command : DrainCommand)
    (state : QueueState) :
    (releaseFinally faults command state).workItems = state.workItems ∧
      (releaseFinally faults command state).windows = state.windows := by
  unfold releaseFinally
  split
  · exact ⟨rfl, rfl⟩
  · exact ⟨rfl, rfl⟩

/-- After the `finally` block the lane is free, unless the release raised. -/
theorem claimFree_releaseFinally_iff {state : QueueState} :
    ClaimFree command (releaseFinally faults command state) ↔
      faults.releaseLaneClaim = none ∨ ClaimFree command state := by
  unfold releaseFinally
  cases hrelease : faults.releaseLaneClaim with
  | some raised => simp
  | none =>
    refine iff_of_true ?_ (.inl rfl)
    intro flag hflag hlane hclaimed
    dsimp only [releaseLaneClaim] at hflag
    rw [Table.mem_updateWhere] at hflag
    obtain ⟨old, _, hold⟩ := hflag
    by_cases hheld : (decide (old.laneId = laneId command.selectionLane) &&
        decide (old.claimedBy = some command.workerRef)) = true
    · rw [if_pos hheld] at hold
      rw [← hold] at hclaimed
      cases hclaimed
    · rw [if_neg hheld] at hold
      rw [← hold] at hlane hclaimed
      simp [hlane, hclaimed] at hheld

/-! No trace of an item that was not executed. -/

theorem rowKept_self {state : QueueState} (hmem : item ∈ state.workItems.rows) :
    RowKept state item := ⟨item, hmem, rfl, rfl, rfl⟩

theorem reservedOf_congr {first second : QueueState} (h : first.windows = second.windows)
    (window : WindowKey) (counter : Counter) :
    reservedOf first window counter = reservedOf second window counter := by
  rw [reservedOf, reservedOf, h]

/-- A step whose lease raises keeps the reservation. -/
theorem not_counters_of_sync {granted : Table WindowRow.window} {state : QueueState}
    (hgranted : tryReserve observed.state.windows command.window 1 item.requiredWindowTokens
      command.now = .ok (some (itemReservation command item), granted))
    (hwindows : state.windows = granted) :
    ¬ ∀ counter : Counter, reservedOf state command.window counter =
      reservedOf observed.state command.window counter := by
  intro hsame
  obtain ⟨reserved, hbefore, hafter⟩ := reservedOf_granted hgranted .minuteRequests
  have hcounter := hsame .minuteRequests
  rw [hbefore, reservedOf, hwindows, hafter, Option.some_inj] at hcounter
  change reserved + 1 = reserved at hcounter
  omega

/-- The counters after the reservation is given back. -/
theorem reservedOf_released (state : QueueState) (command : DrainCommand) (item : WorkItemRow)
    (counter : Counter) :
    reservedOf { state with
        windows := releaseReservation state.windows (itemReservation command item) command.now }
        command.window counter =
      (reservedOf state command.window counter).map fun reserved =>
        reserved - counter.needed item := by
  rw [reservedOf, reservedOf]
  cases hfind : state.windows.find? command.window with
  | none =>
    rw [releaseReservation, Table.find?_updateWhere, hfind]
    rfl
  | some row =>
    have hwindow : (itemReservation command item).window = command.window := rfl
    obtain ⟨released, hreleased, _, hcounters⟩ :=
      find?_releaseReservation command.now hwindow hfind
    rw [hreleased, Option.map_some, Option.map_some, Option.map_some, hcounters counter]
    cases counter <;> rfl

theorem leavesNoTrace_of_executeFailing
    (hmem : item ∈ observed.state.workItems.rows)
    (h : executeFailing environment faults command iteration observed item = .raised after fault) :
    LeavesNoTrace command observed.state item (releaseFinally faults command after.state) ↔
      RaisesCleanly environment faults command iteration observed.state item := by
  obtain ⟨hitems, hwindows⟩ := workItems_releaseFinally faults command after.state
  have hsplit : LeavesNoTrace command observed.state item
        (releaseFinally faults command after.state) ↔
      RowKept after.state item ∧ (∀ counter : Counter,
        reservedOf after.state command.window counter =
          reservedOf observed.state command.window counter) ∧
      (faults.releaseLaneClaim = none ∨ ClaimFree command after.state) := by
    have hrow : RowKept (releaseFinally faults command after.state) item ↔
        RowKept after.state item := by rw [RowKept, RowKept, hitems]
    have hcounters := reservedOf_congr hwindows command.window
    constructor
    · rintro ⟨row, counters, claim⟩
      exact ⟨hrow.mp row, fun counter => (hcounters counter).symm.trans (counters counter),
        claimFree_releaseFinally_iff.mp claim⟩
    · rintro ⟨row, counters, claim⟩
      exact ⟨hrow.mpr row, fun counter => (hcounters counter).trans (counters counter),
        claimFree_releaseFinally_iff.mpr claim⟩
  rw [hsplit, RaisesCleanly]
  rcases executeFailing_raised h with
    ⟨htry, rfl⟩ | ⟨htry, granted, hgranted, ⟨stage, hsync, hafter⟩ | ⟨hsync, hafter⟩⟩
  · rw [if_pos htry]
    exact ⟨fun hclean => hclean.2.2, fun hclaim => ⟨rowKept_self hmem, fun _ => rfl, hclaim⟩⟩
  · have hraised : faults.syncProjection ≠ none := by
      intro hnone
      rw [hnone] at hsync
      cases hsync
    have hwindows : after.state.windows = granted := by rw [hafter, windows_syncUpTo]
    have hkept := not_counters_of_sync hgranted hwindows
    rw [htry]
    simp only [Bool.false_eq_true, if_false]
    exact iff_of_false (fun hclean => hkept hclean.2.1) fun hclean => hraised hclean.1
  · rw [htry]
    dsimp only at hafter
    simp only [Bool.false_eq_true, if_false, hsync, true_and, StrategyUndid, and_assoc]
    cases hgives : faults.givesBack
        (strategyAnswer environment command iteration observed.state item).2 with
    | false =>
      rw [hgives] at hafter
      simp only [Bool.false_eq_true, if_false] at hafter
      simp [hafter]
    | true =>
      rw [hgives] at hafter
      simp only [if_true] at hafter
      rw [hafter]
      simp only [reservedOf_released, if_true]
      rfl

theorem mem_of_selectedItem {progress : DrainProgress}
    (h : selectedItem environment command iteration progress = some (observed, item)) :
    item ∈ observed.state.workItems.rows := by
  unfold selectedItem at h
  split at h
  · split at h
    · dsimp only at h
      split at h
      · cases h
      · obtain ⟨selected, hselect, hpair⟩ := Option.map_eq_some_iff.mp h
        cases hpair
        exact (selectCapacityAdmissionWorkItem_fits hselect).1
    · cases h
  · cases h

/-- A drain whose step raises after an item was selected leaves no trace of the step
exactly when the reservation is what raised, or the strategy was called and has put
back the row and the counters itself, with the lane released or not held. -/
theorem leavesNoTrace_iff (environment : DrainEnvironment) (faults : Nat → CallFaults)
    (command : DrainCommand) (claimed : QueueState) (iterations : Nat)
    (progress observed after : DrainProgress) (item : WorkItemRow) (fault : Fault)
    (hrunning : failingIterations environment faults command claimed iterations =
      .running progress)
    (hselected : selectedItem environment command iterations progress = some (observed, item))
    (hraised : failingIterations environment faults command claimed (iterations + 1) =
      .raised after fault) :
    LeavesNoTrace command observed.state item
        (releaseFinally (faults iterations) command after.state) ↔
      RaisesCleanly environment (faults iterations) command iterations observed.state item := by
  rw [failingIterations, hrunning] at hraised
  dsimp only at hraised
  rw [failingIteration, hselected] at hraised
  exact leavesNoTrace_of_executeFailing (mem_of_selectedItem hselected) hraised

/-! A strategy that raises and has changed nothing. -/

def strategyRaises : DrainEnvironment where
  flagLocked _ := false
  itemLocked _ _ := false
  shouldPause _ _ := .ok false
  executeAdmittedWorkItem _ state _ _ := (state, .error (.valueError "dispatch failed"))

/-- The queue of two items after the lane is claimed. -/
def claimedQueue : QueueState :=
  match claimDirtyLane
    (wholeBudgetQueue sampleDrain sampleDrain_budget_pos) strategyRaises.flagLocked
      sampleDrain.selectionLane sampleDrain.workerRef sampleDrain.now
      sampleDrain.claimTtlSeconds with
  | .ok (_, claimed) => claimed
  | .error _ => wholeBudgetQueue sampleDrain sampleDrain_budget_pos

/-- The item stays leased. -/
theorem strategyRaises_leaves_trace :
    ∃ progress observed after item fault,
      failingIterations strategyRaises (fun _ => .none) sampleDrain claimedQueue 0 =
          .running progress ∧
        selectedItem strategyRaises sampleDrain 0 progress = some (observed, item) ∧
        failingIterations strategyRaises (fun _ => .none) sampleDrain claimedQueue 1 =
          .raised after fault ∧
        ¬ LeavesNoTrace sampleDrain observed.state item
          (releaseFinally .none sampleDrain after.state) := by
  refine ⟨_, _, _, _, _, rfl, rfl, rfl, ?_⟩
  rintro ⟨⟨row, hmem, hid, _, hstatus⟩, _, _⟩
  change row ∈ [_, _] at hmem
  rcases List.mem_cons.mp hmem with rfl | hmem
  · cases hstatus
  · obtain rfl := List.mem_singleton.mp hmem
    exact absurd hid (by decide)

/-- The condition at the strategy that raises. -/
theorem strategyRaises_traceless_iff :
    ∃ progress observed after item fault,
      failingIterations strategyRaises (fun _ => .none) sampleDrain claimedQueue 0 =
          .running progress ∧
        selectedItem strategyRaises sampleDrain 0 progress = some (observed, item) ∧
        failingIterations strategyRaises (fun _ => .none) sampleDrain claimedQueue 1 =
          .raised after fault ∧
        (LeavesNoTrace sampleDrain observed.state item
            (releaseFinally .none sampleDrain after.state) ↔
          RaisesCleanly strategyRaises .none sampleDrain 0 observed.state item) :=
  ⟨_, _, _, _, _, rfl, rfl, rfl, leavesNoTrace_iff strategyRaises (fun _ => .none) sampleDrain
    claimedQueue 0 _ _ _ _ _ rfl rfl rfl⟩

end CrmBot.CapacityAdmissionQueue
