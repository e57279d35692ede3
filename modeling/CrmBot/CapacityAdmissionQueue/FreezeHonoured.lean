import CrmBot.CapacityAdmissionQueue.DrainBudget

/-! A drain after its strategy has frozen the window.

Every iteration applies the observation of the command before it looks at the
window, and the observation removes the freeze that the iteration before has
written. -/

namespace CrmBot.CapacityAdmissionQueue

open Relational CrmBot.Python

/-- The drain freezes the window for this result, until a time after now. -/
def StrategyResult.Freezes (result : StrategyResult) (now : Int) : Prop :=
  result.providerCallStarted = true ∧ result.capacityObservationRecorded = false ∧
    ∃ frozen, result.freezeUntil = some frozen ∧ now < frozen

def LastFreezes (command : DrainCommand) (progress : DrainProgress) : Prop :=
  ∃ entry, progress.executed.getLast? = some entry ∧ entry.2.Freezes command.now

/-- The item for which an iteration calls the strategy. -/
def calledItem (environment : DrainEnvironment) (command : DrainCommand) (iteration : Nat)
    (progress : DrainProgress) : Option WorkItemRow :=
  if command.wantsMore progress.drainedWorkItemIds.length then
    match environment.shouldPause iteration progress.state with
    | .ok false =>
      let (snapshot, windows) := applyCapacityObservation progress.state.windows command.observation
      if snapshot.frozenUntil.any (fun frozen => decide (command.now < frozen)) then none
      else
        (selectCapacityAdmissionWorkItem progress.state.workItems
          (environment.itemLocked iteration) command.selectionLane
          (budgetFromSnapshot snapshot)).filter fun item =>
            match tryReserve windows command.window 1 item.requiredWindowTokens command.now with
            | .ok (some _, _) => true
            | _ => false
    | _ => none
  else none

/-- After a result that froze the window the drain calls the strategy for no item
and stops with the reason that the window is frozen. -/
def FreezeHonoured (environment : DrainEnvironment) (command : DrainCommand)
    (claimed : QueueState) : Prop :=
  ∀ iterations progress,
    drainIterations environment command claimed iterations = .running progress →
      LastFreezes command progress →
        calledItem environment command iterations progress = none ∧
          ∃ stopped, drainIteration environment command iterations progress =
            .stopped stopped .windowFrozen false

/-- No result of the strategy freezes the window. -/
def NeverFreezes (environment : DrainEnvironment) (command : DrainCommand)
    (claimed : QueueState) : Prop :=
  ∀ iterations progress,
    drainIterations environment command claimed iterations = .running progress →
      ¬ LastFreezes command progress

/-- After a result that froze the window something else ends the drain: no further
item is wanted, a pause is requested or fails, or no item fits the observation. -/
def EndsAnyway (environment : DrainEnvironment) (command : DrainCommand)
    (claimed : QueueState) : Prop :=
  ∀ iterations progress,
    drainIterations environment command claimed iterations = .running progress →
      LastFreezes command progress →
        command.wantsMore progress.drainedWorkItemIds.length = false ∨
          environment.shouldPause iterations progress.state ≠ .ok false ∨
          selectCapacityAdmissionWorkItem progress.state.workItems
            (environment.itemLocked iterations) command.selectionLane command.budget = none

variable {environment : DrainEnvironment} {command : DrainCommand} {iteration : Nat}
  {progress : DrainProgress}

/-- The snapshot of an iteration is never frozen, and grants what was selected. -/
theorem calledItem_eq_none_iff :
    calledItem environment command iteration progress = none ↔
      command.wantsMore progress.drainedWorkItemIds.length = false ∨
        environment.shouldPause iteration progress.state ≠ .ok false ∨
        selectCapacityAdmissionWorkItem progress.state.workItems
          (environment.itemLocked iteration) command.selectionLane command.budget = none := by
  obtain ⟨createdAt, hsnapshot⟩ :=
    applyCapacityObservation_snapshot progress.state.windows command.observation
  unfold calledItem
  cases hmore : command.wantsMore progress.drainedWorkItemIds.length with
  | false => simp
  | true =>
    rw [if_pos rfl]
    cases hpause : environment.shouldPause iteration progress.state with
    | error fault => simp
    | ok paused =>
      cases paused with
      | true => simp
      | false =>
        dsimp only
        rw [hsnapshot, budgetFromSnapshot_observed, if_neg (by simp [observedRow])]
        cases hselect : selectCapacityAdmissionWorkItem progress.state.workItems
            (environment.itemLocked iteration) command.selectionLane command.budget with
        | none => simp
        | some item =>
          obtain ⟨_, _, hrequests, hdaily, hminute, hday⟩ :=
            selectCapacityAdmissionWorkItem_fits hselect
          obtain ⟨reserved, hreserve⟩ := tryReserve_observed progress.state.windows
            item.requiredWindowTokens_pos hrequests hdaily hminute hday
          simp [hreserve]

/-- No iteration finds the window frozen. -/
theorem drainIteration_ne_windowFrozen {stopped : DrainProgress} {clearFlag : Bool} :
    drainIteration environment command iteration progress ≠
      .stopped stopped .windowFrozen clearFlag := by
  obtain ⟨createdAt, hsnapshot⟩ :=
    applyCapacityObservation_snapshot progress.state.windows command.observation
  intro h
  unfold drainIteration at h
  split at h
  · split at h
    · cases h
    · cases h
    · dsimp only at h
      rw [hsnapshot, if_neg (by simp [observedRow])] at h
      split at h
      · cases h
      · next item hselect =>
        unfold executeSelected at h
        split at h
        · cases h
        · cases h
        · dsimp only at h
          split at h
          · cases h
          · cases h
  · cases h

/-- A freeze is honoured exactly where there is none; no further item is executed
after one exactly where the drain ends for another reason. -/
theorem freezeHonoured_iff (environment : DrainEnvironment) (command : DrainCommand)
    (claimed : QueueState) :
    (FreezeHonoured environment command claimed ↔ NeverFreezes environment command claimed) ∧
      ((∀ iterations progress,
          drainIterations environment command claimed iterations = .running progress →
            LastFreezes command progress →
              calledItem environment command iterations progress = none) ↔
        EndsAnyway environment command claimed) := by
  refine ⟨⟨?_, ?_⟩, ?_⟩
  · intro hhonoured iterations progress hrun hfreezes
    obtain ⟨_, stopped, hstopped⟩ := hhonoured iterations progress hrun hfreezes
    exact drainIteration_ne_windowFrozen hstopped
  · intro hnever iterations progress hrun hfreezes
    exact absurd hfreezes (hnever iterations progress hrun)
  · unfold EndsAnyway
    simp only [calledItem_eq_none_iff]

/-! A window that is frozen and drained on. -/

/-- A strategy that freezes the window for every item. -/
def freezesWindow (frozenUntil : Int) : DrainEnvironment where
  flagLocked _ := false
  itemLocked _ _ := false
  shouldPause _ _ := .ok false
  executeAdmittedWorkItem _ state workItemId _ :=
    if hid : workItemId = "" then (state, .error (.valueError "work_item_id must be non-empty"))
    else (state, .ok
      { workItemId := workItemId, dispatchAttemptId := some "attempt", providerCallStarted := true
        capacityObservationRecorded := false, freezeUntil := some frozenUntil
        workItemId_ne := hid, dispatchAttemptId_ne := attempt_ne_empty
        observation_started := fun _ => Eq.refl true
        started_observed_or_frozen := fun _ _ => Eq.refl true })

/-- The first item freezes the window until 70, and the second one is executed at
ten. -/
theorem frozenWindow_drained :
    ∃ claim claimed progress,
      claimDirtyLane (wholeBudgetQueue sampleDrain (by decide)) (freezesWindow 70).flagLocked
        sampleDrain.selectionLane sampleDrain.workerRef sampleDrain.now
        sampleDrain.claimTtlSeconds = .ok (some claim, claimed) ∧
      drainIterations (freezesWindow 70) sampleDrain claimed 1 = .running progress ∧
      LastFreezes sampleDrain progress ∧
      (calledItem (freezesWindow 70) sampleDrain 1 progress).map WorkItemRow.workItemId =
        some "second" ∧
      ¬ FreezeHonoured (freezesWindow 70) sampleDrain claimed := by
  have hdrained : ∃ claim claimed progress,
      claimDirtyLane (wholeBudgetQueue sampleDrain (by decide)) (freezesWindow 70).flagLocked
        sampleDrain.selectionLane sampleDrain.workerRef sampleDrain.now
        sampleDrain.claimTtlSeconds = .ok (some claim, claimed) ∧
      drainIterations (freezesWindow 70) sampleDrain claimed 1 = .running progress ∧
      LastFreezes sampleDrain progress ∧
      (calledItem (freezesWindow 70) sampleDrain 1 progress).map WorkItemRow.workItemId =
        some "second" :=
    ⟨_, _, _, rfl, rfl, ⟨_, rfl, rfl, rfl, 70, rfl, by decide⟩, rfl⟩
  obtain ⟨claim, claimed, progress, hclaim, hrun, hfreezes, hsecond⟩ := hdrained
  refine ⟨claim, claimed, progress, hclaim, hrun, hfreezes, hsecond, ?_⟩
  intro hhonoured
  obtain ⟨hnone, _⟩ := hhonoured 1 progress hrun hfreezes
  rw [hnone] at hsecond
  cases hsecond

end CrmBot.CapacityAdmissionQueue
