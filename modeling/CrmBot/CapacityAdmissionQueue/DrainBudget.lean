import CrmBot.CapacityAdmissionQueue.CapacityWindowDrain
import Mathlib.Algebra.GroupWithZero.Nat

/-! How much one drain can dispatch against the observation of its command.

Every iteration applies the observation of the command again, which forgets
what earlier iterations reserved. Each item therefore fits the observation on
its own, and nothing but `max_items` bounds the items together. -/

namespace CrmBot.CapacityAdmissionQueue

open Relational CrmBot.Python

/-- The budget that the selection sees in every iteration. -/
def DrainCommand.budget (command : DrainCommand) : WindowBudget :=
  { remainingRequests := command.remainingMinuteRequests
    remainingTokens := command.remainingMinuteTokens
    remainingDailyRequests := command.remainingDailyRequests
    remainingDailyTokens := command.remainingDailyTokens }

/-- The items whose strategy result names a dispatch attempt. -/
def dispatched (progress : DrainProgress) : List (WorkItemRow × StrategyResult) :=
  progress.executed.filter fun entry => entry.2.dispatchAttemptId.isSome

def dispatchedTokens (progress : DrainProgress) : Nat :=
  ((dispatched progress).map fun entry => entry.1.requiredWindowTokens).sum

/-- Unless a strategy result reported a newer observation, the dispatched items
together stay within the observation of the command. -/
def WithinObservation (command : DrainCommand) (progress : DrainProgress) : Prop :=
  (∀ entry ∈ progress.executed, entry.2.capacityObservationRecorded = false) →
    (dispatched progress).length ≤ command.remainingMinuteRequests ∧
    (dispatched progress).length ≤ command.remainingDailyRequests ∧
    dispatchedTokens progress ≤ command.remainingMinuteTokens ∧
    dispatchedTokens progress ≤ command.remainingDailyTokens

/-! One iteration -/

theorem applyCapacityObservation_snapshot (windows : Table WindowRow.window)
    (observation : CapacityObservation) :
    ∃ createdAt, (applyCapacityObservation windows observation).1 =
      observedRow observation createdAt := by
  unfold applyCapacityObservation
  split
  · exact ⟨_, rfl⟩
  · exact ⟨_, rfl⟩

/-- Whatever was reserved before, the selection sees the observed amounts. -/
theorem budgetFromSnapshot_observed (command : DrainCommand) (createdAt : Int) :
    budgetFromSnapshot (observedRow command.observation createdAt) = command.budget := rfl

/-- An item that fits the observation on its own is always granted. -/
theorem tryReserve_observed {command : DrainCommand} (windows : Table WindowRow.window)
    {tokens : Nat} (hpos : 0 < tokens) (hrequests : 0 < command.remainingMinuteRequests)
    (hdaily : 0 < command.remainingDailyRequests) (hminute : tokens ≤ command.remainingMinuteTokens)
    (hday : tokens ≤ command.remainingDailyTokens) :
    ∃ reserved, tryReserve (applyCapacityObservation windows command.observation).2 command.window
      1 tokens command.now = .ok (some ⟨command.window, 1, tokens, command.now⟩, reserved) := by
  obtain ⟨createdAt, hfind⟩ := find?_applyCapacityObservation windows command.observation
  have hwindow : command.observation.window = command.window := rfl
  have htokens : tokens ≠ 0 := by omega
  rw [hwindow] at hfind
  have hminuteRequests : hasRoom (some command.remainingMinuteRequests) 0 1 = true := by
    simp only [hasRoom, decide_eq_true_eq]
    omega
  have hdailyRequests : hasRoom (some command.remainingDailyRequests) 0 1 = true := by
    simp only [hasRoom, decide_eq_true_eq]
    omega
  have hminuteTokens : hasRoom (some command.remainingMinuteTokens) 0 tokens = true := by
    simp only [hasRoom, decide_eq_true_eq]
    omega
  have hdailyTokens : hasRoom (some command.remainingDailyTokens) 0 tokens = true := by
    simp only [hasRoom, decide_eq_true_eq]
    omega
  unfold tryReserve
  rw [if_neg one_ne_zero, if_neg htokens, hfind]
  simp only [observedRow, DrainCommand.observation, hminuteRequests, hdailyRequests,
    hminuteTokens, hdailyTokens, Option.all_none, Bool.and_true, if_true]
  exact ⟨_, rfl⟩

/-- An iteration that goes on has executed one more item, which was wanted and
fits the observation on its own. -/
theorem drainIteration_running {environment : DrainEnvironment} {command : DrainCommand}
    {iteration : Nat} {progress next : DrainProgress}
    (h : drainIteration environment command iteration progress = .running next) :
    command.wantsMore progress.drainedWorkItemIds.length = true ∧ ∃ item result,
      next.executed = progress.executed ++ [(item, result)] ∧
      next.drainedWorkItemIds = progress.drainedWorkItemIds ++ [item.workItemId] ∧
      0 < command.remainingMinuteRequests ∧ 0 < command.remainingDailyRequests ∧
      item.requiredWindowTokens ≤ command.remainingMinuteTokens ∧
      item.requiredWindowTokens ≤ command.remainingDailyTokens := by
  obtain ⟨createdAt, hsnapshot⟩ :=
    applyCapacityObservation_snapshot progress.state.windows command.observation
  unfold drainIteration at h
  split at h
  · next hmore =>
    refine ⟨hmore, ?_⟩
    split at h
    · simp at h
    · simp at h
    · simp only [hsnapshot, budgetFromSnapshot_observed] at h
      split at h
      · simp at h
      · split at h
        · simp at h
        · next item hselect =>
          obtain ⟨_, _, hrequests, hdaily, hminute, hday⟩ :=
            selectCapacityAdmissionWorkItem_fits hselect
          unfold executeSelected at h
          split at h
          · simp at h
          · simp at h
          · dsimp only at h
            split at h
            · simp at h
            · next result _ =>
              simp only [DrainOutcome.running.injEq] at h
              subst h
              exact ⟨item, result, rfl, rfl, hrequests, hdaily, hminute, hday⟩
  · simp at h

/-- An iteration that ends the loop has executed nothing. -/
theorem drainIteration_finished {environment : DrainEnvironment} {command : DrainCommand}
    {iteration : Nat} {progress : DrainProgress}
    (h : ∀ next, drainIteration environment command iteration progress ≠ .running next) :
    (drainIteration environment command iteration progress).progress.executed = progress.executed ∧
      (drainIteration environment command iteration progress).progress.drainedWorkItemIds =
        progress.drainedWorkItemIds := by
  unfold drainIteration at h ⊢
  split
  · next hmore =>
    simp only [hmore, if_true] at h
    split
    · exact ⟨rfl, rfl⟩
    · exact ⟨rfl, rfl⟩
    · next hpause =>
      simp only [hpause] at h
      dsimp only at h ⊢
      split
      · exact ⟨rfl, rfl⟩
      · next hfrozen =>
        simp only [hfrozen] at h
        split
        · exact ⟨rfl, rfl⟩
        · next item hselect =>
          simp only [hselect] at h
          unfold executeSelected at h ⊢
          split
          · exact ⟨rfl, rfl⟩
          · exact ⟨rfl, rfl⟩
          · next reservation windows hreserve =>
            simp only [hreserve] at h
            dsimp only at h ⊢
            split
            · exact ⟨rfl, rfl⟩
            · next result hresult =>
              simp only [hresult] at h
              exact absurd rfl (h _)
  · exact ⟨rfl, rfl⟩

/-! Runs -/

/-- What every run keeps: the executed items are the drained ones, each fits the
observation on its own, and `max_items` is not exceeded. -/
structure EachItemFits (command : DrainCommand) (progress : DrainProgress) : Prop where
  executed_length : progress.executed.length = progress.drainedWorkItemIds.length
  item_fits : ∀ entry ∈ progress.executed,
    0 < command.remainingMinuteRequests ∧ 0 < command.remainingDailyRequests ∧
      entry.1.requiredWindowTokens ≤ command.remainingMinuteTokens ∧
      entry.1.requiredWindowTokens ≤ command.remainingDailyTokens
  within_max : ∀ limit, command.maxItems = some limit →
    (progress.executed.length : Int) ≤ max limit 0

theorem eachItemFits_step {environment : DrainEnvironment} {command : DrainCommand}
    {iteration : Nat} {progress next : DrainProgress} (hinv : EachItemFits command progress)
    (h : drainIteration environment command iteration progress = .running next) :
    EachItemFits command next := by
  obtain ⟨hmore, item, result, hexecuted, hdrained, hrequests, hdaily, hminute, hday⟩ :=
    drainIteration_running h
  refine ⟨?_, ?_, ?_⟩
  · rw [hexecuted, hdrained, List.length_append, List.length_append, hinv.executed_length]
    rfl
  · intro entry hentry
    rw [hexecuted, List.mem_append, List.mem_singleton] at hentry
    rcases hentry with hold | rfl
    · exact hinv.item_fits entry hold
    · exact ⟨hrequests, hdaily, hminute, hday⟩
  · intro limit hlimit
    simp only [DrainCommand.wantsMore, hlimit, Option.all_some, decide_eq_true_eq] at hmore
    rw [hexecuted, List.length_append, List.length_singleton, hinv.executed_length]
    omega

theorem eachItemFits_iterations (environment : DrainEnvironment) (command : DrainCommand)
    (claimed : QueueState) (iterations : Nat) :
    EachItemFits command (drainIterations environment command claimed iterations).progress := by
  induction iterations with
  | zero =>
    refine ⟨rfl, fun entry hentry => absurd hentry List.not_mem_nil, ?_⟩
    intro limit _
    simp only [drainIterations, DrainOutcome.progress, List.length_nil]
    omega
  | succ iteration ih =>
    unfold drainIterations
    split
    · next progress hrunning =>
      rw [hrunning] at ih
      by_cases hnext : ∃ next, drainIteration environment command iteration progress = .running next
      · obtain ⟨next, hnext⟩ := hnext
        rw [hnext]
        exact eachItemFits_step ih hnext
      · obtain ⟨hsame, hdrained⟩ := drainIteration_finished fun next h => hnext ⟨next, h⟩
        refine ⟨?_, ?_, ?_⟩
        · rw [hsame, hdrained]
          exact ih.executed_length
        · rw [hsame]
          exact ih.item_fits
        · rw [hsame]
          exact ih.within_max
    · exact ih

/-- The drain is limited to one item, or the observation admits nothing. -/
def AtMostOneItem (command : DrainCommand) : Prop :=
  (∃ limit, command.maxItems = some limit ∧ limit ≤ 1) ∨ command.budget.admitsAnyWork = false

theorem withinObservation_of_atMostOneItem {command : DrainCommand} {progress : DrainProgress}
    (hinv : EachItemFits command progress) (hone : AtMostOneItem command) :
    WithinObservation command progress := by
  intro _
  have hshort : progress.executed = [] ∨ ∃ entry, progress.executed = [entry] := by
    rcases hone with ⟨limit, hlimit, hle⟩ | hnone
    · have hlength := hinv.within_max limit hlimit
      have hle : progress.executed.length ≤ 1 := by omega
      cases hexecuted : progress.executed with
      | nil => exact .inl rfl
      | cons entry rest =>
        rw [hexecuted, List.length_cons] at hle
        have hrest : rest = [] := List.length_eq_zero_iff.mp (by omega)
        exact .inr ⟨entry, by rw [hrest]⟩
    · refine .inl (List.eq_nil_iff_forall_not_mem.mpr fun entry hentry => ?_)
      obtain ⟨hrequests, hdaily, hminute, hday⟩ := hinv.item_fits entry hentry
      have hpos := entry.1.requiredWindowTokens_pos
      have hadmits : command.budget.admitsAnyWork = true := by
        simp only [WindowBudget.admitsAnyWork, Bool.and_eq_true, decide_eq_true_eq]
        exact ⟨⟨⟨hrequests, Nat.lt_of_lt_of_le hpos hminute⟩, hdaily⟩,
          Nat.lt_of_lt_of_le hpos hday⟩
      rw [hadmits] at hnone
      simp at hnone
  rcases hshort with hnil | ⟨entry, hentry⟩
  · simp [dispatchedTokens, dispatched, hnil]
  · obtain ⟨hrequests, hdaily, hminute, hday⟩ := hinv.item_fits entry (by simp [hentry])
    cases hdispatch : entry.2.dispatchAttemptId.isSome with
    | true =>
      simp only [dispatchedTokens, dispatched, hentry, List.filter_singleton, hdispatch, cond_true,
        List.length_singleton, List.map_singleton, List.sum_singleton]
      exact ⟨hrequests, hdaily, hminute, hday⟩
    | false =>
      simp [dispatchedTokens, dispatched, hentry, hdispatch]

/-! Two items of the whole budget -/

/-- A wanted, unpaused iteration with a selected item executes it. -/
theorem drainIteration_selected (environment : DrainEnvironment) {command : DrainCommand}
    {iteration : Nat} {progress : DrainProgress} {item : WorkItemRow}
    (hmore : command.wantsMore progress.drainedWorkItemIds.length = true)
    (hpause : environment.shouldPause iteration progress.state = .ok false)
    (hselect : selectCapacityAdmissionWorkItem progress.state.workItems
      (environment.itemLocked iteration) command.selectionLane command.budget = some item) :
    ∃ windows reservation, drainIteration environment command iteration progress =
      executeSelected environment command iteration
        { progress with state := { progress.state with windows := windows } } item ∧
      ∃ reserved, tryReserve windows command.window 1 item.requiredWindowTokens command.now =
        .ok (some reservation, reserved) := by
  obtain ⟨_, _, hrequests, hdaily, hminute, hday⟩ := selectCapacityAdmissionWorkItem_fits hselect
  obtain ⟨createdAt, hsnapshot⟩ :=
    applyCapacityObservation_snapshot progress.state.windows command.observation
  obtain ⟨reserved, hreserve⟩ := tryReserve_observed progress.state.windows
    item.requiredWindowTokens_pos hrequests hdaily hminute hday
  refine ⟨_, _, ?_, reserved, hreserve⟩
  unfold drainIteration
  simp only [hmore, if_true, hpause, hsnapshot, budgetFromSnapshot_observed, hselect]
  rw [if_neg (by simp [observedRow])]

section WholeBudget

variable (command : DrainCommand) (hpos : 0 < command.budget.maxRequiredWindowTokens)

/-- A ready item of the lane that needs the whole observed budget. -/
def wholeBudgetItem (workItemId : String) (updatedAt : Int) (status : ProjectionStatus) :
    WorkItemRow :=
  { workItemId := workItemId, lane := command.selectionLane, workflowRunId := none
    projectId := none, status := status, retryPlan := none
    inputTokens := command.budget.maxRequiredWindowTokens, artifactTokens := 0
    requiredWindowTokens := command.budget.maxRequiredWindowTokens, createdAt := 0
    updatedAt := updatedAt, inputTokens_pos := hpos, required_ge := by omega }

/-- Two such items in a lane that is marked dirty. -/
def wholeBudgetQueue : QueueState where
  workItems :=
    { rows := [wholeBudgetItem command hpos "first" 0 .ready,
        wholeBudgetItem command hpos "second" 1 .ready]
      key_nodup := by simp [wholeBudgetItem] }
  dirtyFlags :=
    { rows := [{ laneId := laneId command.selectionLane, lane := command.selectionLane
                 dirtyReason := "ready", dirtyCount := 1, firstMarkedAt := 0, lastMarkedAt := 0
                 claimedBy := none, claimedUntil := none }]
      key_nodup := by simp }
  laneClaims := .empty
  windows := .empty

theorem attempt_ne_empty : some "attempt" ≠ some "" := by decide

/-- A strategy that calls the provider for every item without an observation,
and freezes the window no longer than now. -/
def callsProvider : DrainEnvironment where
  flagLocked _ := false
  itemLocked _ _ := false
  shouldPause _ _ := .ok false
  executeAdmittedWorkItem _ state workItemId _ :=
    if hid : workItemId = "" then (state, .error (.valueError "work_item_id must be non-empty"))
    else (state, .ok
      { workItemId := workItemId, dispatchAttemptId := some "attempt", providerCallStarted := true
        capacityObservationRecorded := false, freezeUntil := some command.now
        workItemId_ne := hid, dispatchAttemptId_ne := attempt_ne_empty
        observation_started := fun _ => Eq.refl true
        started_observed_or_frozen := fun _ _ => Eq.refl true })

theorem wholeBudget_select_first (hadmits : command.budget.admitsAnyWork = true) :
    selectCapacityAdmissionWorkItem (wholeBudgetQueue command hpos).workItems
      (fun _ => false) command.selectionLane command.budget =
        some (wholeBudgetItem command hpos "first" 0 .ready) := by
  simp [selectCapacityAdmissionWorkItem, hadmits, selectFirstFit, Table.select, wholeBudgetQueue,
    wholeBudgetItem, WorkItemRow.before]

/-- Leasing the first item leaves the second one selectable. -/
theorem wholeBudget_select_second (hadmits : command.budget.admitsAnyWork = true)
    (state : QueueState) (hitems : state.workItems = (wholeBudgetQueue command hpos).workItems) :
    selectCapacityAdmissionWorkItem
      (syncProjectionLifecycle state (leasedUpdate "first" command.now)).workItems
      (fun _ => false) command.selectionLane command.budget =
        some (wholeBudgetItem command hpos "second" 1 .ready) := by
  have hfind : state.workItems.find? "first" =
      some (wholeBudgetItem command hpos "first" 0 .ready) := by
    rw [hitems]
    simp [Table.find?, wholeBudgetQueue, wholeBudgetItem]
  have hrows : (syncProjectionLifecycle state (leasedUpdate "first" command.now)).workItems.rows =
      [wholeBudgetItem command hpos "first" command.now .leased,
        wholeBudgetItem command hpos "second" 1 .ready] := by
    rw [syncProjectionLifecycle_rows hfind (by simp [wholeBudgetItem, leasedUpdate]), hitems]
    simp [wholeBudgetQueue, wholeBudgetItem, leasedUpdate]
  simp [selectCapacityAdmissionWorkItem, hadmits, selectFirstFit, Table.select, hrows,
    wholeBudgetItem]

/-- One iteration of `callsProvider` on a selected item. -/
theorem callsProvider_iteration (iteration : Nat) (progress : DrainProgress) {item : WorkItemRow}
    (hid : item.workItemId ≠ "")
    (hmore : command.wantsMore progress.drainedWorkItemIds.length = true)
    (hselect : selectCapacityAdmissionWorkItem progress.state.workItems (fun _ => false)
      command.selectionLane command.budget = some item) :
    ∃ next windows result,
      drainIteration (callsProvider command) command iteration progress = .running next ∧
      next.state.workItems = (syncProjectionLifecycle { progress.state with windows := windows }
        (leasedUpdate item.workItemId command.now)).workItems ∧
      next.drainedWorkItemIds = progress.drainedWorkItemIds ++ [item.workItemId] ∧
      next.executed = progress.executed ++ [(item, result)] ∧
      result.dispatchAttemptId.isSome = true ∧ result.capacityObservationRecorded = false := by
  obtain ⟨windows, reservation, hiteration, reserved, hreserve⟩ :=
    drainIteration_selected (callsProvider command) hmore rfl hselect
  rw [hiteration]
  unfold executeSelected
  simp only [hreserve, callsProvider, hid, dif_neg, not_false_eq_true]
  exact ⟨_, _, _, rfl, rfl, rfl, rfl, rfl, rfl⟩

/-- The dirty lane is claimed, which leaves the work items alone. -/
theorem wholeBudget_claimed (hclaim : 0 < command.claimTtlSeconds) :
    ∃ claim claimed, claimDirtyLane (wholeBudgetQueue command hpos)
        (callsProvider command).flagLocked command.selectionLane command.workerRef command.now
        command.claimTtlSeconds = .ok (some claim, claimed) ∧
      claimed.workItems = (wholeBudgetQueue command hpos).workItems := by
  have hnot : ¬ command.claimTtlSeconds ≤ 0 := by omega
  simp only [claimDirtyLane, hnot, if_false, wholeBudgetQueue, callsProvider, List.any_cons,
    decide_true, Option.isNone_none, Bool.true_or, Bool.not_false, Bool.and_true, if_true]
  exact ⟨_, _, rfl, rfl⟩

end WholeBudget

/-- A command that may take two items of its whole budget can dispatch both. -/
theorem wholeBudget_exceeded {command : DrainCommand}
    (hadmits : command.budget.admitsAnyWork = true)
    (hmax : ∀ limit, command.maxItems = some limit → 1 < limit)
    (hpos : 0 < command.budget.maxRequiredWindowTokens) (claimed : QueueState)
    (hitems : claimed.workItems = (wholeBudgetQueue command hpos).workItems) :
    ¬ WithinObservation command
      (drainIterations (callsProvider command) command claimed 2).progress := by
  have hwants : ∀ drained : Nat, drained ≤ 1 → command.wantsMore drained = true := by
    intro drained hdrained
    unfold DrainCommand.wantsMore
    cases hlimit : command.maxItems with
    | none => rfl
    | some limit =>
      have htwo := hmax limit hlimit
      simp only [Option.all_some, decide_eq_true_eq]
      omega
  have hselectFirst := wholeBudget_select_first command hpos hadmits
  rw [← hitems] at hselectFirst
  let start : DrainProgress :=
    { state := claimed, drainedWorkItemIds := [], attemptIds := [], providerCallCount := 0
      executed := [] }
  obtain ⟨first, windows, firstResult, hfirst, hfirstItems, hfirstIds, hfirstExecuted,
      hfirstDispatched, hfirstObserved⟩ :=
    callsProvider_iteration command 0 start (by simp [wholeBudgetItem]) (hwants 0 (by omega))
      hselectFirst
  have hselectSecond := wholeBudget_select_second command hpos hadmits
    { claimed with windows := windows } hitems
  have hfirstState : first.state.workItems = (syncProjectionLifecycle
      { claimed with windows := windows } (leasedUpdate "first" command.now)).workItems :=
    hfirstItems
  rw [← hfirstState] at hselectSecond
  obtain ⟨second, _, secondResult, hsecond, _, _, hsecondExecuted, hsecondDispatched,
      hsecondObserved⟩ :=
    callsProvider_iteration command 1 first (by simp [wholeBudgetItem])
      (hwants _ (by rw [hfirstIds]; simp [start])) hselectSecond
  have hrun : drainIterations (callsProvider command) command claimed 2 = .running second := by
    simp only [drainIterations]
    rw [hfirst]
    exact hsecond
  have hexecuted : second.executed = [(wholeBudgetItem command hpos "first" 0 .ready, firstResult),
      (wholeBudgetItem command hpos "second" 1 .ready, secondResult)] := by
    rw [hsecondExecuted, hfirstExecuted]
    rfl
  intro hwithin
  rw [hrun] at hwithin
  obtain ⟨_, _, hminute, hday⟩ := hwithin (by
    intro entry hentry
    simp only [DrainOutcome.progress, hexecuted, List.mem_cons, List.not_mem_nil,
      or_false] at hentry
    rcases hentry with rfl | rfl
    · exact hfirstObserved
    · exact hsecondObserved)
  have htokens : dispatchedTokens second =
      command.budget.maxRequiredWindowTokens + command.budget.maxRequiredWindowTokens := by
    simp [dispatchedTokens, dispatched, hexecuted, hfirstDispatched, hsecondDispatched,
      wholeBudgetItem]
  simp only [DrainOutcome.progress, htokens] at hminute hday
  have hmin : command.budget.maxRequiredWindowTokens = min command.remainingMinuteTokens
    command.remainingDailyTokens := rfl
  omega

theorem maxRequiredWindowTokens_pos {budget : WindowBudget}
    (hadmits : budget.admitsAnyWork = true) :
    0 < budget.maxRequiredWindowTokens := by
  simp only [WindowBudget.admitsAnyWork, Bool.and_eq_true, decide_eq_true_eq] at hadmits
  unfold WindowBudget.maxRequiredWindowTokens
  omega

/-- A drain stays within the observation of its command, for every queue, every
environment and every number of iterations, exactly when the lane claim is
refused, the drain is limited to one item or the observation admits nothing. -/
theorem drain_within_observation_iff (command : DrainCommand) :
    (∀ (environment : DrainEnvironment) (state claimed : QueueState) (claim : LaneClaimRow)
        (iterations : Nat),
      claimDirtyLane state environment.flagLocked command.selectionLane command.workerRef
        command.now command.claimTtlSeconds = .ok (some claim, claimed) →
      WithinObservation command
        (drainIterations environment command claimed iterations).progress) ↔
      command.claimTtlSeconds ≤ 0 ∨ AtMostOneItem command := by
  constructor
  · intro hall
    by_contra hnot
    obtain ⟨hclaim, hmany⟩ := not_or.mp hnot
    obtain ⟨hmax, hadmits⟩ := not_or.mp hmany
    rw [Bool.not_eq_false] at hadmits
    have hpos := maxRequiredWindowTokens_pos hadmits
    obtain ⟨claim, claimed, hclaimed, hitems⟩ :=
      wholeBudget_claimed command hpos (by omega)
    refine wholeBudget_exceeded hadmits ?_ hpos claimed hitems
      (hall (callsProvider command) _ claimed claim 2 hclaimed)
    intro limit hlimit
    by_contra hle
    exact hmax ⟨limit, hlimit, by omega⟩
  · rintro (hrefused | hone) environment state claimed claim iterations hclaimed
    · unfold claimDirtyLane at hclaimed
      rw [if_pos hrefused] at hclaimed
      simp at hclaimed
    · exact withinObservation_of_atMostOneItem
        (eachItemFits_iterations environment command claimed iterations) hone

def sampleDrain : DrainCommand :=
  { workflowRunId := some "workflow"
    selectionLane :=
      { workKind := "section", provider := "groq", modelRef := "qwen", accountRef := none }
    executionAccountRef := "account", workerRef := "worker", now := 10
    remainingMinuteRequests := 60, remainingMinuteTokens := 6000, remainingDailyRequests := 1000
    remainingDailyTokens := 500000, maxItems := none, claimTtlSeconds := 90 }

theorem sampleDrain_budget_pos : 0 < sampleDrain.budget.maxRequiredWindowTokens := by decide

/-- Two items of 6000 tokens can be dispatched into a window of 6000 tokens. -/
theorem sampleDrain_exceeds :
    ∃ (environment : DrainEnvironment) (state claimed : QueueState) (claim : LaneClaimRow),
      claimDirtyLane state environment.flagLocked sampleDrain.selectionLane sampleDrain.workerRef
        sampleDrain.now sampleDrain.claimTtlSeconds = .ok (some claim, claimed) ∧
      ¬ WithinObservation sampleDrain
        (drainIterations environment sampleDrain claimed 2).progress := by
  have hpos := sampleDrain_budget_pos
  obtain ⟨claim, claimed, hclaimed, hitems⟩ := wholeBudget_claimed sampleDrain hpos (by decide)
  refine ⟨callsProvider sampleDrain, wholeBudgetQueue sampleDrain hpos, claimed, claim,
    hclaimed, ?_⟩
  exact wholeBudget_exceeded (by decide) (by simp [sampleDrain]) hpos claimed hitems

end CrmBot.CapacityAdmissionQueue
