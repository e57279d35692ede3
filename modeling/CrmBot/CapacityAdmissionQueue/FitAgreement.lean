import CrmBot.CapacityAdmissionQueue.FreezeHonoured
import CrmBot.CapacityAdmissionQueue.ProjectionWriter
import CrmBot.CapacityAdmissionQueue.WindowLedger

/-! Whether the selection of a drain and the reservation agree on what fits.

The selection counts an unknown amount as one, the reservation counts it as no limit.
In a drain every amount is known, so there a row that is left behind is one that
another transaction had locked. -/

namespace CrmBot.CapacityAdmissionQueue

open Relational CrmBot.Python

/-- What an item takes of a counter: one request, and its required tokens. -/
def Counter.needed (item : WorkItemRow) : Counter → Nat
  | .minuteRequests | .dailyRequests => 1
  | .minuteTokens | .dailyTokens => item.requiredWindowTokens

/-- The drain counts a snapshot as frozen. -/
def WindowRow.isFrozen (snapshot : WindowRow) (now : Int) : Bool :=
  snapshot.frozenUntil.any fun frozen => decide (now < frozen)

/-- With this snapshot the drain goes on to select, and the conditions of the selection
on the budget hold of the item. -/
def fitsSelection (snapshot : WindowRow) (item : WorkItemRow) (now : Int) : Prop :=
  snapshot.isFrozen now = false ∧ (budgetFromSnapshot snapshot).admitsAnyWork = true ∧
    item.requiredWindowTokens ≤ (budgetFromSnapshot snapshot).maxRequiredWindowTokens

/-- The reservation of one request and the required tokens of the item is granted. -/
def grantsItem (windows : Table WindowRow.window) (window : WindowKey) (item : WorkItemRow)
    (now : Int) : Prop :=
  ∃ reservation after,
    tryReserve windows window 1 item.requiredWindowTokens now = .ok (some reservation, after)

/-- The window is frozen or a known counter has no room, or nothing is taken of any
unknown counter and the item takes one of it. -/
def UnknownCountsAsOne (snapshot : WindowRow) (item : WorkItemRow) (now : Int) : Prop :=
  snapshot.isFrozen now = true ∨
    (∃ counter : Counter, ∃ amount, counter.remaining snapshot = some amount ∧
      amount < counter.reserved snapshot + counter.needed item) ∨
    ∀ counter : Counter, counter.remaining snapshot = none →
      counter.reserved snapshot = 0 ∧ counter.needed item = 1

theorem Counter.needed_pos (item : WorkItemRow) (counter : Counter) : 0 < counter.needed item := by
  cases counter with
  | minuteRequests | dailyRequests => exact Nat.one_pos
  | minuteTokens | dailyTokens => exact item.requiredWindowTokens_pos

/-- An item fits when each counter, an unknown one counted as one, has room for it. -/
theorem fitsSelection_iff {snapshot : WindowRow} {item : WorkItemRow} {now : Int} :
    fitsSelection snapshot item now ↔ snapshot.isFrozen now = false ∧ ∀ counter : Counter,
      counter.reserved snapshot + counter.needed item ≤
        remainingOrOne (counter.remaining snapshot) := by
  have htokens := item.requiredWindowTokens_pos
  simp only [fitsSelection, WindowBudget.admitsAnyWork, WindowBudget.maxRequiredWindowTokens,
    Bool.and_eq_true, decide_eq_true_eq]
  simp only [budgetFromSnapshot]
  refine and_congr_right fun _ => ?_
  constructor
  · rintro ⟨⟨⟨⟨hrequests, hminute⟩, hdaily⟩, hday⟩, hle⟩ counter
    cases counter with
    | minuteRequests | dailyRequests | minuteTokens | dailyTokens =>
      simp only [Counter.reserved, Counter.needed, Counter.remaining]
      omega
  · intro h
    have hminuteRequests := h .minuteRequests
    have hminuteTokens := h .minuteTokens
    have hdailyRequests := h .dailyRequests
    have hdailyTokens := h .dailyTokens
    simp only [Counter.reserved, Counter.needed, Counter.remaining] at *
    omega

theorem hasRoom_iff {remaining : Option Nat} {reserved needed : Nat} :
    hasRoom remaining reserved needed = true ↔
      ∀ amount, remaining = some amount → reserved + needed ≤ amount := by
  cases remaining with
  | none => simp [hasRoom]
  | some amount => simp [hasRoom]

theorem forall_counter {property : Counter → Prop} :
    (∀ counter, property counter) ↔ ((property .minuteRequests ∧ property .minuteTokens) ∧
      property .dailyRequests) ∧ property .dailyTokens :=
  ⟨fun h => ⟨⟨⟨h _, h _⟩, h _⟩, h _⟩, fun ⟨⟨⟨hminute, htokens⟩, hdaily⟩, hday⟩ counter => by
    cases counter <;> assumption⟩

/-- A reservation is granted when each known counter has room. -/
theorem grantsItem_iff {windows : Table WindowRow.window} {window : WindowKey}
    {snapshot : WindowRow} {item : WorkItemRow} {now : Int}
    (hfind : windows.find? window = some snapshot) :
    grantsItem windows window item now ↔ snapshot.isFrozen now = false ∧
      ∀ counter : Counter, ∀ amount, counter.remaining snapshot = some amount →
        counter.reserved snapshot + counter.needed item ≤ amount := by
  have htokens : item.requiredWindowTokens ≠ 0 := item.requiredWindowTokens_pos.ne'
  have hfrozen : snapshot.frozenUntil.all (fun frozen => decide (frozen ≤ now)) = true ↔
      snapshot.isFrozen now = false := by
    cases hfreeze : snapshot.frozenUntil with
    | none => simp [WindowRow.isFrozen, hfreeze]
    | some frozen => simp [WindowRow.isFrozen, hfreeze]
  rw [forall_counter, ← hfrozen]
  simp only [Counter.remaining, Counter.reserved, Counter.needed, ← hasRoom_iff]
  unfold grantsItem tryReserve
  rw [if_neg one_ne_zero, if_neg htokens, hfind]
  dsimp only
  split
  · next hgranted =>
    simp only [Bool.and_eq_true] at hgranted
    obtain ⟨⟨⟨⟨hopen, hminute⟩, htokens⟩, hdaily⟩, hday⟩ := hgranted
    exact iff_of_true ⟨_, _, rfl⟩ ⟨hopen, ⟨⟨hminute, htokens⟩, hdaily⟩, hday⟩
  · next hdenied =>
    refine iff_of_false (by simp) ?_
    rintro ⟨hopen, ⟨⟨hminute, htokens⟩, hdaily⟩, hday⟩
    apply hdenied
    simp only [Bool.and_eq_true]
    exact ⟨⟨⟨⟨hopen, hminute⟩, htokens⟩, hdaily⟩, hday⟩

/-- The selection never counts more than the reservation. -/
theorem grantsItem_of_fitsSelection {windows : Table WindowRow.window} {window : WindowKey}
    {snapshot : WindowRow} {item : WorkItemRow} {now : Int}
    (hfind : windows.find? window = some snapshot) (h : fitsSelection snapshot item now) :
    grantsItem windows window item now := by
  obtain ⟨hopen, hroom⟩ := fitsSelection_iff.mp h
  refine (grantsItem_iff hfind).mpr ⟨hopen, fun counter amount hamount => ?_⟩
  have hcounter := hroom counter
  rwa [hamount] at hcounter

theorem fitsSelection_iff_grantsItem_iff {windows : Table WindowRow.window} {window : WindowKey}
    {snapshot : WindowRow} {item : WorkItemRow} {now : Int}
    (hfind : windows.find? window = some snapshot) :
    (fitsSelection snapshot item now ↔ grantsItem windows window item now) ↔
      UnknownCountsAsOne snapshot item now := by
  constructor
  · intro hagree
    by_cases hgrants : grantsItem windows window item now
    · refine .inr (.inr fun counter hunknown => ?_)
      have hroom := (fitsSelection_iff.mp (hagree.mpr hgrants)).2 counter
      have hneeded := counter.needed_pos item
      rw [hunknown] at hroom
      simp only [remainingOrOne, Option.getD_none] at hroom
      omega
    · cases hfrozen : snapshot.isFrozen now with
      | true => exact .inl hfrozen
      | false =>
        rw [grantsItem_iff hfind] at hgrants
        push Not at hgrants
        exact .inr (.inl (hgrants hfrozen))
  · intro hknown
    refine ⟨grantsItem_of_fitsSelection hfind, fun hgrants => ?_⟩
    obtain ⟨hopen, hroom⟩ := (grantsItem_iff hfind).mp hgrants
    refine fitsSelection_iff.mpr ⟨hopen, fun counter => ?_⟩
    rcases hknown with hfrozen | ⟨full, amount, hamount, hfull⟩ | hknown
    · rw [hopen] at hfrozen
      cases hfrozen
    · have hfree := hroom full amount hamount
      omega
    · cases hremaining : counter.remaining snapshot with
      | none =>
        obtain ⟨hreserved, hneeded⟩ := hknown counter hremaining
        rw [hreserved, hneeded]
        rfl
      | some amount => exact hroom counter amount hremaining

/-! A drain that stops with nothing selected. -/

variable {environment : DrainEnvironment} {command : DrainCommand}

/-- Nothing is selected when no unlocked row of the lane fits. -/
theorem selectCapacityAdmissionWorkItem_eq_none {workItems : Table WorkItemRow.workItemId}
    {locked : WorkItemRow → Bool} {lane : LaneKey} {budget : WindowBudget}
    (h : selectCapacityAdmissionWorkItem workItems locked lane budget = none) {item : WorkItemRow}
    (hmem : item ∈ workItems.rows) (hlane : item.lane = lane)
    (hstatus : item.status.isAdmissible = true) (hunlocked : locked item = false)
    (hadmits : budget.admitsAnyWork = true) :
    budget.maxRequiredWindowTokens < item.requiredWindowTokens := by
  have hunfit : ∀ status, item.status = status →
      selectFirstFit workItems locked lane status budget.maxRequiredWindowTokens = none →
      budget.maxRequiredWindowTokens < item.requiredWindowTokens := by
    intro status hitem hnone
    by_contra hle
    have hselected : item ∈ workItems.select
        (fun row => row.lane = lane && row.status = status &&
          decide (row.requiredWindowTokens ≤ budget.maxRequiredWindowTokens) && !locked row)
        WorkItemRow.before :=
      Table.mem_select.mpr ⟨hmem, by simp [hlane, hitem, hunlocked]; omega⟩
    rw [List.head?_eq_none_iff.mp hnone] at hselected
    cases hselected
  unfold selectCapacityAdmissionWorkItem at h
  rw [if_pos hadmits, Option.or_eq_none_iff] at h
  cases hitem : item.status with
  | retryableFailed => exact hunfit _ hitem h.1
  | ready => exact hunfit _ hitem h.2
  | leased | completed | terminalFailed | cancelled | splitSuperseded | userActionRequired =>
    rw [hitem] at hstatus
    cases hstatus

/-- What an iteration that stops and clears the flag has seen. -/
theorem drainIteration_clears {iteration : Nat} {progress after : DrainProgress}
    {reason : StopReason}
    (h : drainIteration environment command iteration progress = .stopped after reason true) :
    after.state = { progress.state with
        windows := (applyCapacityObservation progress.state.windows command.observation).2 } ∧
      selectCapacityAdmissionWorkItem after.state.workItems (environment.itemLocked iteration)
        command.selectionLane command.budget = none := by
  obtain ⟨createdAt, hsnapshot⟩ :=
    applyCapacityObservation_snapshot progress.state.windows command.observation
  unfold drainIteration at h
  split at h
  · split at h
    · cases h
    · cases h
    · dsimp only at h
      rw [hsnapshot, budgetFromSnapshot_observed, if_neg (by simp [observedRow])] at h
      split at h
      · next hselect =>
        cases h
        exact ⟨rfl, hselect⟩
      · next item hselect =>
        unfold executeSelected at h
        split at h
        · cases h
        · cases h
        · dsimp only at h
          split at h
          · cases h
          · cases h
  · cases h

/-- After such an iteration no unlocked row of the lane could have been reserved. -/
theorem not_grantsItem_of_clears {iteration : Nat} {progress after : DrainProgress}
    {reason : StopReason}
    (h : drainIteration environment command iteration progress = .stopped after reason true)
    {item : WorkItemRow} (hmem : item ∈ after.state.workItems.rows)
    (hlane : item.lane = command.selectionLane) (hstatus : item.status.isAdmissible = true)
    (hgrants : grantsItem after.state.windows command.window item command.now) :
    environment.itemLocked iteration item = true := by
  obtain ⟨hafter, hselect⟩ := drainIteration_clears h
  obtain ⟨createdAt, hfind⟩ :=
    find?_applyCapacityObservation progress.state.windows command.observation
  have hwindow : after.state.windows.find? command.window =
      some (observedRow command.observation createdAt) := by
    rw [hafter]
    exact hfind
  have hknown : UnknownCountsAsOne (observedRow command.observation createdAt) item command.now :=
    .inr (.inr fun counter hunknown => by cases counter <;> cases hunknown)
  have hagree := (fitsSelection_iff_grantsItem_iff hwindow).mpr hknown
  obtain ⟨_, hadmits, hfits⟩ := hagree.mpr hgrants
  rw [budgetFromSnapshot_observed] at hadmits hfits
  by_contra hunlocked
  have hunfit := selectCapacityAdmissionWorkItem_eq_none hselect hmem hlane hstatus
    (Bool.eq_false_iff.mpr hunlocked) hadmits
  omega

/-- A drain stops in one of its iterations. -/
theorem drainIterations_stopped {claimed : QueueState} {iterations : Nat} {after : DrainProgress}
    {reason : StopReason} {clearFlag : Bool}
    (h : drainIterations environment command claimed iterations =
      .stopped after reason clearFlag) :
    ∃ iteration progress, iteration < iterations ∧
      drainIterations environment command claimed iteration = .running progress ∧
      drainIteration environment command iteration progress =
        .stopped after reason clearFlag := by
  induction iterations with
  | zero => cases h
  | succ iterations ih =>
    cases hearlier : drainIterations environment command claimed iterations with
    | running progress =>
      refine ⟨iterations, progress, Nat.lt_succ_self _, hearlier, ?_⟩
      rw [drainIterations, hearlier] at h
      exact h
    | stopped last lastReason lastFlag =>
      rw [drainIterations, hearlier] at h
      cases h
      obtain ⟨iteration, progress, hlt, hrunning, hstopped⟩ := ih hearlier
      exact ⟨iteration, progress, Nat.lt_succ_of_lt hlt, hrunning, hstopped⟩
    | raised last fault =>
      rw [drainIterations, hearlier] at h
      cases h

/-- The selection agrees with the reservation exactly where an unknown amount may count
as one; and a row that a drain leaves behind, although it could have been reserved, was
locked when the drain stopped. -/
theorem selection_agrees_iff (windows : Table WindowRow.window) (snapshot : WindowRow)
    (hfind : windows.find? snapshot.window = some snapshot) (item : WorkItemRow) (now : Int)
    (environment : DrainEnvironment) (command : DrainCommand) (claimed : QueueState)
    (iterations : Nat) :
    ((fitsSelection snapshot item now ↔ grantsItem windows snapshot.window item now) ↔
        UnknownCountsAsOne snapshot item now) ∧
      ∀ after reason,
        drainIterations environment command claimed iterations = .stopped after reason true →
        ∃ iteration < iterations, ∀ left ∈ after.state.workItems.rows,
          left.lane = command.selectionLane → left.status.isAdmissible = true →
          grantsItem after.state.windows command.window left command.now →
          environment.itemLocked iteration left = true := by
  refine ⟨fitsSelection_iff_grantsItem_iff hfind, fun after reason hstopped => ?_⟩
  obtain ⟨iteration, progress, hlt, _, hclears⟩ := drainIterations_stopped hstopped
  exact ⟨iteration, hlt, fun left hmem hlane hstatus hgrants =>
    not_grantsItem_of_clears hclears hmem hlane hstatus hgrants⟩

/-! A window whose minute tokens are unknown. -/

def unknownTokens : WindowRow where
  window := sampleWindow
  remainingMinuteRequests := some 60
  remainingMinuteTokens := none
  remainingDailyRequests := some 1000
  remainingDailyTokens := some 500000
  reservedMinuteRequests := 0
  reservedMinuteTokens := 0
  reservedDailyRequests := 0
  reservedDailyTokens := 0
  minuteResetAt := none
  dailyResetAt := none
  frozenUntil := none
  createdAt := 0
  updatedAt := 0

def unknownWindows : Table WindowRow.window := Table.empty.insertOrIgnore unknownTokens

def twoTokenItem : WorkItemRow where
  workItemId := "item"
  lane := sampleDrain.selectionLane
  workflowRunId := none
  projectId := none
  status := .ready
  retryPlan := none
  inputTokens := 2
  artifactTokens := 0
  requiredWindowTokens := 2
  createdAt := 0
  updatedAt := 0
  inputTokens_pos := by decide
  required_ge := by decide

def twoTokenQueue : QueueState where
  workItems := Table.empty.insertOrIgnore twoTokenItem
  dirtyFlags := .empty
  laneClaims := .empty
  windows := unknownWindows

/-- The reservation grants two tokens of an unknown amount, the selection does not. -/
theorem twoTokens_disagree :
    unknownWindows.find? unknownTokens.window = some unknownTokens ∧
      ¬ (fitsSelection unknownTokens twoTokenItem 10 ↔
        grantsItem unknownWindows unknownTokens.window twoTokenItem 10) := by
  have hfind : unknownWindows.find? unknownTokens.window = some unknownTokens := by decide
  refine ⟨hfind, fun hagree => ?_⟩
  have hgrants : grantsItem unknownWindows unknownTokens.window twoTokenItem 10 :=
    (grantsItem_iff hfind).mpr ⟨rfl, by
      intro counter amount hamount
      cases counter <;> cases hamount <;> decide⟩
  obtain ⟨_, _, hfits⟩ := hagree.mpr hgrants
  exact absurd hfits (by decide)

/-- The agreement for the two tokens, and for a drain over their queue. -/
theorem twoTokens_agreement :
    ((fitsSelection unknownTokens twoTokenItem 10 ↔
        grantsItem unknownWindows unknownTokens.window twoTokenItem 10) ↔
        UnknownCountsAsOne unknownTokens twoTokenItem 10) ∧
      ∀ after reason,
        drainIterations (callsProvider sampleDrain) sampleDrain twoTokenQueue 2 =
          .stopped after reason true →
        ∃ iteration < 2, ∀ left ∈ after.state.workItems.rows,
          left.lane = sampleDrain.selectionLane → left.status.isAdmissible = true →
          grantsItem after.state.windows sampleDrain.window left sampleDrain.now →
          (callsProvider sampleDrain).itemLocked iteration left = true :=
  selection_agrees_iff unknownWindows unknownTokens (by decide) twoTokenItem 10
    (callsProvider sampleDrain) sampleDrain twoTokenQueue 2

end CrmBot.CapacityAdmissionQueue
