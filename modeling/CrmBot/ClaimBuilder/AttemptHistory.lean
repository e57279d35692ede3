import CrmBot.ClaimBuilder.PrepareCommand
import CrmBot.ClaimBuilder.PrepareLoop
import CrmBot.ExecutionRuntime.AttemptFrame
import CrmBot.Library.Delimited
import CrmBot.Library.Runs

/-! The attempts that histories of prepares, outcomes, recoveries and retries
leave behind.

`AttemptsSound` relates attempts, dispatches, items and reservations, `LogSound`
the command log. Both hold in every reachable state. -/

namespace CrmBot.ClaimBuilder

open Relational CrmBot.Python CrmBot.ExecutionRuntime CrmBot.LlmRuntime CrmBot.WorkflowRuntime
  FailingFold Delimited

/-! Attempt ids and execute keys -/

/-- The ids of workflow runs: texts of which none is blank, and none, followed by
the colon that ends it in a key, begins another. -/
structure RunIds (runs : Set String) : Prop where
  named : ∀ run ∈ runs, isBlank run = false
  separate : ∀ first ∈ runs, ∀ second ∈ runs,
    first = second ∨ Diverge (first ++ ":") (second ++ ":")

theorem RunIds.split {runs : Set String} (hruns : RunIds runs) {first second rest other : String}
    (hfirst : first ∈ runs) (hsecond : second ∈ runs)
    (h : first ++ ":" ++ rest = second ++ ":" ++ other) : first = second ∧ rest = other := by
  rcases hruns.separate first hfirst second hsecond with rfl | hdiverge
  · exact ⟨rfl, append_left_inj h⟩
  · exact absurd h (hdiverge.append_ne rest other)

theorem claimBuilderAttemptId_eq (run : String) (position : Nat) (item : String) :
    claimBuilderAttemptId run position item =
      "claim-builder-dispatch:" ++ (run ++ ":" ++ (toString position ++ ":" ++ item)) := by
  unfold claimBuilderAttemptId
  simp only [String.append_assoc]

theorem executeClaimBuilderSectionKey_eq (run attemptId : String) :
    executeClaimBuilderSectionKey run attemptId =
      "execute-claim-builder-section:" ++ (run ++ ":" ++ attemptId) := by
  unfold executeClaimBuilderSectionKey
  simp only [String.append_assoc]

/-- The run, the position and the item can be read back from an attempt id. -/
theorem claimBuilderAttemptId_inj {runs : Set String} (hruns : RunIds runs)
    {first second : String} {position other : Nat} {item item' : String}
    (hfirst : first ∈ runs) (hsecond : second ∈ runs)
    (h : claimBuilderAttemptId first position item = claimBuilderAttemptId second other item') :
    first = second ∧ position = other ∧ item = item' := by
  rw [claimBuilderAttemptId_eq, claimBuilderAttemptId_eq] at h
  obtain ⟨hrun, hcounted⟩ := hruns.split hfirst hsecond (append_left_inj h)
  exact ⟨hrun, counted_inj hcounted⟩

theorem executeClaimBuilderSectionKey_inj {runs : Set String} (hruns : RunIds runs)
    {first second attemptId other : String} (hfirst : first ∈ runs) (hsecond : second ∈ runs)
    (h : executeClaimBuilderSectionKey first attemptId =
      executeClaimBuilderSectionKey second other) : first = second ∧ attemptId = other := by
  rw [executeClaimBuilderSectionKey_eq, executeClaimBuilderSectionKey_eq] at h
  exact hruns.split hfirst hsecond (append_left_inj h)

/-- The front of the keys of the execute commands that prepares of a run append. -/
def executeFront (workflowRunId : String) : String :=
  executeClaimBuilderSectionKey workflowRunId "claim-builder-dispatch:"

/-- A command whose key and id are none that a prepare gives its execute commands. -/
def ForeignCommand (runs : Set String) (command : WorkflowCommand) : Prop :=
  ∀ run ∈ runs, Diverge (executeFront run) command.idempotencyKey ∧
    Diverge ("workflow-command:" ++ executeFront run) command.commandId

theorem executeKey_eq_front (run other : String) (position : Nat) (item : String) :
    ∃ rest, executeClaimBuilderSectionKey run (claimBuilderAttemptId other position item) =
      executeFront run ++ rest := by
  refine ⟨other ++ ":" ++ toString position ++ ":" ++ item, ?_⟩
  unfold executeFront executeClaimBuilderSectionKey claimBuilderAttemptId
  simp only [String.append_assoc]

/-! Invariants -/

/-- The dispatch was started by a prepare of the run at a position of its batch. -/
def StartedAt (run : String) (position : Nat) (row : DispatchRow) : Prop :=
  row.attemptId = claimBuilderAttemptId run position row.workItemId

/-- Every attempt has its dispatch, every dispatch comes from a prepare of one of
the runs or from other code, its item counts it, and only dispatched attempts
have reservations. -/
structure AttemptsSound (runs : Set String) (execution : ExecutionStore)
    (reservations : Table RouteReservation.attemptId) : Prop where
  dispatched : ∀ attempt ∈ execution.attempts.rows, ∃ row ∈ execution.dispatches.rows,
    row.attemptId = attempt.attemptId ∧ row.itemAttempt = attempt.itemAttempt
  origin : ∀ row ∈ execution.dispatches.rows,
    (∃ run ∈ runs, ∃ position, StartedAt run position row) ∨
      Diverge "claim-builder-dispatch:" row.attemptId
  counted : ∀ row ∈ execution.dispatches.rows, ∃ item,
    execution.workItems.find? row.workItemId = some item ∧
      row.attemptNumber ≤ item.item.attemptCount
  reserved : ∀ reservation ∈ reservations.rows,
    reservation.attemptId ∈ execution.dispatches.keys

/-- An execute command of a dispatched attempt. -/
def IsExecuteOf (run attemptId : String) (command : WorkflowCommand) : Prop :=
  command.commandType = executeClaimBuilderSection ∧
    command.idempotencyKey = executeClaimBuilderSectionKey run attemptId ∧
    command.commandId = "workflow-command:" ++ executeClaimBuilderSectionKey run attemptId

/-- A command that is foreign or executes a dispatched attempt. -/
def SoundCommand (runs : Set String) (execution : ExecutionStore) (command : WorkflowCommand) :
    Prop :=
  ForeignCommand runs command ∨
    ∃ run ∈ runs, ∃ attemptId ∈ execution.dispatches.keys, IsExecuteOf run attemptId command

def LogSound (runs : Set String) (execution : ExecutionStore) (log : CommandLog) : Prop :=
  ∀ command ∈ log.rows, SoundCommand runs execution command

theorem AttemptsSound.attemptId_mem {runs : Set String} {execution : ExecutionStore}
    {reservations : Table RouteReservation.attemptId}
    (h : AttemptsSound runs execution reservations) {attemptId : String}
    (hattempt : attemptId ∈ execution.attempts.keys) : attemptId ∈ execution.dispatches.keys := by
  obtain ⟨attempt, hmem, rfl⟩ := Table.mem_keys.mp hattempt
  obtain ⟨row, hrow, hid, _⟩ := h.dispatched attempt hmem
  exact Table.mem_keys.mpr ⟨row, hrow, hid⟩

/-- Operations that start no attempt keep the attempts sound. -/
theorem AttemptsSound.of_kept {runs : Set String} {before after : ExecutionStore}
    {reservations : Table RouteReservation.attemptId}
    (h : AttemptsSound runs before reservations) (hkept : AttemptsKept before after) :
    AttemptsSound runs after reservations := by
  refine ⟨?_, ?_, ?_, ?_⟩
  · intro attempt hattempt
    obtain ⟨old, hold, hid, hnumber⟩ := hkept.attempts attempt hattempt
    obtain ⟨row, hrow, hrowId, hrowNumber⟩ := h.dispatched old hold
    rw [hkept.dispatches]
    exact ⟨row, hrow, hrowId.trans hid, hrowNumber.trans hnumber⟩
  · rw [hkept.dispatches]
    exact h.origin
  · intro row hrow
    rw [hkept.dispatches] at hrow
    obtain ⟨item, hitem, hcount⟩ := h.counted row hrow
    obtain ⟨kept, hfound, hmore⟩ := hkept.items _ item hitem
    exact ⟨kept, hfound, hcount.trans hmore⟩
  · rw [hkept.dispatches]
    exact h.reserved

/-- So does any change of reservations that adds none for unknown attempts. -/
theorem AttemptsSound.of_reservations {runs : Set String} {execution : ExecutionStore}
    {before after : Table RouteReservation.attemptId} (h : AttemptsSound runs execution before)
    (hafter : ∀ reservation ∈ after.rows, reservation.attemptId ∈ before.keys ∨
      reservation.attemptId ∈ execution.dispatches.keys) :
    AttemptsSound runs execution after := by
  refine ⟨h.dispatched, h.origin, h.counted, ?_⟩
  intro reservation hreservation
  rcases hafter reservation hreservation with hold | hdispatched
  · obtain ⟨old, hmem, hid⟩ := Table.mem_keys.mp hold
    rw [← hid]
    exact h.reserved old hmem
  · exact hdispatched

/-- A saved attempt of an item that counts it: the rule for every start. -/
theorem AttemptsSound.of_saved {runs : Set String} {before leased after : ExecutionStore}
    {reservations : Table RouteReservation.attemptId} {record : DispatchRow} {startedAt : Int}
    (h : AttemptsSound runs before reservations) (hitems : ItemsKept before leased)
    (hattempts : leased.attempts = before.attempts)
    (hdispatches : leased.dispatches = before.dispatches)
    (hsaved : SavedAttempt leased record startedAt after)
    (hcount : ∃ item, leased.workItems.find? record.workItemId = some item ∧
      record.attemptNumber ≤ item.item.attemptCount)
    (horigin : (∃ run ∈ runs, ∃ position, StartedAt run position record) ∨
      Diverge "claim-builder-dispatch:" record.attemptId) :
    AttemptsSound runs after reservations := by
  have hrows := hsaved.dispatches
  rw [hdispatches] at hrows
  refine ⟨?_, ?_, ?_, ?_⟩
  · intro attempt hattempt
    rcases hsaved.attempts with ⟨hsame, hknown⟩ | hadded
    · have hkey := h.attemptId_mem (hattempts ▸ hknown)
      exact absurd (hdispatches ▸ hkey) hsaved.dispatch_new
    · rw [hadded, List.mem_append, List.mem_singleton, hattempts] at hattempt
      rw [hrows]
      rcases hattempt with hold | rfl
      · obtain ⟨row, hrow, hid⟩ := h.dispatched attempt hold
        exact ⟨row, List.mem_append_left _ hrow, hid⟩
      · exact ⟨record, List.mem_append_right _ List.mem_cons_self, rfl, rfl⟩
  · intro row hrow
    rw [hrows, List.mem_append, List.mem_singleton] at hrow
    rcases hrow with hold | rfl
    · exact h.origin row hold
    · exact horigin
  · intro row hrow
    rw [hrows, List.mem_append, List.mem_singleton] at hrow
    rw [hsaved.workItems]
    rcases hrow with hold | rfl
    · obtain ⟨item, hitem, hle⟩ := h.counted row hold
      obtain ⟨kept, hkept, hmore⟩ := hitems _ item hitem
      exact ⟨kept, hkept, hle.trans hmore⟩
    · exact hcount
  · intro reservation hreservation
    obtain ⟨row, hrow, hid⟩ := Table.mem_keys.mp (h.reserved reservation hreservation)
    rw [Table.mem_keys, hrows]
    exact ⟨row, List.mem_append_left _ hrow, hid⟩

end CrmBot.ClaimBuilder
