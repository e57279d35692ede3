import CrmBot.ExecutionRuntime.StoreRuns
import CrmBot.Library.Runs

/-! Which worker may record and complete: the leases of one item over a run.

An outcome carries the attempt number of its lease, which no two leases share. A
completion carries the lease token alone. -/

namespace CrmBot.ExecutionRuntime

open Relational CrmBot.Python FailingFold Runs

/-- A lease as its worker knows it. -/
structure Lease where
  leaseToken : String
  attemptNumber : Nat
  attemptNumber_pos : 0 < attemptNumber

/-- What the workers of an item do; a worker acts under the lease it was granted,
which is given by its place among the leases of the item. -/
inductive WorkerStep
  | leaseDue (locked : String → Bool) (workKind worker leaseToken : String)
      (leaseExpiresAt now : Int)
  | leaseById (locked : String → Bool) (workKind target worker leaseToken : String)
      (leaseExpiresAt now : Int)
  | start (dispatch : DispatchRow) (startedAt : Int)
  | recover (locked : String → Bool) (now : Int) (limit : Nat)
  | supersede (target : String) (now : Int)
  | record (lease : Nat) (outcome : CheckedOutcomeRecord) (now : Int)
  | complete (lease : Nat) (now : Int)

/-- The leases the item was granted so far, and the current one: the latest, until
it is recovered. -/
structure Fencing where
  store : ExecutionStore
  leases : List Lease
  current : Option Nat

/-- The outcome of a worker for its own lease. -/
def CheckedOutcomeRecord.under (outcome : CheckedOutcomeRecord) (workItemId : String)
    (lease : Lease) : CheckedOutcomeRecord :=
  { outcome with
    workItemId := workItemId, attemptNumber := lease.attemptNumber
    leaseToken := lease.leaseToken, attemptNumber_pos := lease.attemptNumber_pos }

def WorkerStep.operation (workItemId : String) (leases : List Lease) :
    WorkerStep → Option StoreOperation
  | .leaseDue locked workKind worker leaseToken leaseExpiresAt now =>
    some (.leaseDue locked workKind worker leaseToken leaseExpiresAt now)
  | .leaseById locked workKind target worker leaseToken leaseExpiresAt now =>
    some (.leaseById locked workKind target worker leaseToken leaseExpiresAt now)
  | .start dispatch startedAt => some (.start dispatch startedAt)
  | .recover locked now limit => some (.recover locked now limit)
  | .supersede target now => some (.supersede target now)
  | .record lease outcome now =>
    leases[lease]?.map fun held => .record (outcome.under workItemId held) now
  | .complete lease now => leases[lease]?.map fun held => .complete workItemId held.leaseToken now

/-- The leases and the current one after a transition of the item. -/
def Fencing.after (state : Fencing) (item : WorkItem) (store : ExecutionStore) :
    Option Transition → Fencing
  | some (.leaseReady _ leaseToken _ _) =>
    { store
      leases := state.leases ++ [⟨leaseToken, item.attemptCount + 1, Nat.succ_pos _⟩]
      current := some state.leases.length }
  | some (.reclaimExpiredLease _) => { state with store, current := none }
  | _ => { state with store }

def performWorker (workItemId : String) (state : Fencing) (step : WorkerStep) : Fencing :=
  match step.operation workItemId state.leases, state.store.workItems.find? workItemId with
  | some operation, some row =>
    state.after row.item (performStore state.store operation)
      (operation.transition state.store workItemId)
  | some operation, none => { state with store := performStore state.store operation }
  | none, _ => state

/-- The call changes the store and returns. -/
def StoreOperation.Accepted (store : ExecutionStore) : StoreOperation → Prop
  | .record outcome now => ∃ result,
    recordAttemptOutcome store outcome.toAttemptOutcomeRecord now = .ok result
  | .complete target leaseToken now => ∃ result,
    completeWorkItemAfterDomainApply store target leaseToken now = .ok result
  | _ => False

/-- A record or complete call is accepted only from the worker of the current
lease. -/
def IsFenced (workItemId : String) (state : Fencing) (step : WorkerStep) : Prop :=
  ∀ operation ∈ step.operation workItemId state.leases, operation.Accepted state.store →
    ∃ lease, state.current = some lease ∧
      ((∃ outcome now, step = .record lease outcome now) ∨ ∃ now, step = .complete lease now)

/-- A lease of the item is granted under a token that none of its leases had. -/
def FreshToken (workItemId : String) (state : Fencing) (step : WorkerStep) : Prop :=
  ∀ operation ∈ step.operation workItemId state.leases,
    ∀ worker leaseToken leaseExpiresAt now,
      operation.transition state.store workItemId =
          some (.leaseReady worker leaseToken leaseExpiresAt now) →
        ∀ lease ∈ state.leases, lease.leaseToken ≠ leaseToken

/-- The leases of the item are told apart by their tokens and by their numbers, and
the row shows the current one. -/
structure LeasesApart (workItemId : String) (state : Fencing) (row : WorkItemRow) : Prop where
  row_eq : state.store.workItems.find? workItemId = some row
  shows : row.item.status = .leased → ∃ index lease, state.current = some index ∧
    state.leases[index]? = some lease ∧ row.item.leaseToken = some lease.leaseToken ∧
      row.item.attemptCount = lease.attemptNumber
  numbers_le : ∀ lease ∈ state.leases, lease.attemptNumber ≤ row.item.attemptCount
  numbers_nodup : (state.leases.map Lease.attemptNumber).Nodup
  tokens_nodup : (state.leases.map Lease.leaseToken).Nodup

variable {workItemId : String} {state : Fencing} {row : WorkItemRow} {step : WorkerStep}

/-! One step -/

/-- Entries of a list that are told apart by a field are the same entry. -/
theorem index_eq_of_nodup_map {Value : Type} {field : Lease → Value} {leases : List Lease}
    (hnodup : (leases.map field).Nodup) {first second : Nat} {held other : Lease}
    (hfirst : leases[first]? = some held) (hsecond : leases[second]? = some other)
    (heq : field held = field other) : first = second := by
  have hleft : (leases.map field)[first]? = some (field held) := by
    rw [List.getElem?_map, hfirst]
    rfl
  have hright : (leases.map field)[second]? = some (field held) := by
    rw [List.getElem?_map, hsecond, heq]
    rfl
  have hbound : first < (leases.map field).length := (List.getElem?_eq_some_iff.mp hleft).1
  exact (List.getElem?_inj hbound hnodup).mp (hleft.trans hright.symm)

/-- Only the recovery of an expired lease is a reclaiming transition. -/
theorem expired_of_transition_reclaim {store : ExecutionStore} {operation : StoreOperation}
    {now : Int} (hrow : store.workItems.find? workItemId = some row)
    (h : operation.transition store workItemId = some (.reclaimExpiredLease now)) :
    row.item.status = .leased ∧
      (row.item.leaseExpiresAt.any fun expires => decide (expires ≤ now)) = true := by
  unfold StoreOperation.transition at h
  cases operation with
  | recover locked recoverNow limit =>
    dsimp only at h
    split at h
    · cases h
    · split at h
      · next htaken =>
        cases h
        exact leaseExpired_of_mem hrow htaken
      · cases h
  | record outcome recordNow =>
    dsimp only [acceptedFor, outcomeTransition] at h
    repeat' split at h
    all_goals cases h
  | complete target leaseToken completeNow =>
    dsimp only [acceptedFor] at h
    repeat' split at h
    all_goals cases h
  | start dispatch startedAt => cases h
  | leaseDue locked workKind worker leaseToken leaseExpiresAt leaseNow =>
    dsimp only at h
    split at h
    · cases h
    · cases h
  | leaseById locked workKind target worker leaseToken leaseExpiresAt leaseNow =>
    dsimp only at h
    split at h
    · cases h
    · cases h
  | supersede target supersedeNow =>
    dsimp only at h
    split at h
    · cases h
    · cases h

/-- A call is accepted only from the worker of the current lease, where the leases
are told apart. -/
theorem isFenced_of_leasesApart (h : LeasesApart workItemId state row) :
    IsFenced workItemId state step := by
  intro operation hoperation haccepted
  have hrow := h.row_eq
  cases step with
  | record lease outcome now =>
    obtain ⟨held, hheld, rfl⟩ := Option.map_eq_some_iff.mp hoperation
    obtain ⟨⟨item, next⟩, hrecord⟩ := haccepted
    obtain ⟨found, attempt, hrecorded⟩ := outcomeRecorded_of_recordAttemptOutcome hrecord
    have hfound : found = row := by
      have heq := hrecorded.row_eq
      rw [show (outcome.under workItemId held).workItemId = workItemId from rfl, hrow] at heq
      exact (Option.some.inj heq).symm
    obtain ⟨hleased, _, hnumber⟩ := validateCurrentLease_eq_ok_iff.mp hrecorded.lease
    rw [hfound] at hleased hnumber
    obtain ⟨index, current, hcurrent, hindex, _, hcount⟩ := h.shows hleased
    have hsame : index = lease :=
      index_eq_of_nodup_map h.numbers_nodup hindex hheld (hcount.symm.trans hnumber)
    exact ⟨lease, hsame ▸ hcurrent, .inl ⟨outcome, now, rfl⟩⟩
  | complete lease now =>
    obtain ⟨held, hheld, rfl⟩ := Option.map_eq_some_iff.mp hoperation
    obtain ⟨⟨item, next⟩, hcomplete⟩ := haccepted
    obtain ⟨⟨found, hfound, hleased, htoken⟩, _⟩ :=
      completeWorkItemAfterDomainApply_eq_ok hcomplete
    rw [hrow] at hfound
    cases hfound
    obtain ⟨index, current, hcurrent, hindex, hshown, _⟩ := h.shows hleased
    have hsame : index = lease :=
      index_eq_of_nodup_map h.tokens_nodup hindex hheld (Option.some.inj (hshown.symm.trans htoken))
    exact ⟨lease, hsame ▸ hcurrent, .inr ⟨now, rfl⟩⟩
  | _ =>
    cases hoperation
    cases haccepted

/-- What a transition other than a lease leaves of the columns that show a lease. -/
theorem shown_of_itemStep {before after : WorkItem} {transition : Transition}
    (hlease : transition.isLease = false) (h : ItemStep before after (some transition)) :
    after.attemptCount = before.attemptCount ∧
      (after.status = .leased → before.status = .leased ∧
          after.leaseToken = before.leaseToken) := by
  obtain ⟨item, happly, hafter⟩ := h
  have hcount : item.attemptCount = before.attemptCount := by
    rw [attemptCount_of_apply happly]
    unfold leaseCount
    rw [List.countP_singleton, hlease]
    rfl
  have hshown : after.attemptCount = item.attemptCount ∧ after.status = item.status ∧
      after.leaseToken = item.leaseToken := by
    rw [hafter]
    split
    · exact ⟨rfl, rfl, rfl⟩
    · exact ⟨rfl, rfl, rfl⟩
  obtain ⟨hafterCount, hafterStatus, hafterToken⟩ := hshown
  refine ⟨hafterCount.trans hcount, ?_⟩
  rw [hafterStatus, hafterToken]
  rcases endsUnleased_of_apply hlease happly with ⟨_, _, _, _, hstatus, rfl, _⟩ | rfl
  · exact fun hleased => absurd hleased hstatus
  · exact fun hleased => ⟨hleased, rfl⟩

/-- Leases are told apart after a transition that grants none and takes none back. -/
theorem leasesApart_of_kept {store : ExecutionStore} {next : WorkItemRow}
    (h : LeasesApart workItemId state row) (hnext : store.workItems.find? workItemId = some next)
    (hcount : next.item.attemptCount = row.item.attemptCount)
    (hshown : next.item.status = .leased →
      row.item.status = .leased ∧ next.item.leaseToken = row.item.leaseToken) :
    LeasesApart workItemId { state with store } next where
  row_eq := hnext
  shows := by
    intro hleased
    obtain ⟨hwas, htoken⟩ := hshown hleased
    obtain ⟨index, lease, hcurrent, hindex, hshows, hnumber⟩ := h.shows hwas
    exact ⟨index, lease, hcurrent, hindex, htoken.trans hshows, hcount.trans hnumber⟩
  numbers_le := by
    rw [hcount]
    exact h.numbers_le
  numbers_nodup := h.numbers_nodup
  tokens_nodup := h.tokens_nodup

/-- A lease that is granted is told apart from the earlier ones. -/
theorem leasesApart_of_leased {store : ExecutionStore} {next : WorkItemRow}
    {worker leaseToken : String} {leaseExpiresAt now : Int}
    (h : LeasesApart workItemId state row) (hnext : store.workItems.find? workItemId = some next)
    (hstep : ItemStep row.item next.item (some (.leaseReady worker leaseToken leaseExpiresAt now)))
    (hfresh : ∀ lease ∈ state.leases, lease.leaseToken ≠ leaseToken) :
    LeasesApart workItemId
      (state.after row.item store (some (.leaseReady worker leaseToken leaseExpiresAt now)))
      next := by
  obtain ⟨item, happly, hitem⟩ := hstep
  obtain ⟨_, rfl⟩ := WorkItemStateMachine.leaseReady_eq_ok happly
  have htoken : next.item.leaseToken = some leaseToken := by
    rw [hitem]
    rfl
  have hcount : next.item.attemptCount = row.item.attemptCount + 1 := by
    rw [hitem]
    rfl
  exact {
    row_eq := hnext
    shows := by
      intro _
      exact ⟨state.leases.length, _, rfl, List.getElem?_concat_length, htoken, hcount⟩
    numbers_le := by
      intro lease hlease
      rcases List.mem_append.mp hlease with hold | hnew
      · have hle := h.numbers_le lease hold
        omega
      · rw [List.mem_singleton.mp hnew]
        exact Nat.le_of_eq hcount.symm
    numbers_nodup := by
      unfold Fencing.after
      rw [List.map_append, List.nodup_append]
      refine ⟨h.numbers_nodup, List.nodup_singleton _, ?_⟩
      intro number hold other hnew
      obtain ⟨lease, hlease, rfl⟩ := List.mem_map.mp hold
      have hle := h.numbers_le lease hlease
      have heq : other = row.item.attemptCount + 1 := List.mem_singleton.mp hnew
      omega
    tokens_nodup := by
      unfold Fencing.after
      rw [List.map_append, List.nodup_append]
      refine ⟨h.tokens_nodup, List.nodup_singleton _, ?_⟩
      intro token hold other hnew
      obtain ⟨lease, hlease, rfl⟩ := List.mem_map.mp hold
      have heq : other = leaseToken := List.mem_singleton.mp hnew
      rw [heq]
      exact hfresh lease hlease }

/-- The leases stay told apart under every step that grants no token again. -/
theorem leasesApart_performWorker (h : LeasesApart workItemId state row)
    (hfresh : FreshToken workItemId state step) :
    ∃ next, LeasesApart workItemId (performWorker workItemId state step) next := by
  unfold performWorker
  rw [h.row_eq]
  cases hoperation : step.operation workItemId state.leases with
  | none => exact ⟨row, h⟩
  | some operation =>
    dsimp only
    obtain ⟨next, hnext, hstep⟩ := itemStep_performStore operation h.row_eq
    refine ⟨next, ?_⟩
    cases htransition : operation.transition state.store workItemId with
    | none =>
      rw [htransition] at hstep
      have hsame : next.item = row.item := hstep
      exact leasesApart_of_kept h hnext (by rw [hsame]) (by rw [hsame]; exact fun hleased =>
        ⟨hleased, rfl⟩)
    | some transition =>
      rw [htransition] at hstep
      cases transition with
      | leaseReady worker leaseToken leaseExpiresAt now =>
        exact leasesApart_of_leased h hnext hstep
          (hfresh operation hoperation worker leaseToken leaseExpiresAt now htransition)
      | reclaimExpiredLease now =>
        obtain ⟨hcount, _⟩ := shown_of_itemStep rfl hstep
        obtain ⟨item, happly, hitem⟩ := hstep
        have hready : next.item.status = .ready := by
          have hexpired := expired_of_transition_reclaim h.row_eq htransition
          have hreclaimed : item = WorkItemStateMachine.reclaimExpiredLease row.item now :=
            (Except.ok.inj happly).symm
          unfold WorkItemStateMachine.reclaimExpiredLease at hreclaimed
          rw [if_pos hexpired] at hreclaimed
          rw [hitem, hreclaimed]
          rfl
        have hunleased : next.item.status ≠ .leased := by
          rw [hready]
          nofun
        exact {
          row_eq := hnext
          shows := fun hleased => absurd hleased hunleased
          numbers_le := by
            rw [hcount]
            exact h.numbers_le
          numbers_nodup := h.numbers_nodup
          tokens_nodup := h.tokens_nodup }
      | _ =>
        obtain ⟨hcount, hshown⟩ := shown_of_itemStep rfl hstep
        exact leasesApart_of_kept h hnext hcount hshown

/-! Runs -/

/-- In every run in which no lease of the item is granted under a token that an
earlier one had, only the worker of the current lease records and completes. -/
theorem leases_fenced {store : ExecutionStore}
    (hrow : store.workItems.find? workItemId = some row) (hfree : row.item.status ≠ .leased)
    (steps : List WorkerStep)
    (h : EveryStep (performWorker workItemId) (FreshToken workItemId) ⟨store, [], none⟩ steps) :
    EveryStep (performWorker workItemId) (IsFenced workItemId) ⟨store, [], none⟩ steps := by
  have hstart : ∃ row, LeasesApart workItemId ⟨store, [], none⟩ row :=
    ⟨row, hrow, fun hleased => absurd hleased hfree, nofun, List.nodup_nil, List.nodup_nil⟩
  have hstep : ∀ state step, (∃ row, LeasesApart workItemId state row) →
      FreshToken workItemId state step →
        ∃ row, LeasesApart workItemId (performWorker workItemId state step) row := by
    rintro state step ⟨row, hapart⟩ hfresh
    exact leasesApart_performWorker hapart hfresh
  have hfenced : ∀ state step, (∃ row, LeasesApart workItemId state row) →
      FreshToken workItemId state step → IsFenced workItemId state step := by
    rintro state step ⟨row, hapart⟩ _
    exact isFenced_of_leasesApart hapart
  exact EveryStep.of_invariant hstep hfenced h hstart

/-- Two leases of one item; the worker of the first one completes late. -/
def lateCompletion (secondToken : String) : List WorkerStep :=
  [.leaseById (fun _ => false) "work" "item" "first" "token" 10 0,
    .recover (fun _ => false) 20 1,
    .leaseById (fun _ => false) "work" "item" "second" secondToken 40 20, .complete 0 21]

theorem lateCompletion_fenced :
    EveryStep (performWorker "item") (IsFenced "item")
      ⟨freshStore "item" "work" (by decide), [], none⟩
      (lateCompletion "other") := by
  have hrow : (freshStore "item" "work" (by decide)).workItems.find? "item" =
      some { item := .fresh "item" "work" (by decide), createdAt := 0, updatedAt := 0
             updated_ge := le_refl 0 } := rfl
  refine leases_fenced hrow ready_ne_leased (lateCompletion "other") ?_
  refine ⟨?_, ?_, ?_, ?_, trivial⟩
  · intro _ _ _ _ _ _ _ lease hlease
    cases hlease
  · intro operation hoperation _ _ _ _ htransition
    cases hoperation
    cases htransition
  · intro operation hoperation _ _ _ _ htransition lease hlease
    cases hoperation
    cases htransition
    cases List.mem_singleton.mp hlease
    decide
  · intro operation hoperation _ _ _ _ htransition
    cases hoperation
    cases htransition

/-- Under a token that is used again the first worker completes the item of the
second. -/
theorem usedToken_not_fenced :
    ¬ EveryStep (performWorker "item") (IsFenced "item")
      ⟨freshStore "item" "work" (by decide), [], none⟩
      (lateCompletion "token") := by
  intro h
  obtain ⟨_, _, _, hlast, _⟩ := h
  obtain ⟨lease, hcurrent, hstep⟩ := hlast (.complete "item" "token" 21) rfl ⟨_, rfl⟩
  have hsecond : lease = 1 := (Option.some.inj hcurrent).symm
  rcases hstep with ⟨_, _, heq⟩ | ⟨_, heq⟩
  · cases heq
  · rw [hsecond] at heq
    cases heq

end CrmBot.ExecutionRuntime
