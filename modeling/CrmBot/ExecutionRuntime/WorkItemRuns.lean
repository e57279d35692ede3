import CrmBot.ExecutionRuntime.WorkItem
import CrmBot.Library.Fold

/-! Runs of the work item state machine.

Every transition either leases the item, takes it out of its lease, or leaves it
as it is; the invariant of a run is read off these three cases. -/

namespace CrmBot.ExecutionRuntime

open CrmBot.Python FailingFold

/-- A call of `WorkItemStateMachine` with its arguments. -/
inductive Transition
  | leaseReady (worker leaseToken : String) (leaseExpiresAt now : Int)
  | completeLeased
  | failLeasedRetryable (errorKind : String) (retryPlan : WorkItemRetryPlan)
  | failLeasedTerminal (errorKind : String)
  | cancel (errorKind : Option String)
  | markSplitSupersededLeased
  | markSplitSupersededWaiting
  | requireUserActionLeased (errorKind : String)
  | resolveUserActionRequiredToReady (reason : Option String)
  | resolveUserActionRequiredToRetryableFailed (reason : Option String)
      (retryPlan : WorkItemRetryPlan)
  | releaseLeasedToReady (reason : Option String)
  | reclaimExpiredLease (now : Int)
  deriving DecidableEq

namespace Transition

open WorkItemStateMachine

def apply (item : WorkItem) : Transition → Except Fault WorkItem
  | .leaseReady worker leaseToken leaseExpiresAt now =>
    WorkItemStateMachine.leaseReady item worker leaseToken leaseExpiresAt now
  | .completeLeased => WorkItemStateMachine.completeLeased item
  | .failLeasedRetryable errorKind retryPlan =>
    WorkItemStateMachine.failLeasedRetryable item errorKind retryPlan
  | .failLeasedTerminal errorKind => WorkItemStateMachine.failLeasedTerminal item errorKind
  | .cancel errorKind => WorkItemStateMachine.cancel item errorKind
  | .markSplitSupersededLeased => WorkItemStateMachine.markSplitSupersededLeased item
  | .markSplitSupersededWaiting => WorkItemStateMachine.markSplitSupersededWaiting item
  | .requireUserActionLeased errorKind =>
    WorkItemStateMachine.requireUserActionLeased item errorKind
  | .resolveUserActionRequiredToReady reason =>
    WorkItemStateMachine.resolveUserActionRequiredToReady item reason
  | .resolveUserActionRequiredToRetryableFailed reason retryPlan =>
    WorkItemStateMachine.resolveUserActionRequiredToRetryableFailed item reason retryPlan
  | .releaseLeasedToReady reason => WorkItemStateMachine.releaseLeasedToReady item reason
  | .reclaimExpiredLease now => .ok (WorkItemStateMachine.reclaimExpiredLease item now)

def isLease : Transition → Bool
  | .leaseReady .. => true
  | _ => false

end Transition

/-- A finite sequence of transitions; the first refusal ends it. -/
def runTransitions (item : WorkItem) (transitions : List Transition) : Except Fault WorkItem :=
  transitions.foldlM Transition.apply item

def leaseCount (transitions : List Transition) : Nat := transitions.countP Transition.isLease

def WorkItemStatus.isAbsorbing : WorkItemStatus → Bool
  | .completed | .terminalFailed | .cancelled | .splitSuperseded => true
  | .ready | .leased | .retryableFailed | .userActionRequired => false

/-- `WorkItem(work_item_id, work_kind)`. -/
def WorkItem.fresh (workItemId workKind : String) (hid : isBlank workItemId = false) :
    WorkItem where
  workItemId := workItemId
  workKind := workKind
  status := .ready
  attemptCount := 0
  leasedBy := none
  leaseToken := none
  leaseExpiresAt := none
  lastErrorKind := none
  retryPlan := none
  workItemId_ne := hid
  lease_shape := by simp [LeaseShape]

variable {item next : WorkItem} {transition : Transition} {transitions : List Transition}

/-! One transition -/

namespace WorkItemStatus

theorem open_of_isWaiting {status : WorkItemStatus} (h : status.isWaiting = true) :
    status.isAbsorbing = false := by
  cases status <;> first | rfl | cases h

theorem open_of_not_terminal {status : WorkItemStatus}
    (h : ¬ (status.isTerminal = true ∧ status ≠ .userActionRequired)) :
    status.isAbsorbing = false := by
  cases status <;> first | rfl | exact absurd ⟨rfl, nofun⟩ h

end WorkItemStatus

namespace WorkItemStateMachine

theorem open_of_requireLeased {action : String} (h : requireLeased item action = .ok ()) :
    item.status.isAbsorbing = false := by
  unfold requireLeased at h
  split at h
  · cases h
  · next hleased =>
    rw [not_not.mp hleased]
    rfl

theorem open_of_requireUserActionRequired {action : String}
    (h : requireUserActionRequired item action = .ok ()) :
    item.status.isAbsorbing = false := by
  unfold requireUserActionRequired at h
  split at h
  · cases h
  · next hrequired =>
    rw [not_not.mp hrequired]
    rfl

end WorkItemStateMachine

open WorkItemStateMachine

/-- The item leaves an open status without a lease, with a retry plan at most for
a retry. -/
def EndsUnleased (item next : WorkItem) : Prop :=
  item.status.isAbsorbing = false ∧ ∃ status errorKind retryPlan hstatus,
    next = withoutLease item status errorKind retryPlan hstatus ∧
      (retryPlan.isSome = true → status = .retryableFailed)

section EndsUnleased

variable {status : WorkItemStatus} {errorKind : Option String}
  {retryPlan : Option WorkItemRetryPlan} {hstatus : status ≠ .leased}
  {guard check : Except Fault Unit}

theorem endsUnleased_withoutLease (hopen : item.status.isAbsorbing = false)
    (hplan : retryPlan.isSome = true → status = .retryableFailed) :
    EndsUnleased item (withoutLease item status errorKind retryPlan hstatus) :=
  ⟨hopen, _, _, _, _, rfl, hplan⟩

/-- A transition behind a guard on the status. -/
theorem endsUnleased_of_guarded (hguard : guard = .ok () → item.status.isAbsorbing = false)
    (h : (guard >>= fun _ => .ok (withoutLease item status errorKind retryPlan hstatus)) =
      .ok next) (hplan : retryPlan.isSome = true → status = .retryableFailed) :
    EndsUnleased item next := by
  obtain ⟨_, hok, hnext⟩ := bind_eq_ok.mp h
  cases hnext
  exact endsUnleased_withoutLease (hguard hok) hplan

/-- A transition that checks its argument after the status. -/
theorem endsUnleased_of_checked (hguard : guard = .ok () → item.status.isAbsorbing = false)
    (h : (guard >>= fun _ => check >>= fun _ =>
      .ok (withoutLease item status errorKind retryPlan hstatus)) = .ok next)
    (hplan : retryPlan.isSome = true → status = .retryableFailed) :
    EndsUnleased item next := by
  obtain ⟨_, hok, hrest⟩ := bind_eq_ok.mp h
  obtain ⟨_, _, hnext⟩ := bind_eq_ok.mp hrest
  cases hnext
  exact endsUnleased_withoutLease (hguard hok) hplan

end EndsUnleased

/-- What a transition does that is not a lease: it ends the lease, or nothing. -/
theorem endsUnleased_of_apply (hlease : transition.isLease = false)
    (h : transition.apply item = .ok next) : EndsUnleased item next ∨ next = item := by
  cases transition with
  | leaseReady => cases hlease
  | completeLeased => exact .inl (endsUnleased_of_guarded open_of_requireLeased h nofun)
  | failLeasedRetryable errorKind retryPlan =>
    exact .inl (endsUnleased_of_checked open_of_requireLeased h fun _ => rfl)
  | failLeasedTerminal errorKind =>
    exact .inl (endsUnleased_of_checked open_of_requireLeased h nofun)
  | cancel errorKind =>
    simp only [Transition.apply, WorkItemStateMachine.cancel] at h
    split at h
    · cases h
    · next hopen =>
      cases h
      exact .inl (endsUnleased_withoutLease (WorkItemStatus.open_of_not_terminal hopen) nofun)
  | markSplitSupersededLeased =>
    exact .inl (endsUnleased_of_guarded open_of_requireLeased h nofun)
  | markSplitSupersededWaiting =>
    simp only [Transition.apply, WorkItemStateMachine.markSplitSupersededWaiting] at h
    split at h
    · cases h
    · next hwaiting =>
      cases h
      exact .inl (endsUnleased_withoutLease
        (WorkItemStatus.open_of_isWaiting (not_not.mp hwaiting)) nofun)
  | requireUserActionLeased errorKind =>
    exact .inl (endsUnleased_of_checked open_of_requireLeased h nofun)
  | resolveUserActionRequiredToReady reason =>
    exact .inl (endsUnleased_of_checked open_of_requireUserActionRequired h nofun)
  | resolveUserActionRequiredToRetryableFailed reason retryPlan =>
    exact .inl (endsUnleased_of_checked open_of_requireUserActionRequired h fun _ => rfl)
  | releaseLeasedToReady reason =>
    exact .inl (endsUnleased_of_checked open_of_requireLeased h nofun)
  | reclaimExpiredLease now =>
    simp only [Transition.apply, WorkItemStateMachine.reclaimExpiredLease] at h
    split at h
    · next hexpired =>
      cases h
      exact .inl (endsUnleased_withoutLease (by rw [hexpired.1]; rfl) nofun)
    · cases h
      exact .inr rfl

/-- A lease takes a waiting item and nothing else does. -/
theorem leasedItem_of_apply (hlease : transition.isLease = true)
    (h : transition.apply item = .ok next) :
    item.status.isWaiting = true ∧
      ∃ worker leaseToken leaseExpiresAt,
        next = leasedItem item worker leaseToken leaseExpiresAt := by
  cases transition with
  | leaseReady worker leaseToken leaseExpiresAt now =>
    obtain ⟨hwaiting, hnext⟩ := leaseReady_eq_ok h
    exact ⟨hwaiting, worker, leaseToken, leaseExpiresAt, hnext⟩
  | _ => cases hlease

/-- An accepted transition counts as an attempt exactly when it is a lease. -/
theorem attemptCount_of_apply (h : transition.apply item = .ok next) :
    next.attemptCount = item.attemptCount + leaseCount [transition] := by
  unfold leaseCount
  rw [List.countP_singleton]
  cases hlease : transition.isLease with
  | true =>
    obtain ⟨_, worker, leaseToken, leaseExpiresAt, rfl⟩ := leasedItem_of_apply hlease h
    rfl
  | false =>
    rcases endsUnleased_of_apply hlease h with ⟨_, _, _, _, _, rfl, _⟩ | rfl
    · rfl
    · rfl

/-- No transition changes what an item is. -/
theorem identity_of_apply (h : transition.apply item = .ok next) :
    next.workItemId = item.workItemId ∧ next.workKind = item.workKind := by
  cases hlease : transition.isLease with
  | true =>
    obtain ⟨_, worker, leaseToken, leaseExpiresAt, rfl⟩ := leasedItem_of_apply hlease h
    exact ⟨rfl, rfl⟩
  | false =>
    rcases endsUnleased_of_apply hlease h with ⟨_, _, _, _, _, rfl, _⟩ | rfl
    · exact ⟨rfl, rfl⟩
    · exact ⟨rfl, rfl⟩

def PlansRetries (item : WorkItem) : Prop :=
  item.retryPlan.isSome = true → item.status = .retryableFailed

theorem plansRetries_fresh {workItemId workKind : String} {hid : isBlank workItemId = false} :
    PlansRetries (.fresh workItemId workKind hid) := nofun

theorem plansRetries_of_apply (hitem : PlansRetries item) (h : transition.apply item = .ok next) :
    PlansRetries next := by
  cases hlease : transition.isLease with
  | true =>
    obtain ⟨_, worker, leaseToken, leaseExpiresAt, rfl⟩ := leasedItem_of_apply hlease h
    exact nofun
  | false =>
    rcases endsUnleased_of_apply hlease h with ⟨_, _, _, _, _, rfl, hplan⟩ | rfl
    · exact hplan
    · exact hitem

/-- An item in an absorbing status stays as it is. -/
theorem eq_of_apply_absorbing (habsorbing : item.status.isAbsorbing = true)
    (h : transition.apply item = .ok next) : next = item := by
  cases hlease : transition.isLease with
  | true =>
    have hopen := WorkItemStatus.open_of_isWaiting (leasedItem_of_apply hlease h).1
    rw [habsorbing] at hopen
    cases hopen
  | false =>
    rcases endsUnleased_of_apply hlease h with ⟨hopen, _⟩ | hsame
    · rw [habsorbing] at hopen
      cases hopen
    · exact hsame

/-! Runs -/

/-- The invariant of a work item and of the run that led to it. -/
structure KeepsLifecycle (transitions : List Transition) (item : WorkItem) : Prop where
  leased_iff : item.status = .leased ↔
    item.leasedBy.isSome = true ∧ item.leaseToken.isSome = true ∧
      item.leaseExpiresAt.isSome = true
  unleased_iff : item.status ≠ .leased ↔
    item.leasedBy = none ∧ item.leaseToken = none ∧ item.leaseExpiresAt = none
  plansRetries : PlansRetries item
  attemptCount_eq : item.attemptCount = leaseCount transitions
  absorbs : item.status.isAbsorbing = true → ∀ (transition : Transition) (next : WorkItem),
    transition.apply item = .ok next → next = item

theorem runTransitions_append {earlier later : List Transition} :
    runTransitions item (earlier ++ later) =
      runTransitions item earlier >>= fun middle => runTransitions middle later := by
  unfold runTransitions
  rw [List.foldlM_append]

theorem attemptCount_of_run (h : runTransitions item transitions = .ok next) :
    next.attemptCount = item.attemptCount + leaseCount transitions := by
  induction transitions generalizing item with
  | nil =>
    cases h
    rfl
  | cons transition rest ih =>
    unfold runTransitions at h
    rw [List.foldlM_cons] at h
    obtain ⟨middle, hfirst, hrest⟩ := bind_eq_ok.mp h
    have hcons : leaseCount (transition :: rest) = leaseCount [transition] + leaseCount rest := by
      rw [← List.singleton_append]
      exact List.countP_append
    rw [ih hrest, attemptCount_of_apply hfirst, hcons]
    omega

theorem plansRetries_of_run (hitem : PlansRetries item)
    (h : runTransitions item transitions = .ok next) : PlansRetries next := by
  induction transitions generalizing item with
  | nil =>
    cases h
    exact hitem
  | cons transition rest ih =>
    unfold runTransitions at h
    rw [List.foldlM_cons] at h
    obtain ⟨middle, hfirst, hrest⟩ := bind_eq_ok.mp h
    exact ih (plansRetries_of_apply hitem hfirst) hrest

theorem eq_of_run_absorbing (habsorbing : item.status.isAbsorbing = true)
    (h : runTransitions item transitions = .ok next) : next = item := by
  induction transitions with
  | nil =>
    cases h
    rfl
  | cons transition rest ih =>
    unfold runTransitions at h
    rw [List.foldlM_cons] at h
    obtain ⟨middle, hfirst, hrest⟩ := bind_eq_ok.mp h
    rw [eq_of_apply_absorbing habsorbing hfirst] at hrest
    exact ih hrest

theorem WorkItem.leased_iff (item : WorkItem) : item.status = .leased ↔
    item.leasedBy.isSome = true ∧ item.leaseToken.isSome = true ∧
      item.leaseExpiresAt.isSome = true := by
  have hshape := item.lease_shape
  unfold LeaseShape at hshape
  split at hshape
  · next hleased => exact iff_of_true hleased hshape
  · next hunleased =>
    apply iff_of_false hunleased
    rw [hshape.1]
    exact nofun

theorem WorkItem.unleased_iff (item : WorkItem) : item.status ≠ .leased ↔
    item.leasedBy = none ∧ item.leaseToken = none ∧ item.leaseExpiresAt = none := by
  have hshape := item.lease_shape
  unfold LeaseShape at hshape
  split at hshape
  · next hleased =>
    apply iff_of_false (not_not.mpr hleased)
    intro hnone
    rw [hnone.1] at hshape
    cases hshape.1
  · next hunleased => exact iff_of_true hunleased hshape

/-- The life cycle of a work item over every accepted run: of the item reached, and
between it and every item reached on the way. -/
theorem keepsLifecycle_of_run (workItemId workKind : String) (hid : isBlank workItemId = false)
    (hrun : runTransitions (.fresh workItemId workKind hid) transitions = .ok item) :
    KeepsLifecycle transitions item ∧
      ∀ earlier later middle, transitions = earlier ++ later →
        runTransitions (.fresh workItemId workKind hid) earlier = .ok middle →
          KeepsLifecycle earlier middle ∧
            item.attemptCount = middle.attemptCount + leaseCount later ∧
            (middle.status.isAbsorbing = true → item = middle) := by
  have hlifecycle : ∀ transitions item,
      runTransitions (.fresh workItemId workKind hid) transitions = .ok item →
        KeepsLifecycle transitions item := by
    intro transitions item hrun
    exact {
      leased_iff := item.leased_iff
      unleased_iff := item.unleased_iff
      plansRetries := plansRetries_of_run plansRetries_fresh hrun
      attemptCount_eq := (attemptCount_of_run hrun).trans (Nat.zero_add _)
      absorbs := fun habsorbing _ _ happly => eq_of_apply_absorbing habsorbing happly }
  refine ⟨hlifecycle _ _ hrun, ?_⟩
  intro earlier later middle heq hmiddle
  rw [heq, runTransitions_append, hmiddle] at hrun
  exact ⟨hlifecycle _ _ hmiddle, attemptCount_of_run hrun,
    fun habsorbing => eq_of_run_absorbing habsorbing hrun⟩

/-- Two attempts, the second one completed, and a recovery that comes late. -/
def retriedRun : List Transition :=
  [.leaseReady "worker" "token-1" 10 0, .failLeasedRetryable "timeout" .retrySameRoute,
    .leaseReady "worker" "token-2" 20 10, .completeLeased, .reclaimExpiredLease 30]

theorem keepsLifecycle_retriedRun :
    ∃ item, runTransitions (.fresh "item" "work" (by decide)) retriedRun = .ok item ∧
      KeepsLifecycle retriedRun item ∧ item.attemptCount = 2 := by
  refine ⟨_, rfl, ?_, rfl⟩
  exact (keepsLifecycle_of_run "item" "work" (by decide) rfl).1

end CrmBot.ExecutionRuntime
