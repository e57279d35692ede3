import CrmBot.Python.Builtins

/-! Work items and `WorkItemStateMachine`.

A work item carries the proof that exactly the leased items have lease fields,
as its constructor and the check constraint of the table demand. -/

namespace CrmBot.ExecutionRuntime

open CrmBot.Python

inductive WorkItemStatus
  | ready
  | leased
  | completed
  | retryableFailed
  | terminalFailed
  | cancelled
  | splitSuperseded
  | userActionRequired
  deriving DecidableEq, Repr

def WorkItemStatus.value : WorkItemStatus → String
  | .ready => "ready"
  | .leased => "leased"
  | .completed => "completed"
  | .retryableFailed => "retryable_failed"
  | .terminalFailed => "terminal_failed"
  | .cancelled => "cancelled"
  | .splitSuperseded => "split_superseded"
  | .userActionRequired => "user_action_required"

def WorkItemStatus.isTerminal : WorkItemStatus → Bool
  | .completed | .terminalFailed | .cancelled | .splitSuperseded | .userActionRequired => true
  | .ready | .leased | .retryableFailed => false

def WorkItemStatus.isWaiting : WorkItemStatus → Bool
  | .ready | .retryableFailed => true
  | _ => false

inductive WorkItemRetryPlan
  | retrySameRoute
  | retryAlternateRoute
  | retryValidationCheckRoute
  | retryLargerInputLimitRoute
  | retryLargerOutputLimitRoute
  | retryDailyFallbackRoute
  | waitNearestAdmissionWindow
  | splitWorkPayload
  | waitDailyAdmissionReset
  | terminal
  deriving DecidableEq, Repr

def WorkItemRetryPlan.value : WorkItemRetryPlan → String
  | .retrySameRoute => "retry_same_route"
  | .retryAlternateRoute => "retry_alternate_route"
  | .retryValidationCheckRoute => "retry_validation_check_route"
  | .retryLargerInputLimitRoute => "retry_larger_input_limit_route"
  | .retryLargerOutputLimitRoute => "retry_larger_output_limit_route"
  | .retryDailyFallbackRoute => "retry_daily_fallback_route"
  | .waitNearestAdmissionWindow => "wait_nearest_admission_window"
  | .splitWorkPayload => "split_work_payload"
  | .waitDailyAdmissionReset => "wait_daily_admission_reset"
  | .terminal => "terminal"

def WorkItemRetryPlan.all : List WorkItemRetryPlan :=
  [.retrySameRoute, .retryAlternateRoute, .retryValidationCheckRoute, .retryLargerInputLimitRoute,
    .retryLargerOutputLimitRoute, .retryDailyFallbackRoute, .waitNearestAdmissionWindow,
    .splitWorkPayload, .waitDailyAdmissionReset, .terminal]

/-- `WorkItemRetryPlan(value)`. -/
def WorkItemRetryPlan.ofValue? (value : String) : Option WorkItemRetryPlan :=
  WorkItemRetryPlan.all.find? fun plan => plan.value = value

/-- The lease fields of an item: all present when it is leased, else none. -/
def LeaseShape (status : WorkItemStatus) (leasedBy leaseToken : Option String)
    (leaseExpiresAt : Option Int) : Prop :=
  if status = .leased then
    leasedBy.isSome = true ∧ leaseToken.isSome = true ∧ leaseExpiresAt.isSome = true
  else leasedBy = none ∧ leaseToken = none ∧ leaseExpiresAt = none

theorem ready_ne_leased : WorkItemStatus.ready ≠ .leased := by decide

theorem leaseShape_ready : LeaseShape .ready none none none := by simp [LeaseShape]

@[ext]
structure WorkItem where
  workItemId : String
  workKind : String
  status : WorkItemStatus
  attemptCount : Nat
  leasedBy : Option String
  leaseToken : Option String
  leaseExpiresAt : Option Int
  lastErrorKind : Option String
  retryPlan : Option WorkItemRetryPlan
  workItemId_ne : isBlank workItemId = false
  lease_shape : LeaseShape status leasedBy leaseToken leaseExpiresAt

instance : DecidableEq WorkItem := fun _ _ =>
  decidable_of_iff _ WorkItem.ext_iff.symm

/-- Outside a lease the item is due exactly when its status says so. -/
def WorkItem.isDue (item : WorkItem) : Bool := item.status.isWaiting

namespace WorkItemStateMachine

/-- The item under a lease, with one attempt more. -/
def leasedItem (item : WorkItem) (worker leaseToken : String) (leaseExpiresAt : Int) : WorkItem :=
  { item with
    status := .leased, attemptCount := item.attemptCount + 1, leasedBy := some worker
    leaseToken := some leaseToken, leaseExpiresAt := some leaseExpiresAt
    lastErrorKind := none, retryPlan := none, lease_shape := by simp [LeaseShape] }

/-- `lease_ready`. -/
def leaseReady (item : WorkItem) (worker leaseToken : String) (leaseExpiresAt now : Int) :
    Except Fault WorkItem :=
  if ¬ item.status.isWaiting then
    .error (.valueError ("Cannot lease work item from status " ++ item.status.value))
  else if leaseExpiresAt ≤ now then
    .error (.valueError "lease_expires_at must be in the future")
  else .ok (leasedItem item worker leaseToken leaseExpiresAt)

/-- The item in another state without a lease. -/
def withoutLease (item : WorkItem) (status : WorkItemStatus) (lastErrorKind : Option String)
    (retryPlan : Option WorkItemRetryPlan) (hstatus : status ≠ .leased) : WorkItem :=
  { item with
    status := status, leasedBy := none, leaseToken := none, leaseExpiresAt := none
    lastErrorKind := lastErrorKind, retryPlan := retryPlan
    lease_shape := by simp [LeaseShape, hstatus] }

/-- `_require_leased`. -/
def requireLeased (item : WorkItem) (action : String) : Except Fault Unit :=
  if item.status ≠ .leased then
    .error (.valueError ("Cannot " ++ action ++ " work item from status " ++ item.status.value))
  else .ok ()

/-- `_require_user_action_required`. -/
def requireUserActionRequired (item : WorkItem) (action : String) : Except Fault Unit :=
  if item.status ≠ .userActionRequired then
    .error (.valueError ("Cannot " ++ action ++ " work item from status " ++ item.status.value))
  else .ok ()

def requireErrorKind (errorKind : String) : Except Fault Unit :=
  if isBlank errorKind then .error (.valueError "error_kind must be non-empty") else .ok ()

theorem requireErrorKind_of_text {errorKind : String} (htext : isBlank errorKind = false) :
    requireErrorKind errorKind = .ok () := by
  unfold requireErrorKind
  rw [htext]
  exact if_neg Bool.false_ne_true

def requireReason (reason : Option String) : Except Fault Unit :=
  if reason.any isBlank then .error (.valueError "reason must be non-empty when provided")
  else .ok ()

def completeLeased (item : WorkItem) : Except Fault WorkItem := do
  requireLeased item "complete"
  return withoutLease item .completed none none (by decide)

def failLeasedRetryable (item : WorkItem) (errorKind : String) (retryPlan : WorkItemRetryPlan) :
    Except Fault WorkItem := do
  requireLeased item "mark retryable failed"
  requireErrorKind errorKind
  return withoutLease item .retryableFailed (some errorKind) (some retryPlan) (by decide)

def failLeasedTerminal (item : WorkItem) (errorKind : String) : Except Fault WorkItem := do
  requireLeased item "mark terminal failed"
  requireErrorKind errorKind
  return withoutLease item .terminalFailed (some errorKind) none (by decide)

def cancel (item : WorkItem) (errorKind : Option String) : Except Fault WorkItem :=
  if item.status.isTerminal ∧ item.status ≠ .userActionRequired then
    .error (.valueError ("Cannot cancel terminal work item from status " ++ item.status.value))
  else .ok (withoutLease item .cancelled errorKind none (by decide))

def markSplitSupersededLeased (item : WorkItem) : Except Fault WorkItem := do
  requireLeased item "mark split superseded"
  return withoutLease item .splitSuperseded none none (by decide)

def markSplitSupersededWaiting (item : WorkItem) : Except Fault WorkItem :=
  if ¬ item.status.isWaiting then
    .error (.valueError
      ("Cannot mark split superseded waiting work item from status " ++ item.status.value))
  else .ok (withoutLease item .splitSuperseded none none (by decide))

def requireUserActionLeased (item : WorkItem) (errorKind : String) : Except Fault WorkItem := do
  requireLeased item "require user action"
  requireErrorKind errorKind
  return withoutLease item .userActionRequired (some errorKind) none (by decide)

def resolveUserActionRequiredToReady (item : WorkItem) (reason : Option String) :
    Except Fault WorkItem := do
  requireUserActionRequired item "resolve to ready"
  requireReason reason
  return withoutLease item .ready reason none ready_ne_leased

def resolveUserActionRequiredToRetryableFailed (item : WorkItem) (reason : Option String)
    (retryPlan : WorkItemRetryPlan) : Except Fault WorkItem := do
  requireUserActionRequired item "resolve to retryable failed"
  requireReason reason
  return withoutLease item .retryableFailed reason (some retryPlan) (by decide)

def releaseLeasedToReady (item : WorkItem) (reason : Option String) : Except Fault WorkItem := do
  requireLeased item "release to ready"
  requireReason reason
  return withoutLease item .ready reason none ready_ne_leased

/-- `reclaim_expired_lease`. A leased item always has an expiry. -/
def reclaimExpiredLease (item : WorkItem) (now : Int) : WorkItem :=
  if item.status = .leased ∧ item.leaseExpiresAt.any (fun expires => decide (expires ≤ now)) then
    withoutLease item .ready (some "lease_expired") none (by decide)
  else item

/-- A waiting item is leased for any time in the future. -/
theorem leaseReady_of_waiting {item : WorkItem} {worker leaseToken : String}
    {leaseExpiresAt now : Int} (hwaiting : item.status.isWaiting = true)
    (hfuture : now < leaseExpiresAt) :
    leaseReady item worker leaseToken leaseExpiresAt now =
      .ok (leasedItem item worker leaseToken leaseExpiresAt) := by
  unfold leaseReady
  rw [if_neg (not_not.mpr hwaiting), if_neg (by omega)]

/-- A lease is granted to a waiting item only. -/
theorem leaseReady_eq_ok {item next : WorkItem} {worker leaseToken : String}
    {leaseExpiresAt now : Int}
    (h : leaseReady item worker leaseToken leaseExpiresAt now = .ok next) :
    item.status.isWaiting = true ∧ next = leasedItem item worker leaseToken leaseExpiresAt := by
  unfold leaseReady at h
  split at h
  · cases h
  · next hwaiting =>
    split at h
    · cases h
    · cases h
      exact ⟨not_not.mp hwaiting, rfl⟩

end WorkItemStateMachine

end CrmBot.ExecutionRuntime
