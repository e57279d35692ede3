import CrmBot.CapacityAdmissionQueue.ProjectionWriter

/-! What an admission pass reports, and the checks that its result makes on itself. -/

namespace CrmBot.CapacityAdmissionQueue

open Relational CrmBot.Python CrmBot.ExecutionRuntime FailingFold

/-- `CapacityWindowAdmissionSkippedReason`. -/
inductive SkippedReason
  | capacityExhausted
  | noFittingWorkItem
  | activeLeasedWait
  | sourceSplitRequired
  | projectionConflict
  | executionLeaseLost
  deriving DecidableEq, Repr

/-- The members of `CapacityWindowAdmissionLogEvent` that a pass reports. -/
inductive AdmissionLogEvent
  | passCompleted
  | passSkipped
  deriving DecidableEq, Repr

/-- `_require_non_empty_text`. -/
def requireNonEmptyText (value fieldName : String) : Except Fault Unit :=
  if isBlank value then .error (.valueError (fieldName ++ " must be non-empty")) else .ok ()

/-- The condition of `CapacityAdmissionLaneSummary` on its texts. -/
def LaneKey.hasTexts (lane : LaneKey) : Bool :=
  !isBlank lane.workKind && !isBlank lane.provider && !isBlank lane.modelRef &&
    lane.accountRef.all fun account => !isBlank account

/-- `CapacityAdmissionLaneSummary`. -/
structure LaneSummary where
  laneKey : LaneKey
  hasTexts : laneKey.hasTexts = true
  deriving DecidableEq

/-- `_lane_summary`. -/
def laneSummary (lane : LaneKey) : Except Fault LaneSummary := do
  requireNonEmptyText lane.workKind "work_kind"
  requireNonEmptyText lane.provider "provider"
  requireNonEmptyText lane.modelRef "model_ref"
  if h : lane.hasTexts = true then .ok ⟨lane, h⟩
  else .error (.valueError "account_ref must be non-empty")

/-- `CapacityAdmissionDispatchContextSummary`, without the cluster references,
which the pass does not set. -/
structure DispatchContextSummary where
  sourceRef : Option String
  sourceUnitRef : Option String
  groupRef : Option String
  batchRef : Option String
  roundIndex : Option Nat
  expectedOutputKind : Option String
  inputNodeRefs : List String
  inputClaimRefs : List String
  deriving DecidableEq, Repr

inductive SelectionKind
  | fresh
  | retryable
  deriving DecidableEq, Repr

/-- `CapacityAdmissionAdmittedItemSummary`. -/
structure AdmittedItemSummary where
  workItemId : String
  lane : LaneSummary
  selectionKind : SelectionKind
  inputTokens : Nat
  artifactTokens : Nat
  requiredWindowTokens : Nat
  dispatchContext : Option DispatchContextSummary
  workItemId_text : isBlank workItemId = false
  inputTokens_pos : 0 < inputTokens
  required_ge : inputTokens ≤ requiredWindowTokens

/-- `CapacityAdmissionProjectionLeaseSummary`; its status is always leased. -/
structure ProjectionLeaseSummary where
  workItemId : String
  lane : LaneSummary
  previousStatus : ProjectionStatus
  eventId : String
  workItemId_text : isBlank workItemId = false
  previousStatus_admissible : previousStatus.isAdmissible = true

/-- `CapacityAdmissionCapacityReservationSummary`. -/
structure ReservationSummary where
  reservationRef : String
  workItemId : String
  lane : LaneSummary
  reservedRequests : Nat
  reservedTokens : Nat
  expiresAt : Int
  reservationRef_text : isBlank reservationRef = false
  workItemId_text : isBlank workItemId = false
  reservedRequests_pos : 0 < reservedRequests
  reservedTokens_pos : 0 < reservedTokens

/-- `CapacityAdmissionStartedAttemptSummary`. -/
structure StartedAttemptSummary where
  attemptId : String
  workItemId : String
  attemptNumber : Nat
  attemptId_text : isBlank attemptId = false
  workItemId_text : isBlank workItemId = false
  attemptNumber_pos : 0 < attemptNumber

/-- `CapacityAdmissionFrontendEventSummary`. What its constructor checks is
checked before, by the parts of the result and by the command. -/
structure FrontendEventSummary where
  eventKind : String
  workflowRunId : String
  phase : String
  operationKey : String
  workKind : String
  lane : LaneSummary
  admittedCount : Nat
  startedAttemptCount : Nat
  skippedReason : Option SkippedReason
  workItemIds : List String
  attemptIds : List String
  projectionEventIds : List String
  occurredAt : Int

/-- `CapacityWindowAdmissionPassResult`, before its constructor has checked it. -/
structure PassResult where
  workflowRunId : String
  phase : String
  operationKey : String
  workKind : String
  lane : LaneSummary
  admittedItems : List AdmittedItemSummary
  projectionLeases : List ProjectionLeaseSummary
  capacityReservations : List ReservationSummary
  startedAttempts : List StartedAttemptSummary
  appendedExecuteCommandRefs : List String
  skippedReason : Option SkippedReason
  frontendEventSummary : FrontendEventSummary
  logEvent : AdmissionLogEvent

/-- `_capacity_reservation_lane_matches_result_lane`: the account may differ. -/
def reservationLaneMatches (reservationLane resultLane : LaneSummary) : Bool :=
  reservationLane.laneKey.workKind = resultLane.laneKey.workKind &&
    reservationLane.laneKey.provider = resultLane.laneKey.provider &&
    reservationLane.laneKey.modelRef = resultLane.laneKey.modelRef

/-- `!=` on sets that are made from two lists. -/
def sameMembers (first second : List String) : Bool :=
  first.all (· ∈ second) && second.all (· ∈ first)

/-- An `if` that raises. -/
def refuseWhen (refused : Bool) (message : String) : Except Fault Unit :=
  if refused then .error (.valueError message) else .ok ()

/-- `_validate_admitted_result`. -/
def PassResult.validateAdmitted (result : PassResult) : Except Fault Unit := do
  let executionRefs := result.startedAttempts.length + result.appendedExecuteCommandRefs.length
  refuseWhen result.admittedItems.isEmpty "admitted result must include admitted_items"
  refuseWhen (result.projectionLeases.length ≠ result.admittedItems.length)
    "admitted result projection_leases length must equal admitted_items length"
  refuseWhen (!result.capacityReservations.isEmpty &&
      result.capacityReservations.length ≠ result.admittedItems.length)
    "capacity_reservations length must equal admitted_items when present"
  refuseWhen (executionRefs = 0)
    "admitted result must include started_attempts or appended_execute_command_refs"
  refuseWhen (executionRefs ≠ result.admittedItems.length)
    "started/appended execution refs count must equal admitted_items"
  refuseWhen (!sameMembers (result.admittedItems.map AdmittedItemSummary.workItemId)
      (result.projectionLeases.map ProjectionLeaseSummary.workItemId))
    "projection leases must reference the same work items as admitted_items"
  refuseWhen (!result.startedAttempts.isEmpty &&
      !sameMembers (result.startedAttempts.map StartedAttemptSummary.workItemId)
        (result.admittedItems.map AdmittedItemSummary.workItemId))
    "started attempts must reference admitted work items exactly"

/-- `_validate_skipped_result`. -/
def PassResult.validateSkipped (result : PassResult) : Except Fault Unit := do
  refuseWhen (!result.admittedItems.isEmpty) "skipped result must not include admitted_items"
  refuseWhen (!result.projectionLeases.isEmpty) "skipped result must not include projection_leases"
  refuseWhen (!result.capacityReservations.isEmpty)
    "skipped result must not include capacity_reservations"
  refuseWhen (!result.startedAttempts.isEmpty) "skipped result must not include started_attempts"
  refuseWhen (!result.appendedExecuteCommandRefs.isEmpty)
    "skipped result must not include appended_execute_command_refs"
  refuseWhen (result.logEvent ≠ .passSkipped) "skipped result log_event must be PASS_SKIPPED"

/-- `__post_init__`. -/
def PassResult.validate (result : PassResult) : Except Fault Unit := do
  requireNonEmptyText result.workflowRunId "workflow_run_id"
  requireNonEmptyText result.phase "phase"
  requireNonEmptyText result.operationKey "operation_key"
  requireNonEmptyText result.workKind "work_kind"
  refuseWhen (result.lane.laneKey.workKind ≠ result.workKind)
    "lane work_kind must match result work_kind"
  refuseWhen (result.admittedItems.any fun item => item.lane ≠ result.lane)
    "admitted item lane must match result lane"
  refuseWhen (result.projectionLeases.any fun lease => lease.lane ≠ result.lane)
    "projection lease lane must match result lane"
  refuseWhen (result.capacityReservations.any fun reservation =>
      !reservationLaneMatches reservation.lane result.lane)
    "capacity reservation lane must match result lane"
  refuseWhen (result.appendedExecuteCommandRefs.any isBlank)
    "appended_execute_command_refs must be non-empty"
  match result.skippedReason with
  | none => result.validateAdmitted
  | some _ => result.validateSkipped

/-! When the checks pass. -/

@[simp] theorem requireNonEmptyText_eq_ok {value fieldName : String} :
    requireNonEmptyText value fieldName = .ok () ↔ isBlank value = false := by
  unfold requireNonEmptyText
  split
  · next hblank => simp [hblank]
  · next hblank => simp [hblank]

@[simp] theorem refuseWhen_eq_ok {refused : Bool} {message : String} :
    refuseWhen refused message = .ok () ↔ refused = false := by
  cases refused with
  | false => simp [refuseWhen]
  | true => simp [refuseWhen]

theorem laneSummary_eq_ok {lane : LaneKey} {summary : LaneSummary} :
    laneSummary lane = .ok summary ↔ summary.laneKey = lane := by
  constructor
  · intro h
    unfold laneSummary at h
    obtain ⟨_, _, h⟩ := bind_eq_ok.mp h
    obtain ⟨_, _, h⟩ := bind_eq_ok.mp h
    obtain ⟨_, _, h⟩ := bind_eq_ok.mp h
    split at h
    · cases h
      rfl
    · cases h
  · rintro rfl
    have hclean := summary.hasTexts
    simp only [LaneKey.hasTexts, Bool.and_eq_true, Bool.not_eq_true'] at hclean
    obtain ⟨⟨⟨hkind, hprovider⟩, hmodel⟩, _⟩ := hclean
    unfold laneSummary
    rw [requireNonEmptyText_eq_ok.mpr hkind, requireNonEmptyText_eq_ok.mpr hprovider,
      requireNonEmptyText_eq_ok.mpr hmodel]
    exact dif_pos summary.hasTexts

theorem exists_laneSummary_iff {lane : LaneKey} :
    (∃ summary, laneSummary lane = .ok summary) ↔ lane.hasTexts = true := by
  constructor
  · rintro ⟨summary, h⟩
    rw [← laneSummary_eq_ok.mp h]
    exact summary.hasTexts
  · intro h
    exact ⟨⟨lane, h⟩, laneSummary_eq_ok.mpr rfl⟩

theorem LaneSummary.eq_iff {first second : LaneSummary} :
    first = second ↔ first.laneKey = second.laneKey := by
  cases first
  cases second
  simp

theorem checks_eq_ok {first rest : Except Fault Unit} :
    (first >>= fun _ => rest) = .ok () ↔ first = .ok () ∧ rest = .ok () := by
  cases first with
  | error fault => simp [bind, Except.bind]
  | ok value => simp [bind, Except.bind]

/-- What a result without a reason for skipping must satisfy. -/
structure PassResult.Valid (result : PassResult) : Prop where
  workflowRunId_text : isBlank result.workflowRunId = false
  phase_text : isBlank result.phase = false
  operationKey_text : isBlank result.operationKey = false
  workKind_text : isBlank result.workKind = false
  lane_workKind : result.lane.laneKey.workKind = result.workKind
  itemLanes : ∀ item ∈ result.admittedItems, item.lane = result.lane
  leaseLanes : ∀ lease ∈ result.projectionLeases, lease.lane = result.lane
  reservationLanes : ∀ reservation ∈ result.capacityReservations,
    reservationLaneMatches reservation.lane result.lane = true
  refTexts : ∀ ref ∈ result.appendedExecuteCommandRefs, isBlank ref = false
  items_ne : result.admittedItems ≠ []
  leases_length : result.projectionLeases.length = result.admittedItems.length
  reservations_length : result.capacityReservations = [] ∨
    result.capacityReservations.length = result.admittedItems.length
  refs_length : result.startedAttempts.length + result.appendedExecuteCommandRefs.length =
    result.admittedItems.length
  leaseIds : sameMembers (result.admittedItems.map AdmittedItemSummary.workItemId)
    (result.projectionLeases.map ProjectionLeaseSummary.workItemId) = true
  attemptIds : result.startedAttempts = [] ∨
    sameMembers (result.startedAttempts.map StartedAttemptSummary.workItemId)
      (result.admittedItems.map AdmittedItemSummary.workItemId) = true

theorem PassResult.validate_iff_valid {result : PassResult} (h : result.skippedReason = none) :
    result.validate = .ok () ↔ result.Valid := by
  unfold PassResult.validate PassResult.validateAdmitted
  simp only [h, checks_eq_ok, refuseWhen_eq_ok, requireNonEmptyText_eq_ok, decide_not,
    Bool.not_eq_false', decide_eq_true_eq, decide_eq_false_iff_not, List.any_eq_false,
    Bool.not_eq_true', Bool.not_eq_false, Bool.and_eq_false_iff, List.isEmpty_iff,
    List.isEmpty_eq_false_iff, Bool.not_eq_true, not_not]
  constructor
  · rintro ⟨hrun, hphase, hkey, hkind, hlane, hitems, hleases, hreservations, hrefs, hne, hlength,
      hreserved, _, hstarted, hleaseIds, hattemptIds⟩
    exact ⟨hrun, hphase, hkey, hkind, hlane, hitems, hleases, hreservations, hrefs, hne,
      hlength, hreserved, hstarted, hleaseIds, hattemptIds⟩
  · intro hvalid
    have hpos := List.length_pos_iff.mpr hvalid.items_ne
    have hrefs := hvalid.refs_length
    exact ⟨hvalid.workflowRunId_text, hvalid.phase_text, hvalid.operationKey_text,
      hvalid.workKind_text, hvalid.lane_workKind, hvalid.itemLanes, hvalid.leaseLanes,
      hvalid.reservationLanes, hvalid.refTexts, hvalid.items_ne, hvalid.leases_length,
      hvalid.reservations_length, by omega, hrefs, hvalid.leaseIds, hvalid.attemptIds⟩

end CrmBot.CapacityAdmissionQueue
