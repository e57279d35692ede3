import CrmBot.CapacityAdmissionQueue.QueueState
import CrmBot.ExecutionRuntime.EnsureScheduled

/-! The writers of the admission projection, and the status it shows for an item. -/

namespace CrmBot.CapacityAdmissionQueue

open Relational CrmBot.Python CrmBot.ExecutionRuntime FailingFold

/-! `BuildCapacityAdmissionProjectionCandidates` -/

structure CapacityAdmissionLaneTarget where
  provider : String
  modelRef : String
  accountRef : Option String
  deriving DecidableEq, Repr

/-- `CapacityAdmissionWorkItemProjectionCandidate`. -/
structure ProjectionCandidate where
  workItemId : String
  lane : LaneKey
  workflowRunId : Option String
  projectId : Option String
  status : ProjectionStatus
  retryPlan : Option String
  inputTokens : Nat
  artifactTokens : Nat
  requiredWindowTokens : Nat
  status_eq : status = .ready
  inputTokens_pos : 0 < inputTokens
  required_ge : inputTokens + artifactTokens ≤ requiredWindowTokens

/-- `_capacity_estimate_from_payload`. -/
def capacityEstimateFromPayload (payload : Payload) : Except Fault Payload :=
  match payload.get "llm_capacity_estimate" with
  | some (.dict estimate) => .ok estimate
  | _ => .error (.valueError "schedule payload must contain llm_capacity_estimate mapping")

/-- `_positive_int_from_mapping`. -/
def positiveIntFromMapping (payload : Payload) (key : String) :
    Except Fault { amount : Nat // 0 < amount } :=
  match payload.get key with
  | some (.int value) =>
    if h : 0 < value then .ok ⟨value.toNat, toNat_pos h⟩
    else .error (.valueError (key ++ " must be positive int"))
  | _ => .error (.valueError (key ++ " must be positive int"))

/-- `_non_negative_int_from_mapping`. -/
def nonNegativeIntFromMapping (payload : Payload) (key : String) : Except Fault Nat :=
  match payload.get key with
  | some (.int value) =>
    if 0 ≤ value then .ok value.toNat
    else .error (.valueError (key ++ " must be non-negative int"))
  | _ => .error (.valueError (key ++ " must be non-negative int"))

/-- `_optional_text_from_mapping`. -/
def optionalTextFromMapping (payload : Payload) (key : String) : Except Fault (Option String) :=
  match payloadGet payload key with
  | none => .ok none
  | some (.str value) =>
    if isBlank value then .error (.valueError (key ++ " must be non-empty text when provided"))
    else .ok (some value)
  | some _ => .error (.valueError (key ++ " must be non-empty text when provided"))

/-- One round of the loop. -/
def projectionCandidate (target : CapacityAdmissionLaneTarget) (plan : WorkItemSchedulePlan) :
    Except Fault ProjectionCandidate := do
  let estimate ← capacityEstimateFromPayload plan.payload
  let inputTokens ← positiveIntFromMapping estimate "input_tokens"
  let artifactTokens ← nonNegativeIntFromMapping estimate "artifact_tokens"
  let requiredWindowTokens ← positiveIntFromMapping estimate "required_window_tokens"
  let workflowRunId ← optionalTextFromMapping plan.payload "workflow_run_id"
  let projectId ← optionalTextFromMapping plan.payload "project_id"
  if h : inputTokens.1 + artifactTokens ≤ requiredWindowTokens.1 then
    .ok
      { workItemId := plan.workItemId
        lane :=
          { workKind := plan.workKind, provider := target.provider, modelRef := target.modelRef
            accountRef := target.accountRef }
        workflowRunId, projectId, status := .ready, retryPlan := none
        inputTokens := inputTokens.1, artifactTokens
        requiredWindowTokens := requiredWindowTokens.1, status_eq := rfl
        inputTokens_pos := inputTokens.2, required_ge := h }
  else .error (.valueError "required_window_tokens must cover input and output tokens")

def buildCapacityAdmissionProjectionCandidates (target : CapacityAdmissionLaneTarget)
    (plans : List WorkItemSchedulePlan) : Except Fault (List ProjectionCandidate) :=
  plans.mapM (projectionCandidate target)

theorem projectionCandidate_workItemId {target : CapacityAdmissionLaneTarget}
    {plan : WorkItemSchedulePlan} {candidate : ProjectionCandidate}
    (h : projectionCandidate target plan = .ok candidate) :
    candidate.workItemId = plan.workItemId := by
  obtain ⟨_, _, h⟩ := bind_eq_ok.mp h
  obtain ⟨_, _, h⟩ := bind_eq_ok.mp h
  obtain ⟨_, _, h⟩ := bind_eq_ok.mp h
  obtain ⟨_, _, h⟩ := bind_eq_ok.mp h
  obtain ⟨_, _, h⟩ := bind_eq_ok.mp h
  obtain ⟨_, _, h⟩ := bind_eq_ok.mp h
  split at h
  · cases h
    rfl
  · cases h

/-- There is one candidate for each plan. -/
theorem exists_candidate_iff {target : CapacityAdmissionLaneTarget}
    {plans : List WorkItemSchedulePlan} {candidates : List ProjectionCandidate}
    (h : buildCapacityAdmissionProjectionCandidates target plans = .ok candidates) (id : String) :
    (∃ candidate ∈ candidates, candidate.workItemId = id) ↔
      ∃ plan ∈ plans, plan.workItemId = id := by
  have hall := forall₂_of_mapM h
  clear h
  induction hall with
  | nil => simp
  | cons hhead _ ih =>
    rw [List.exists_mem_cons_iff, List.exists_mem_cons_iff, projectionCandidate_workItemId hhead]
    exact or_congr_right ih

/-! `PostgresCapacityAdmissionProjectionWriter` -/

/-- The row that a candidate inserts. -/
def ProjectionCandidate.row (candidate : ProjectionCandidate) (occurredAt : Int) : WorkItemRow where
  workItemId := candidate.workItemId
  lane := candidate.lane
  workflowRunId := candidate.workflowRunId
  projectId := candidate.projectId
  status := candidate.status
  retryPlan := candidate.retryPlan
  inputTokens := candidate.inputTokens
  artifactTokens := candidate.artifactTokens
  requiredWindowTokens := candidate.requiredWindowTokens
  createdAt := occurredAt
  updatedAt := occurredAt
  inputTokens_pos := candidate.inputTokens_pos
  required_ge := candidate.required_ge

/-- `_persist_candidate`: on a conflict every column but the id and the creation
time takes the new value, the status among them. -/
def persistCandidate (state : QueueState) (candidate : ProjectionCandidate) (occurredAt : Int) :
    QueueState :=
  { state with
    workItems := state.workItems.upsert (candidate.row occurredAt)
      (fun old =>
        { candidate.row occurredAt with workItemId := old.workItemId, createdAt := old.createdAt })
      fun _ => rfl }

/-- One round of the loop: the state, and the lanes that are marked already. -/
def persistStep (occurredAt : Int) (progress : QueueState × List String)
    (candidate : ProjectionCandidate) : QueueState × List String :=
  let state := persistCandidate progress.1 candidate occurredAt
  if laneId candidate.lane ∈ progress.2 then (state, progress.2)
  else (markLaneDirty state candidate.lane "scheduled_projection_upserted" occurredAt,
    laneId candidate.lane :: progress.2)

/-- `persist_projection_candidates`. -/
def persistProjectionCandidates (state : QueueState) (candidates : List ProjectionCandidate)
    (occurredAt : Int) : QueueState :=
  (candidates.foldl (persistStep occurredAt) (state, [])).1

/-! `CapacityAdmissionProjectionLifecycleUpdate` -/

/-- `__post_init__`. -/
def newLifecycleUpdate (workItemId : String) (status : ProjectionStatus) (changedAt : Int)
    (retryPlan modelRef : Option String) : Except Fault LifecycleUpdate :=
  if hstatus : status = .retryableFailed then
    if hplan : retryPlan.isSome = true then
      .ok
        { workItemId, status, changedAt, retryPlan, modelRef
          retryPlan_iff := by simp [hstatus, hplan]
          modelRef_only := fun _ => hstatus }
    else .error (.valueError "retry_plan is required for retryable_failed")
  else if hplan : retryPlan.isSome = true then
    .error (.valueError "retry_plan is only allowed for retryable_failed")
  else if hmodel : modelRef.isSome = true then
    .error (.valueError "model_ref is only allowed for retryable_failed")
  else
    .ok
      { workItemId, status, changedAt, retryPlan, modelRef
        retryPlan_iff := by simp [hstatus, hplan]
        modelRef_only := fun h => absurd h hmodel }

theorem newLifecycleUpdate_eq_ok {workItemId : String} {status : ProjectionStatus}
    {changedAt : Int} {retryPlan modelRef : Option String} {update : LifecycleUpdate}
    (h : newLifecycleUpdate workItemId status changedAt retryPlan modelRef = .ok update) :
    update.workItemId = workItemId ∧ update.status = status := by
  unfold newLifecycleUpdate at h
  split at h
  · split at h
    · cases h
      exact ⟨rfl, rfl⟩
    · cases h
  · split at h
    · cases h
    · split at h
      · cases h
      · cases h
        exact ⟨rfl, rfl⟩

/-! The status that the projection shows. -/

/-- An item is selected for admission only when the projection shows it ready or
retryable. -/
def ProjectionStatus.isAdmissible : ProjectionStatus → Bool
  | .ready | .retryableFailed => true
  | _ => false

def projectedStatus (state : QueueState) (workItemId : String) : Option ProjectionStatus :=
  (state.workItems.find? workItemId).map WorkItemRow.status

/-- The selector takes only what is shown as admissible. -/
theorem selected_isAdmissible {state : QueueState} {locked : WorkItemRow → Bool} {lane : LaneKey}
    {budget : WindowBudget} {row : WorkItemRow}
    (h : selectCapacityAdmissionWorkItem state.workItems locked lane budget = some row) :
    ∃ status, projectedStatus state row.workItemId = some status ∧ status.isAdmissible = true := by
  have hfind (hmem : row ∈ state.workItems.rows) :
      projectedStatus state row.workItemId = some row.status := by
    unfold projectedStatus
    rw [Table.find?_eq_some_iff.mpr ⟨hmem, rfl⟩]
    rfl
  unfold selectCapacityAdmissionWorkItem at h
  split at h
  · rcases Option.or_eq_some_iff.mp h with hretryable | ⟨_, hready⟩
    · obtain ⟨hmem, _, hstatus, _⟩ := selectFirstFit_fits hretryable
      refine ⟨row.status, hfind hmem, ?_⟩
      rw [hstatus]
      rfl
    · obtain ⟨hmem, _, hstatus, _⟩ := selectFirstFit_fits hready
      refine ⟨row.status, hfind hmem, ?_⟩
      rw [hstatus]
      rfl
  · cases h

@[simp] theorem projectedStatus_markLaneDirty (state : QueueState) (lane : LaneKey)
    (reason : String) (occurredAt : Int) (id : String) :
    projectedStatus (markLaneDirty state lane reason occurredAt) id = projectedStatus state id :=
  rfl

theorem projectedStatus_persistCandidate (state : QueueState) (candidate : ProjectionCandidate)
    (occurredAt : Int) (id : String) :
    projectedStatus (persistCandidate state candidate occurredAt) id =
      if candidate.workItemId = id then some .ready else projectedStatus state id := by
  unfold projectedStatus persistCandidate
  split
  · next heq =>
    subst heq
    change ((state.workItems.upsert _ _ _).find? (candidate.row occurredAt).workItemId).map
      WorkItemRow.status = _
    rw [Table.find?_upsert_self]
    split
    · exact congrArg some candidate.status_eq
    · exact congrArg some candidate.status_eq
  · next hne =>
    have hother : id ≠ (candidate.row occurredAt).workItemId := Ne.symm hne
    rw [Table.find?_upsert_of_ne hother]

theorem projectedStatus_persistStep (progress : QueueState × List String)
    (candidate : ProjectionCandidate) (occurredAt : Int) (id : String) :
    projectedStatus (persistStep occurredAt progress candidate).1 id =
      if candidate.workItemId = id then some .ready else projectedStatus progress.1 id := by
  unfold persistStep
  dsimp only
  split
  · exact projectedStatus_persistCandidate progress.1 candidate occurredAt id
  · rw [projectedStatus_markLaneDirty]
    exact projectedStatus_persistCandidate progress.1 candidate occurredAt id

/-- The writer shows its candidates as ready, and leaves the other items alone. -/
theorem projectedStatus_persistProjectionCandidates (state : QueueState)
    (candidates : List ProjectionCandidate) (occurredAt : Int) (id : String) :
    projectedStatus (persistProjectionCandidates state candidates occurredAt) id =
      if ∃ candidate ∈ candidates, candidate.workItemId = id then some .ready
      else projectedStatus state id := by
  have hloop : ∀ progress : QueueState × List String,
      projectedStatus (candidates.foldl (persistStep occurredAt) progress).1 id =
        if ∃ candidate ∈ candidates, candidate.workItemId = id then some .ready
        else projectedStatus progress.1 id := by
    induction candidates with
    | nil =>
      intro progress
      simp
    | cons candidate rest ih =>
      intro progress
      rw [List.foldl_cons, ih, projectedStatus_persistStep]
      by_cases hhead : candidate.workItemId = id
      · simp [hhead]
      · simp [hhead]
  exact hloop (state, [])

/-- A synchronisation shows the new status of its item, if it shows the item. -/
theorem projectedStatus_syncProjectionLifecycle (state : QueueState) (update : LifecycleUpdate)
    (id : String) :
    projectedStatus (syncProjectionLifecycle state update) id =
      if update.workItemId = id then (projectedStatus state id).map fun _ => update.status
      else projectedStatus state id := by
  cases hfind : state.workItems.find? update.workItemId with
  | none =>
    have hsame : syncProjectionLifecycle state update = state := by
      simp [syncProjectionLifecycle, hfind]
    rw [hsame]
    split
    · next heq =>
      subst heq
      simp [projectedStatus, hfind]
    · rfl
  | some row =>
    have hid := (Table.find?_eq_some_iff.mp hfind).2
    by_cases hchanged : row.status ≠ update.status ∨ row.retryPlan ≠ update.retryPlan ∨
        (∃ model ∈ update.modelRef, row.lane.modelRef ≠ model)
    · simp only [syncProjectionLifecycle, hfind, if_pos hchanged, projectedStatus_markLaneDirty]
      unfold projectedStatus
      rw [Table.find?_updateWhere]
      split
      · next heq =>
        subst heq
        simp [hfind, hid]
      · next hne =>
        cases hother : state.workItems.find? id with
        | none => rfl
        | some other =>
          have hotherId := (Table.find?_eq_some_iff.mp hother).2
          have hneOther : ¬ other.workItemId = update.workItemId := by
            intro heq
            exact hne (heq.symm.trans hotherId)
          simp [hneOther]
    · have hsame : syncProjectionLifecycle state update = state := by
        simp only [syncProjectionLifecycle, hfind, if_neg hchanged]
      rw [hsame]
      split
      · next heq =>
        subst heq
        simp only [not_or, not_not] at hchanged
        simp [projectedStatus, hfind, hchanged.1]
      · rfl

end CrmBot.CapacityAdmissionQueue
