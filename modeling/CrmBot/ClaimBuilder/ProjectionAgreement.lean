import CrmBot.CapacityAdmissionQueue.ProjectionWriter
import CrmBot.ClaimBuilder.ScheduleSectionWork
import CrmBot.ExecutionRuntime.ItemStatus
import CrmBot.Library.Runs

/-! Section work in the execution runtime and in the admission projection.

Scheduling upserts the projection; outcomes and completions are mirrored in the
transaction that records them; the drain and the split mirror on their own. -/

namespace CrmBot.ClaimBuilder

open Relational CrmBot.Python CrmBot.ExecutionRuntime CrmBot.CapacityAdmissionQueue
open CrmBot.LlmRuntime FailingFold Runs

structure SectionWorld where
  store : ExecutionStore
  queue : QueueState

/-! Scheduling with a projection writer. -/

/-- The writer comes with its lane target, and reads its own clock. -/
structure ProjectionTarget where
  laneTarget : CapacityAdmissionLaneTarget
  occurredAt : Int

structure ScheduleRequest where
  env : ScheduleEnv
  now : Int
  writer : Option ProjectionTarget
  workflowRunId : String
  projectId : Option String
  sourceDocumentRef : String
  sourceUnits : List SourceUnit

/-- Without a conflict, the candidates of all plans are written. -/
def writeProjection (writer : Option ProjectionTarget)
    (outcomes : List EnsureWorkItemScheduledOutcome) (plans : List WorkItemSchedulePlan)
    (queue : QueueState) : Except Fault QueueState :=
  match writer with
  | none => .ok queue
  | some target =>
    if outcomeCount .conflict outcomes = 0 then do
      let candidates ← buildCapacityAdmissionProjectionCandidates target.laneTarget plans
      return persistProjectionCandidates queue candidates target.occurredAt
    else .ok queue

/-- `ScheduleClaimBuilderSectionWork.execute`. -/
def scheduleProjectedSectionWork (world : SectionWorld) (request : ScheduleRequest) :
    Except Fault (List EnsureWorkItemScheduledOutcome × SectionWorld) := do
  let plans ← sectionSchedulePlans request.env request.workflowRunId request.projectId
    request.sourceDocumentRef request.sourceUnits
  let (outcomes, store) ← ensureWorkItemsScheduled request.env.payloadHash request.now world.store
    plans
  let queue ← writeProjection request.writer outcomes plans world.queue
  return (outcomes, { store, queue })

/-! Mirroring a work item. -/

/-- The projection statuses have the values of the statuses of work items. -/
def projectionStatus : WorkItemStatus → ProjectionStatus
  | .ready => .ready
  | .leased => .leased
  | .completed => .completed
  | .retryableFailed => .retryableFailed
  | .terminalFailed => .terminalFailed
  | .cancelled => .cancelled
  | .splitSuperseded => .splitSuperseded
  | .userActionRequired => .userActionRequired

@[simp] theorem isAdmissible_projectionStatus (status : WorkItemStatus) :
    (projectionStatus status).isAdmissible = status.isWaiting := by
  cases status <;> rfl

/-- `ResolveRetryableWorkItemAdmissionRoute.execute`: the model to change to. -/
def resolveRetryableWorkItemAdmissionRoute (catalog : RouteCatalog) (currentModelRef : String)
    (plan : WorkItemRetryPlan) : Except Fault (Option String) :=
  match plan with
  | .retrySameRoute | .retryAlternateRoute | .waitNearestAdmissionWindow => .ok none
  | .splitWorkPayload | .waitDailyAdmissionReset | .terminal => .ok none
  | plan => do
    let resolved ← resolveLlmDispatchPreparationStrategy catalog currentModelRef (some plan) none
    return if resolved = currentModelRef then none else some resolved

/-- `_retry_admission_model_ref`. -/
def retryAdmissionModelRef (queue : QueueState) (item : WorkItem) :
    Except Fault (Option String) :=
  if item.status ≠ .retryableFailed then .ok none
  else match item.retryPlan, queue.workItems.find? item.workItemId with
    | some plan, some row =>
      if isBlank row.lane.modelRef then
        .error (.valueError "capacity admission projection model_ref must be non-empty")
      else resolveRetryableWorkItemAdmissionRoute defaultGroqLlmModelRouteCatalog row.lane.modelRef
        plan
    | _, _ => .ok none

/-- `_sync_capacity_admission_projection_lifecycle`. -/
def syncCapacityAdmissionProjectionLifecycle (queue : QueueState) (item : WorkItem)
    (changedAt : Int) : Except Fault QueueState :=
  if item.status = .leased then .ok queue
  else do
    let modelRef ← retryAdmissionModelRef queue item
    let update ← newLifecycleUpdate item.workItemId (projectionStatus item.status) changedAt
      (item.retryPlan.map WorkItemRetryPlan.value) modelRef
    return syncProjectionLifecycle queue update

/-- The transaction that changes an item and mirrors it. -/
def mirrored (world : SectionWorld) (changedAt : Int)
    (result : Except Fault (WorkItem × ExecutionStore)) : Except Fault SectionWorld := do
  let (item, store) ← result
  let queue ← syncCapacityAdmissionProjectionLifecycle world.queue item changedAt
  return { store, queue }

/-! The runs. -/

structure LeaseRequest where
  workKind : String
  workItemId : String
  worker : String
  leaseToken : String
  leaseExpiresAt : Int
  now : Int

inductive SectionEvent
  | schedule (request : ScheduleRequest)
  | lease (locked : String → Bool) (request : LeaseRequest)
  | outcome (record : AttemptOutcomeRecord) (now : Int)
  | replay (attemptId : String)
  | complete (workItemId leaseToken : String) (now changedAt : Int)
  | reclaim (locked : String → Bool) (now : Int) (limit : Nat)
  | sync (update : LifecycleUpdate)

/-- A transaction that raises is rolled back. -/
def commit (world : SectionWorld) (result : Except Fault SectionWorld) : SectionWorld :=
  match result with
  | .ok next => next
  | .error _ => world

def leaseWorkItem (world : SectionWorld) (locked : String → Bool) (request : LeaseRequest) :
    Except Fault (Option LeasedWorkItemRecord × ExecutionStore) :=
  leaseDueWorkItemById world.store locked request.workKind request.workItemId request.worker
    request.leaseToken request.leaseExpiresAt request.now

def performSection (world : SectionWorld) : SectionEvent → SectionWorld
  | .schedule request =>
    commit world ((scheduleProjectedSectionWork world request).map Prod.snd)
  | .lease locked request =>
    commit world ((leaseWorkItem world locked request).map fun leased =>
      { world with store := leased.2 })
  | .outcome record now =>
    commit world (mirrored world record.finishedAt (recordAttemptOutcome world.store record now))
  | .replay attemptId => match recordedWorkItem world.store attemptId with
    | none => world
    | some (item, finishedAt) => commit world (mirrored world finishedAt (.ok (item, world.store)))
  | .complete workItemId leaseToken now changedAt =>
    commit world (mirrored world changedAt
      (completeWorkItemAfterDomainApply world.store workItemId leaseToken now))
  | .reclaim locked now limit => { world with store := reclaimExpired world.store locked now limit }
  | .sync update => { world with queue := syncProjectionLifecycle world.queue update }

/-- The projection shows the item as ready or retryable. -/
def ShownAdmissible (queue : QueueState) (workItemId : String) : Prop :=
  ∃ status, projectedStatus queue workItemId = some status ∧ status.isAdmissible = true

/-- An item that is leased or in a final state is not shown as ready or
retryable, and is not selected for admission. -/
structure ProjectionAgrees (world : SectionWorld) : Prop where
  not_shown : ∀ id, Progressed world.store id → ¬ ShownAdmissible world.queue id
  not_selected : ∀ locked lane budget row,
    selectCapacityAdmissionWorkItem world.queue.workItems locked lane budget = some row →
      ¬ Progressed world.store row.workItemId

/-- Scheduling that writes candidates plans no item that has progressed; a lease
is granted for items that are not shown as admissible; and no synchronisation
shows a progressed item as admissible. -/
def KeepsAgreement (world : SectionWorld) : SectionEvent → Prop
  | .schedule request =>
    request.writer.isSome = true → ∀ outcomes next,
      scheduleProjectedSectionWork world request = .ok (outcomes, next) →
      outcomeCount .conflict outcomes = 0 → ∀ unit ∈ request.sourceUnits,
        ¬ Progressed world.store (claimBuilderSectionWorkItemId request.workflowRunId unit.unitRef)
  | .lease locked request =>
    request.now < request.leaseExpiresAt →
      (leasableRow world.store locked request.workKind request.workItemId).isSome = true →
        ¬ ShownAdmissible world.queue request.workItemId
  | .sync update =>
    update.status.isAdmissible = true → (projectedStatus world.queue update.workItemId).isSome =
      true →
      ¬ Progressed world.store update.workItemId
  | .outcome _ _ | .replay _ | .complete _ _ _ _ | .reclaim _ _ _ => True

variable {world : SectionWorld}

theorem projectionAgrees_of_not_shown
    (h : ∀ id, Progressed world.store id → ¬ ShownAdmissible world.queue id) :
    ProjectionAgrees world := by
  refine ⟨h, ?_⟩
  intro locked lane budget row hselect hprogressed
  exact h _ hprogressed (selected_isAdmissible hselect)

/-! One lemma for each kind of event. -/

theorem writeProjection_eq_ok {writer : Option ProjectionTarget}
    {outcomes : List EnsureWorkItemScheduledOutcome} {plans : List WorkItemSchedulePlan}
    {queue next : QueueState} (h : writeProjection writer outcomes plans queue = .ok next) :
    (writer.isSome = true ∧ outcomeCount .conflict outcomes = 0 ∧
        ∀ id, projectedStatus next id =
          if ∃ plan ∈ plans, plan.workItemId = id then some .ready else projectedStatus queue id) ∨
      (¬ (writer.isSome = true ∧ outcomeCount .conflict outcomes = 0) ∧ next = queue) := by
  unfold writeProjection at h
  split at h
  · cases h
    exact .inr ⟨by simp, rfl⟩
  · next target =>
    split at h
    · next hconflict =>
      obtain ⟨candidates, hbuild, hnext⟩ := bind_eq_ok.mp h
      cases hnext
      left
      refine ⟨rfl, hconflict, ?_⟩
      intro id
      rw [projectedStatus_persistProjectionCandidates]
      simp only [exists_candidate_iff hbuild]
    · next hconflict =>
      cases h
      exact .inr ⟨fun hboth => hconflict hboth.2, rfl⟩

theorem agrees_schedule_iff (hagrees : ProjectionAgrees world) (request : ScheduleRequest) :
    ProjectionAgrees (performSection world (.schedule request)) ↔
      KeepsAgreement world (.schedule request) := by
  simp only [performSection, KeepsAgreement]
  cases hschedule : scheduleProjectedSectionWork world request with
  | error fault => exact ⟨fun _ => nofun, fun _ => hagrees⟩
  | ok result =>
    obtain ⟨outcomes, next⟩ := result
    change ProjectionAgrees next ↔ _
    obtain ⟨plans, hplans, h⟩ := bind_eq_ok.mp hschedule
    obtain ⟨⟨found, store⟩, hensure, h⟩ := bind_eq_ok.mp h
    obtain ⟨queue, hwrite, hresult⟩ := bind_eq_ok.mp h
    cases hresult
    have hkept := statusKept_ensureWorkItemsScheduled hensure
    rcases writeProjection_eq_ok hwrite with ⟨hwriter, hconflict, hshown⟩ | ⟨hnot, rfl⟩
    · constructor
      · intro hafter _ _ _ hok _ unit hunit hprogressed
        have hplanned := (sectionSchedulePlans_ids hplans _).mpr ⟨unit, hunit, rfl⟩
        apply hafter.not_shown _ ((hkept.progressed_iff _).mpr hprogressed)
        refine ⟨.ready, ?_, rfl⟩
        rw [hshown, if_pos hplanned]
      · intro hfits
        apply projectionAgrees_of_not_shown
        rintro id hprogressed ⟨status, hstatus, hadmissible⟩
        have hbefore := (hkept.progressed_iff id).mp hprogressed
        rw [hshown] at hstatus
        split at hstatus
        · next hplanned =>
          obtain ⟨unit, hunit, hid⟩ := (sectionSchedulePlans_ids hplans id).mp hplanned
          rw [← hid] at hbefore
          exact hfits hwriter _ _ rfl hconflict unit hunit hbefore
        · exact hagrees.not_shown id hbefore ⟨status, hstatus, hadmissible⟩
    · constructor
      · intro _ hwriter _ _ hok hconflict
        cases hok
        exact absurd ⟨hwriter, hconflict⟩ hnot
      · intro _
        apply projectionAgrees_of_not_shown
        intro id hprogressed
        exact hagrees.not_shown id ((hkept.progressed_iff id).mp hprogressed)

theorem agrees_lease_iff (hagrees : ProjectionAgrees world) (locked : String → Bool)
    (request : LeaseRequest) :
    ProjectionAgrees (performSection world (.lease locked request)) ↔
      KeepsAgreement world (.lease locked request) := by
  simp only [performSection, KeepsAgreement]
  by_cases hfuture : request.now < request.leaseExpiresAt
  · cases hrow : leasableRow world.store locked request.workKind request.workItemId with
    | none =>
      have hlease : leaseWorkItem world locked request = .ok (none, world.store) := by
        unfold leaseWorkItem
        rw [leaseDueWorkItemById_eq hfuture, hrow]
      rw [hlease]
      exact ⟨fun _ _ hsome => absurd hsome (by simp), fun _ => hagrees⟩
    | some found =>
      obtain ⟨row, schedule⟩ := found
      obtain ⟨record, next, hlease⟩ : ∃ record next,
          leaseWorkItem world locked request = .ok (some record, next) := by
        unfold leaseWorkItem
        rw [leaseDueWorkItemById_eq hfuture, hrow]
        exact ⟨_, _, rfl⟩
      have hstatus := itemStatus_leaseDueWorkItemById hlease
      rw [hlease]
      change ProjectionAgrees { world with store := next } ↔ _
      constructor
      · intro hafter _ _
        apply hafter.not_shown
        refine ⟨.leased, ?_, rfl⟩
        rw [hstatus, if_pos rfl]
      · intro hfits
        apply projectionAgrees_of_not_shown
        rintro id ⟨status, hid, hwaiting⟩
        change itemStatus next id = some status at hid
        rw [hstatus] at hid
        split at hid
        · next heq =>
          rw [← heq]
          exact hfits hfuture rfl
        · exact hagrees.not_shown id ⟨status, hid, hwaiting⟩
  · have hsame : commit world ((leaseWorkItem world locked request).map fun leased =>
        { world with store := leased.2 }) = world := by
      unfold leaseWorkItem leaseDueWorkItemById
      split
      · rfl
      · unfold WorkItemStateMachine.leaseReady
        split
        · rfl
        · rw [if_pos (by omega)]
          rfl
    rw [hsame]
    exact ⟨fun _ hnow => absurd hnow hfuture, fun _ => hagrees⟩

theorem agrees_sync_iff (hagrees : ProjectionAgrees world) (update : LifecycleUpdate) :
    ProjectionAgrees (performSection world (.sync update)) ↔
        KeepsAgreement world (.sync update) := by
  simp only [performSection, KeepsAgreement]
  have hshown := projectedStatus_syncProjectionLifecycle world.queue update
  constructor
  · intro hafter hadmissible hsome hprogressed
    apply hafter.not_shown _ hprogressed
    obtain ⟨status, hstatus⟩ := Option.isSome_iff_exists.mp hsome
    refine ⟨update.status, ?_, hadmissible⟩
    change projectedStatus (syncProjectionLifecycle world.queue update) _ = _
    rw [hshown, if_pos rfl, hstatus]
    rfl
  · intro hfits
    apply projectionAgrees_of_not_shown
    rintro id hprogressed ⟨status, hstatus, hadmissible⟩
    change projectedStatus (syncProjectionLifecycle world.queue update) id = some status at hstatus
    rw [hshown] at hstatus
    split at hstatus
    · next heq =>
      subst heq
      obtain ⟨before, hbefore, hsame⟩ := Option.map_eq_some_iff.mp hstatus
      subst hsame
      refine hfits hadmissible ?_ hprogressed
      rw [hbefore]
      rfl
    · exact hagrees.not_shown id hprogressed ⟨status, hstatus, hadmissible⟩

/-- An item that is mirrored as it is keeps the two stores in agreement. -/
theorem agrees_of_mirrored {changedAt : Int} {result : Except Fault (WorkItem × ExecutionStore)}
    (hagrees : ProjectionAgrees world)
    (hresult : ∀ item store, result = .ok (item, store) → ItemUpdated world.store store item) :
    ProjectionAgrees (commit world (mirrored world changedAt result)) := by
  cases hmirrored : mirrored world changedAt result with
  | error fault => exact hagrees
  | ok next =>
    obtain ⟨⟨item, store⟩, hok, h⟩ := bind_eq_ok.mp hmirrored
    obtain ⟨queue, hsync, hnext⟩ := bind_eq_ok.mp h
    cases hnext
    have hitem := hresult item store hok
    apply projectionAgrees_of_not_shown
    rintro id ⟨status, hstatus, hwaiting⟩ ⟨shown, hshown, hadmissible⟩
    change itemStatus store id = some status at hstatus
    change projectedStatus queue id = some shown at hshown
    rw [hitem.status_eq] at hstatus
    unfold syncCapacityAdmissionProjectionLifecycle at hsync
    split at hsync
    · next hleased =>
      cases hsync
      split at hstatus
      · next heq =>
        rw [← heq] at hshown
        exact hagrees.not_shown _ (hitem.progressed hleased) ⟨shown, hshown, hadmissible⟩
      · exact hagrees.not_shown id ⟨status, hstatus, hwaiting⟩ ⟨shown, hshown, hadmissible⟩
    · obtain ⟨_, _, h⟩ := bind_eq_ok.mp hsync
      obtain ⟨update, hupdate, hqueue⟩ := bind_eq_ok.mp h
      cases hqueue
      obtain ⟨hid, hupdateStatus⟩ := newLifecycleUpdate_eq_ok hupdate
      rw [projectedStatus_syncProjectionLifecycle, hid] at hshown
      split at hstatus
      · next heq =>
        rw [if_pos heq] at hshown
        obtain ⟨_, _, hsame⟩ := Option.map_eq_some_iff.mp hshown
        cases hstatus
        rw [← hsame, hupdateStatus, isAdmissible_projectionStatus, hwaiting] at hadmissible
        cases hadmissible
      · next hne =>
        rw [if_neg hne] at hshown
        exact hagrees.not_shown id ⟨status, hstatus, hwaiting⟩ ⟨shown, hshown, hadmissible⟩

theorem agrees_iff_keeps (hagrees : ProjectionAgrees world) (event : SectionEvent) :
    ProjectionAgrees (performSection world event) ↔ KeepsAgreement world event := by
  cases event with
  | schedule request => exact agrees_schedule_iff hagrees request
  | lease locked request => exact agrees_lease_iff hagrees locked request
  | sync update => exact agrees_sync_iff hagrees update
  | outcome record now =>
    refine ⟨fun _ => trivial, fun _ => ?_⟩
    exact agrees_of_mirrored hagrees fun _ _ => itemUpdated_recordAttemptOutcome
  | replay attemptId =>
    refine ⟨fun _ => trivial, fun _ => ?_⟩
    simp only [performSection]
    split
    · exact hagrees
    · next item finishedAt hrecorded =>
      apply agrees_of_mirrored hagrees
      intro item store hok
      cases hok
      exact itemUpdated_recordedWorkItem hrecorded
  | complete workItemId leaseToken now changedAt =>
    refine ⟨fun _ => trivial, fun _ => ?_⟩
    exact agrees_of_mirrored hagrees fun _ _ => itemUpdated_completeWorkItemAfterDomainApply
  | reclaim locked now limit =>
    refine ⟨fun _ => trivial, fun _ => ?_⟩
    apply projectionAgrees_of_not_shown
    intro id hprogressed
    exact hagrees.not_shown id (progressed_of_reclaimExpired hprogressed)

/-- From stores that agree, the projection agrees with the work items after every
step of a run exactly when every step keeps the agreement. -/
theorem projectionAgrees_iff {start : SectionWorld} (hstart : ProjectionAgrees start)
    (events : List SectionEvent) :
    EveryStep performSection (fun world event => ProjectionAgrees (performSection world event))
        start events ↔
      EveryStep performSection KeepsAgreement start events := by
  have hstep : ∀ world event, ProjectionAgrees world →
      (ProjectionAgrees (performSection world event) ↔ KeepsAgreement world event) :=
    fun _ event hagrees => agrees_iff_keeps hagrees event
  exact everyStep_iff_of_keeps hstep hstart

/-! A document with one section. -/

def emptySectionWorld : SectionWorld where
  store := { workItems := .empty, schedules := .empty, attempts := .empty, dispatches := .empty }
  queue := { workItems := .empty, dirtyFlags := .empty, laneClaims := .empty, windows := .empty }

theorem thousandTokens_pos : 0 < 1000 := by decide

def oneSectionRequest (now : Int) : ScheduleRequest where
  env :=
    { promptText := "prompt"
      profile :=
        { modelRef := "qwen/qwen3-32b", modelTpmLimit := 6000, promptTokens := 1000
          requestSafetyGapTokens := 100, multiplierNum := 2, multiplierDen := 1
          promptTokens_pos := thousandTokens_pos, multiplierNum_pos := Nat.two_pos }
      payloadHash := fun _ => "hash" }
  now := now
  writer := some
    { laneTarget := { provider := "groq", modelRef := "qwen/qwen3-32b", accountRef := none }
      occurredAt := now }
  workflowRunId := "run"
  projectId := none
  sourceDocumentRef := "document"
  sourceUnits :=
    [{ unitRef := "unit", documentRef := "document", ordinal := 0, text := "text"
       headingPath := [] }]

def oneSectionItemId : String := claimBuilderSectionWorkItemId "run" "unit"

/-- The section is scheduled, admitted by a drain and leased. -/
def leasedSectionRun : List SectionEvent :=
  [.schedule (oneSectionRequest 10),
    .sync
      { workItemId := oneSectionItemId, status := .leased, changedAt := 20, retryPlan := none
        modelRef := none, retryPlan_iff := leased_without_plan, modelRef_only := nofun },
    .lease (fun _ => false)
      { workKind := claimBuilderSectionWorkKind, workItemId := oneSectionItemId
        worker := "worker", leaseToken := "token", leaseExpiresAt := 100, now := 20 }]

theorem emptySectionWorld_agrees : ProjectionAgrees emptySectionWorld := by
  apply projectionAgrees_of_not_shown
  rintro id ⟨status, hstatus, _⟩
  cases hstatus

theorem leasedSectionRun_agrees :
    EveryStep performSection (fun world event => ProjectionAgrees (performSection world event))
      emptySectionWorld leasedSectionRun := by
  apply (projectionAgrees_iff emptySectionWorld_agrees leasedSectionRun).mpr
  refine ⟨?_, ?_, ?_, trivial⟩
  · rintro _ _ _ _ _ unit _ ⟨status, hstatus, _⟩
    cases hstatus
  · intro hnever
    cases hnever
  · rintro _ _ ⟨status, hshown, hadmissible⟩
    cases hshown
    cases hadmissible

/-- The schedule command is executed again while the section is leased. -/
theorem rescheduledSectionRun_not_agrees :
    ¬ EveryStep performSection (fun world event => ProjectionAgrees (performSection world event))
      emptySectionWorld (leasedSectionRun ++ [.schedule (oneSectionRequest 30)]) := by
  rintro ⟨_, _, _, hagrees, _⟩
  exact hagrees.not_shown oneSectionItemId ⟨.leased, rfl, rfl⟩ ⟨.ready, rfl, rfl⟩

end CrmBot.ClaimBuilder
