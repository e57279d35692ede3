import CrmBot.ClaimBuilder.ReconcileProgress
import CrmBot.ExecutionRuntime.EnsureScheduled

/-! `ScheduleClaimBuilderSectionWork`: from the source units of a document to
scheduled work items, and the command that follows them.

The text of the prompt file, the profile of the model and the hash of payloads
are parameters. -/

namespace CrmBot.ClaimBuilder

open Relational CrmBot.Python CrmBot.ExecutionRuntime CrmBot.WorkflowRuntime FailingFold

/-- The part of a `SourceUnit` that scheduling reads. -/
structure SourceUnit where
  unitRef : String
  documentRef : String
  ordinal : Nat
  text : String
  headingPath : List String
  deriving DecidableEq

structure ClaimBuilderSectionWorkPlan where
  workflowRunId : String
  projectId : Option String
  sourceDocumentRef : String
  sourceUnitRef : String
  sourceUnitOrdinal : Nat
  sourceUnitText : String
  headingPath : List String
  workItemId : String
  workKind : String
  idempotencyKey : String
  deriving DecidableEq

/-- `_claim_builder_section_work_item_id`. -/
def claimBuilderSectionWorkItemId (workflowRunId sourceUnitRef : String) : String :=
  "knowledge-workbench:claim-builder:section-extraction:" ++ workflowRunId ++ ":" ++ sourceUnitRef

/-- `_build_plan`. -/
def buildPlan (workflowRunId : String) (projectId : Option String) (sourceDocumentRef : String)
    (sourceUnit : SourceUnit) : ClaimBuilderSectionWorkPlan :=
  let workItemId := claimBuilderSectionWorkItemId workflowRunId sourceUnit.unitRef
  { workflowRunId, projectId, sourceDocumentRef, sourceUnitRef := sourceUnit.unitRef
    sourceUnitOrdinal := sourceUnit.ordinal, sourceUnitText := sourceUnit.text
    headingPath := sourceUnit.headingPath, workItemId, workKind := claimBuilderSectionWorkKind
    idempotencyKey := workItemId }

/-- `PlanClaimBuilderSectionWork.execute`, with the checks of its command. -/
def planClaimBuilderSectionWork (workflowRunId : String) (projectId : Option String)
    (sourceDocumentRef : String) (sourceUnits : List SourceUnit) :
    Except Fault (List ClaimBuilderSectionWorkPlan) :=
  if sourceUnits.any fun unit => unit.documentRef ≠ sourceDocumentRef then
    .error (.valueError "source_units must belong to source_document_ref")
  else if ¬ (sourceUnits.map SourceUnit.unitRef).Nodup then
    .error (.valueError "source_unit_ref must be unique")
  else .ok ((sourceUnits.insertionSort fun first second => first.ordinal ≤ second.ordinal).map
    (buildPlan workflowRunId projectId sourceDocumentRef))

/-- The profiles that the token budget of the claim builder is computed from.
The tokens of `chars` characters are `chars / (multiplierNum / multiplierDen)`. -/
structure TokenBudgetProfile where
  modelRef : String
  modelTpmLimit : Nat
  promptTokens : Nat
  requestSafetyGapTokens : Nat
  multiplierNum : Nat
  multiplierDen : Nat
  promptTokens_pos : 0 < promptTokens
  multiplierNum_pos : 0 < multiplierNum

/-- `estimate_artifact_tokens_from_chars`. -/
def TokenBudgetProfile.estimateArtifactTokens (profile : TokenBudgetProfile) (chars : Nat) : Nat :=
  if chars = 0 then 0
  else max 1 ((chars * profile.multiplierDen + profile.multiplierNum - 1) / profile.multiplierNum)

/-- `_claim_builder_token_estimate`, with the check of the budget it computes. -/
def claimBuilderTokenEstimate (profile : TokenBudgetProfile) (chars : Nat) :
    Except Fault Payload :=
  if profile.modelTpmLimit ≤ profile.promptTokens + profile.requestSafetyGapTokens then
    .error (.valueError "model_tpm_limit must leave budget after prompt and request safety gap")
  else
    let artifactTokens := profile.estimateArtifactTokens chars
    let inputTokens := profile.promptTokens + artifactTokens
    .ok (Payload.ofEntries
      [("budget_contract_version", .str "v2"), ("model_ref", .str profile.modelRef),
        ("prompt_tokens", .int profile.promptTokens), ("artifact_tokens", .int artifactTokens),
        ("input_tokens", .int inputTokens),
        ("required_window_tokens",
          .int (inputTokens + artifactTokens + profile.requestSafetyGapTokens))])

/-- What scheduling takes from the prompt contract, the model catalog and the
hash function. -/
structure ScheduleEnv where
  promptText : String
  profile : TokenBudgetProfile
  payloadHash : Payload → String

def claimBuilderPromptId : String := "faq_claim_observations"

def claimBuilderPromptVersion : String := "v1"

/-- `_format_heading_path`. -/
def formatHeadingPath (headingPath : List String) : String :=
  if headingPath.isEmpty then "/" else String.intercalate " / " headingPath

/-- `provider_messages` of the prompt contract. -/
def providerMessages (env : ScheduleEnv) (plan : ClaimBuilderSectionWorkPlan) : PyValue :=
  .list
    [.dict [("content", .str ("prompt_id: " ++ claimBuilderPromptId ++ "\nprompt_version: " ++
        claimBuilderPromptVersion ++ "\n\n" ++ env.promptText)), ("role", .str "system")],
      .dict [("content", .str ("source_unit_ref: " ++ plan.sourceUnitRef ++ "\nheading_path: " ++
        formatHeadingPath plan.headingPath ++ "\n\n" ++ plan.sourceUnitText)),
        ("role", .str "user")]]

/-- `_claim_builder_provenance`. -/
def claimBuilderProvenance (plan : ClaimBuilderSectionWorkPlan) : Payload :=
  Payload.ofEntries
    [("workflow_run_id", .str plan.workflowRunId),
      ("stage_run_id", .str "claim_builder_section_extraction"),
      ("source_unit_ref", .str plan.sourceUnitRef), ("work_item_id", .str plan.workItemId),
      ("prompt_id", .str claimBuilderPromptId), ("prompt_version", .str claimBuilderPromptVersion)]

/-- `_schedule_payload`. -/
def schedulePayload (env : ScheduleEnv) (plan : ClaimBuilderSectionWorkPlan)
    (tokenEstimate : Payload) : Payload :=
  Payload.ofEntries
    ([("workflow_run_id", .str plan.workflowRunId),
      ("source_document_ref", .str plan.sourceDocumentRef),
      ("source_unit_ref", .str plan.sourceUnitRef),
      ("source_unit_ordinal", .int plan.sourceUnitOrdinal),
      ("phase", .str "claim_builder_section_extraction"),
      ("provider_messages", providerMessages env plan),
      ("llm_capacity_estimate", .dict tokenEstimate),
      ("claim_builder_provenance", .dict (claimBuilderProvenance plan))] ++
    match plan.projectId with
    | some projectId => [("project_id", .str projectId)]
    | none => [])

/-- `_map_plan_to_schedule_plan`. -/
def mapPlanToSchedulePlan (env : ScheduleEnv) (plan : ClaimBuilderSectionWorkPlan) :
    Except Fault WorkItemSchedulePlan := do
  let tokenEstimate ← claimBuilderTokenEstimate env.profile plan.sourceUnitText.length
  return { workItemId := plan.workItemId, workKind := plan.workKind
           idempotencyKey := plan.idempotencyKey
           payload := schedulePayload env plan tokenEstimate }

/-- The schedule plans of some source units. -/
def sectionSchedulePlans (env : ScheduleEnv) (workflowRunId : String) (projectId : Option String)
    (sourceDocumentRef : String) (sourceUnits : List SourceUnit) :
    Except Fault (List WorkItemSchedulePlan) := do
  let plans ← planClaimBuilderSectionWork workflowRunId projectId sourceDocumentRef sourceUnits
  plans.mapM (mapPlanToSchedulePlan env)

/-- `ScheduleClaimBuilderSectionWork.execute` without a projection writer. -/
def scheduleClaimBuilderSectionWork (env : ScheduleEnv) (now : Int) (store : ExecutionStore)
    (workflowRunId : String) (projectId : Option String) (sourceDocumentRef : String)
    (sourceUnits : List SourceUnit) :
    Except Fault (List EnsureWorkItemScheduledOutcome × ExecutionStore) := do
  let plans ← sectionSchedulePlans env workflowRunId projectId sourceDocumentRef sourceUnits
  ensureWorkItemsScheduled env.payloadHash now store plans

theorem mapPlanToSchedulePlan_workItemId {env : ScheduleEnv} {plan : ClaimBuilderSectionWorkPlan}
    {schedule : WorkItemSchedulePlan} (h : mapPlanToSchedulePlan env plan = .ok schedule) :
    schedule.workItemId = plan.workItemId := by
  obtain ⟨_, _, heq⟩ := bind_eq_ok.mp h
  cases heq
  rfl

/-- The planned items are those of the source units, whatever the prompt, the
project and the model profile are. -/
theorem sectionSchedulePlans_ids {env : ScheduleEnv} {workflowRunId sourceDocumentRef : String}
    {projectId : Option String} {sourceUnits : List SourceUnit}
    {plans : List WorkItemSchedulePlan}
    (h : sectionSchedulePlans env workflowRunId projectId sourceDocumentRef sourceUnits = .ok plans)
    (id : String) :
    (∃ plan ∈ plans, plan.workItemId = id) ↔
      ∃ unit ∈ sourceUnits, claimBuilderSectionWorkItemId workflowRunId unit.unitRef = id := by
  obtain ⟨workPlans, hworkPlans, hmap⟩ := bind_eq_ok.mp h
  have hall := forall₂_of_mapM hmap
  have hids : plans.map WorkItemSchedulePlan.workItemId =
      workPlans.map ClaimBuilderSectionWorkPlan.workItemId := by
    clear hmap h hworkPlans
    induction hall with
    | nil => rfl
    | cons hhead _ ih =>
      rw [List.map_cons, List.map_cons, mapPlanToSchedulePlan_workItemId hhead, ih]
  have hunits : workPlans = (sourceUnits.insertionSort fun first second =>
      first.ordinal ≤ second.ordinal).map
          (buildPlan workflowRunId projectId sourceDocumentRef) := by
    unfold planClaimBuilderSectionWork at hworkPlans
    split at hworkPlans
    · cases hworkPlans
    · split at hworkPlans
      · cases hworkPlans
      · cases hworkPlans
        rfl
  rw [← List.mem_map, hids, hunits, List.map_map, List.mem_map]
  simp only [List.mem_insertionSort]
  rfl

/-- Scheduling the same source units again creates no work. -/
theorem scheduleClaimBuilderSectionWork_again {env laterEnv : ScheduleEnv} {now laterNow : Int}
    {store later : ExecutionStore} {workflowRunId sourceDocumentRef : String}
    {projectId laterProject : Option String} {sourceUnits laterUnits : List SourceUnit}
    {first second : List EnsureWorkItemScheduledOutcome × ExecutionStore}
    (hfirst : scheduleClaimBuilderSectionWork env now store workflowRunId projectId
      sourceDocumentRef sourceUnits = .ok first)
    (hunits : ∀ unit ∈ laterUnits, ∃ known ∈ sourceUnits, known.unitRef = unit.unitRef)
    (hlater : ∀ id ∈ first.2.workItems.keys, id ∈ later.workItems.keys)
    (hsecond : scheduleClaimBuilderSectionWork laterEnv laterNow later workflowRunId laterProject
      sourceDocumentRef laterUnits = .ok second) :
    second.2 = later ∧ outcomeCount .created second.1 = 0 := by
  obtain ⟨plans, hplans, hensured⟩ := bind_eq_ok.mp hfirst
  obtain ⟨laterPlans, hlaterPlans, hagain⟩ := bind_eq_ok.mp hsecond
  apply ensureWorkItemsScheduled_again hensured _ hlater hagain
  intro plan hplan
  obtain ⟨unit, hunit, hid⟩ := (sectionSchedulePlans_ids hlaterPlans plan.workItemId).mp
    ⟨plan, hplan, rfl⟩
  obtain ⟨known, hknown, href⟩ := hunits unit hunit
  apply (sectionSchedulePlans_ids hplans plan.workItemId).mpr
  refine ⟨known, hknown, ?_⟩
  rw [href]
  exact hid

/-! The command after the scheduling -/

/-- The entry of an account under the free plan of the primary model. -/
def freePlanEntry (accountRef : String) : Payload :=
  Payload.ofEntries
    [("provider", .str "groq"), ("account_ref", .str accountRef),
      ("model_ref", .str "qwen/qwen3-32b"), ("remaining_minute_requests", .int 60),
      ("remaining_minute_tokens", .int 6000), ("remaining_daily_requests", .int 1000),
      ("remaining_daily_tokens", .int 500000)]

/-- `build_account_capacities` for the configured accounts, as the payload lists them. -/
def freePlanEntries (providerAccountRefs : List String) : Except Fault (List PyValue) :=
  if providerAccountRefs = [] ∨ providerAccountRefs.any isBlank = true then
    .error (.valueError "provider_account_refs must be non-empty")
  else .ok (providerAccountRefs.map fun accountRef => .dict (freePlanEntry accountRef))

/-- The dispatch preparation of a number of items on listed accounts. -/
def plannedPreparation (scheduledWorkItemCount : Nat) (accounts : List PyValue) : Payload :=
  Payload.ofEntries
    [("active_model_ref", .str "qwen/qwen3-32b"), ("requested_items", .int scheduledWorkItemCount),
      ("profile", .dict (Payload.ofEntries
        [("profile_id", .str "faq_claim_observations.real_due_batch"), ("input_tokens", .int 1),
          ("artifact_tokens", .int 1), ("request_count", .int 1)])),
      ("account_capacities", .list accounts)]

/-- `_claim_builder_dispatch_preparation_payload`. -/
def dispatchPreparationPayload (providerAccountRefs : List String) (scheduledWorkItemCount : Nat) :
    Except Fault Payload :=
  if scheduledWorkItemCount = 0 then
    .error (.valueError "scheduled_work_item_count must be positive")
  else do
    let accounts ← freePlanEntries providerAccountRefs
    return plannedPreparation scheduledWorkItemCount accounts

/-- `_capacity_drain_trigger_command` of the schedule handler. -/
def scheduleDrainTriggerCommand (workflowRunId ref : String) (providerAccountRefs : List String)
    (scheduledWorkItemCount : Nat) (occurredAt : Int) : Except Fault WorkflowCommand := do
  let preparation ← dispatchPreparationPayload providerAccountRefs scheduledWorkItemCount
  buildCapacityDrainTriggerCommand workflowRunId ref preparation scheduledWorkItemCount []
    occurredAt occurredAt

/-- `_prepare_dispatch_batch_command` of the schedule handler. -/
def schedulePrepareCommand (workflowRunId ref : String) (providerAccountRefs : List String)
    (scheduledWorkItemCount : Nat) (occurredAt : Int) : Except Fault WorkflowCommand := do
  let preparation ← dispatchPreparationPayload providerAccountRefs scheduledWorkItemCount
  return pendingCommand prepareClaimBuilderDispatchBatch workflowRunId
    ("prepare-claim-builder-dispatch-batch:" ++ workflowRunId)
    (Payload.ofEntries
      [("workflow_run_id", .str workflowRunId), ("source_document_ref", .str ref),
        ("scheduled_work_item_count", .int scheduledWorkItemCount),
        ("llm_dispatch_preparation", .dict preparation)])
    occurredAt occurredAt

/-- `_payload_optional_text`. -/
def checkOptionalText (payload : Payload) (key : String) : Except Fault Unit :=
  match payloadGet payload key with
  | none => .ok ()
  | some (.str value) =>
    if isBlank value then
      .error (.valueError ("workflow command payload must include text " ++ key))
    else .ok ()
  | some _ => .error (.valueError ("workflow command payload must include text " ++ key))

/-- The run and the document that an accepted schedule command is about. -/
def scheduledDocument (command : WorkflowCommand) : Except Fault (String × String) := do
  if command.commandType ≠ "ScheduleClaimBuilderSectionWork" then
    .error (.valueError "workflow_command command_type must be ScheduleClaimBuilderSectionWork")
  else if command.status ≠ .pending then
    .error (.valueError "workflow_command status must be PENDING")
  else
    let workflowRunId ← payloadText command.payload "workflow_run_id" (some command.workflowRunId)
    if workflowRunId ≠ command.workflowRunId then
      .error (.valueError "payload workflow_run_id must match workflow command")
    else
      let ref ← payloadText command.payload "source_document_ref" none
      checkOptionalText command.payload "project_id"
      return (workflowRunId, ref)

/-- The command that the schedule handler appends after it has scheduled a number of
items without a conflict: the capacity queue or the prepare handler goes on. -/
def afterScheduling (capacityQueueOwnsDispatch : Bool) (command : WorkflowCommand)
    (providerAccountRefs : List String) (scheduledWorkItemCount : Nat) :
    Except Fault WorkflowCommand := do
  let (workflowRunId, ref) ← scheduledDocument command
  if capacityQueueOwnsDispatch then
    scheduleDrainTriggerCommand workflowRunId ref providerAccountRefs scheduledWorkItemCount
      command.updatedAt
  else
    schedulePrepareCommand workflowRunId ref providerAccountRefs scheduledWorkItemCount
      command.updatedAt

/-- The schedule handler on the command log. -/
def handleScheduleSectionWork (capacityQueueOwnsDispatch : Bool) (log : CommandLog)
    (command : WorkflowCommand) (providerAccountRefs : List String)
    (scheduledWorkItemCount : Nat) : Except Fault CommandLog := do
  let next ← afterScheduling capacityQueueOwnsDispatch command providerAccountRefs
    scheduledWorkItemCount
  let log ← appendNext log (some next)
  markCommandCompleted log command.commandId command.updatedAt

end CrmBot.ClaimBuilder
