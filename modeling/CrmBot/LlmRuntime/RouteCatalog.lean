import CrmBot.ExecutionRuntime.WorkItem
import Mathlib.Data.List.Sort

/-! The model route catalog and `ResolveLlmDispatchPreparationStrategy`. -/

namespace CrmBot.LlmRuntime

open CrmBot.Python CrmBot.ExecutionRuntime

inductive RouteRole
  | primary
  | automaticFallback
  | degradedUserChoice
  deriving DecidableEq, Repr

structure ModelExecutionSettings where
  reasoningEnabled : Bool
  reasoningEffort : Option String
  effort_enabled : reasoningEffort.isSome = true → reasoningEnabled = true
  deriving DecidableEq

structure ModelRoute where
  modelRef : String
  role : RouteRole
  order : Nat
  executionSettings : ModelExecutionSettings
  inputTokenLimit : Nat
  outputTokenLimit : Nat
  inputTokenLimit_pos : 0 < inputTokenLimit
  outputTokenLimit_pos : 0 < outputTokenLimit

/-- `LlmModelRouteCatalog`: models and orders are unique, and there is exactly
one primary and one degraded route. -/
structure RouteCatalog where
  routes : List ModelRoute
  modelRef_nodup : (routes.map ModelRoute.modelRef).Nodup
  order_nodup : (routes.map ModelRoute.order).Nodup
  one_primary : (routes.filter fun route => route.role = .primary).length = 1
  one_degraded : (routes.filter fun route => route.role = .degradedUserChoice).length = 1

namespace RouteCatalog

def routeForModelRef (catalog : RouteCatalog) (modelRef : String) : Option ModelRoute :=
  catalog.routes.find? fun route => route.modelRef = modelRef

def executionSettingsForModelRef (catalog : RouteCatalog) (modelRef : String) :
    Except Fault ModelExecutionSettings :=
  match catalog.routeForModelRef modelRef with
  | none => .error (.valueError "model_ref is not in route catalog")
  | some route => .ok route.executionSettings

/-- `_ordered_routes_with_role`. -/
def orderedRoutesWithRole (catalog : RouteCatalog) (role : RouteRole) : List ModelRoute :=
  (catalog.routes.filter fun route => route.role = role).insertionSort
    fun first second => first.order ≤ second.order

def automaticFallbackModelRefs (catalog : RouteCatalog) : List String :=
  (catalog.orderedRoutesWithRole .automaticFallback).map ModelRoute.modelRef

def dailyLimitFallbackExcludedModelRefs : List String := ["openai/gpt-oss-120b"]

def automaticFallbackModelRefsForDailyLimit (catalog : RouteCatalog) : List String :=
  catalog.automaticFallbackModelRefs.filter fun modelRef =>
    modelRef ∉ dailyLimitFallbackExcludedModelRefs

/-- `automatic_fallback_model_refs_with_larger_input_limit` and its sibling for
outputs: the fallback models above the current one in a limit. -/
def automaticFallbackModelRefsWithLarger (catalog : RouteCatalog) (limit : ModelRoute → Nat)
    (currentModelRef : String) : Except Fault (List String) :=
  match catalog.routeForModelRef currentModelRef with
  | none => .error (.valueError "model_ref is not in route catalog")
  | some current => .ok
    (((catalog.orderedRoutesWithRole .automaticFallback).filter fun route =>
      limit current < limit route).map ModelRoute.modelRef)

def automaticFallbackModelRefsWithLargerInputLimit (catalog : RouteCatalog)
    (currentModelRef : String) : Except Fault (List String) :=
  catalog.automaticFallbackModelRefsWithLarger ModelRoute.inputTokenLimit currentModelRef

def automaticFallbackModelRefsWithLargerOutputLimit (catalog : RouteCatalog)
    (currentModelRef : String) : Except Fault (List String) :=
  catalog.automaticFallbackModelRefsWithLarger ModelRoute.outputTokenLimit currentModelRef

end RouteCatalog

theorem smallInputLimit_pos : 0 < 6000 := by decide

theorem smallOutputLimit_pos : 0 < 8192 := by decide

/-- `default_groq_llm_model_route_catalog`. -/
def defaultGroqLlmModelRouteCatalog : RouteCatalog :=
  let reasoningDisabled : ModelExecutionSettings :=
    { reasoningEnabled := false, reasoningEffort := none, effort_enabled := by simp }
  { routes :=
      [{ modelRef := "qwen/qwen3-32b", role := .primary, order := 0
         executionSettings := reasoningDisabled, inputTokenLimit := 6000, outputTokenLimit := 8192
         inputTokenLimit_pos := smallInputLimit_pos, outputTokenLimit_pos := smallOutputLimit_pos },
       { modelRef := "llama-3.3-70b-versatile", role := .automaticFallback, order := 1
         executionSettings := reasoningDisabled, inputTokenLimit := 12000, outputTokenLimit := 32768
         inputTokenLimit_pos := by decide, outputTokenLimit_pos := by decide },
       { modelRef := "meta-llama/llama-4-scout-17b-16e-instruct", role := .automaticFallback
         order := 2, executionSettings := reasoningDisabled, inputTokenLimit := 30000
         outputTokenLimit := 32768, inputTokenLimit_pos := by decide
         outputTokenLimit_pos := by decide },
       { modelRef := "openai/gpt-oss-120b", role := .automaticFallback, order := 3
         executionSettings := reasoningDisabled, inputTokenLimit := 131072
         outputTokenLimit := 65536, inputTokenLimit_pos := by decide
         outputTokenLimit_pos := by decide },
       { modelRef := "llama-3.1-8b-instant", role := .degradedUserChoice, order := 4
         executionSettings := reasoningDisabled, inputTokenLimit := 6000, outputTokenLimit := 4096
         inputTokenLimit_pos := smallInputLimit_pos, outputTokenLimit_pos := by decide }]
    modelRef_nodup := by decide
    order_nodup := by decide
    one_primary := by decide
    one_degraded := by decide }

/-! `ResolveLlmDispatchPreparationStrategy` -/

/-- The first of the candidate models, or the error for none. -/
def firstFallback (candidates : List String) (message : String) : Except Fault String :=
  match candidates with
  | [] => .error (.valueError message)
  | first :: _ => .ok first

def firstAutomaticFallback (catalog : RouteCatalog) : Except Fault String :=
  firstFallback catalog.automaticFallbackModelRefs
    "route catalog has no automatic fallback model refs"

def firstDailyLimitFallback (catalog : RouteCatalog) : Except Fault String :=
  firstFallback catalog.automaticFallbackModelRefsForDailyLimit
    "route catalog has no daily-limit fallback model refs"

def validationCheckModelRef (catalog : RouteCatalog) : Except Fault String :=
  match catalog.routeForModelRef "openai/gpt-oss-120b" with
  | none => .error (.valueError "route catalog is missing openai/gpt-oss-120b")
  | some route => .ok route.modelRef

def firstLargerOutputFallback (catalog : RouteCatalog) (currentModelRef : String) :
    Except Fault String := do
  firstFallback (← catalog.automaticFallbackModelRefsWithLargerOutputLimit currentModelRef)
    "route catalog has no automatic fallback model with larger output limit"

def firstLargerInputFallback (catalog : RouteCatalog) (currentModelRef : String) :
    Except Fault String := do
  firstFallback (← catalog.automaticFallbackModelRefsWithLargerInputLimit currentModelRef)
    "route catalog has no automatic fallback model with larger input limit"

/-- `_resolve_retry_plan`. -/
def resolveRetryPlan (catalog : RouteCatalog) (currentActiveModelRef : String)
    (plan : WorkItemRetryPlan) : Except Fault String :=
  match plan with
  | .retrySameRoute | .retryAlternateRoute | .waitNearestAdmissionWindow =>
    .ok currentActiveModelRef
  | .retryValidationCheckRoute => validationCheckModelRef catalog
  | .retryDailyFallbackRoute => firstDailyLimitFallback catalog
  | .retryLargerOutputLimitRoute => firstLargerOutputFallback catalog currentActiveModelRef
  | .retryLargerInputLimitRoute => firstLargerInputFallback catalog currentActiveModelRef
  | .splitWorkPayload | .waitDailyAdmissionReset | .terminal =>
    .error (.valueError ("retry_plan cannot be prepared for dispatch: " ++ plan.value))

/-- `_resolve_legacy_strategy`. -/
def resolveLegacyStrategy (catalog : RouteCatalog) (currentActiveModelRef : String)
    (strategy : Option String) : Except Fault String :=
  match strategy with
  | none => .ok currentActiveModelRef
  | some name =>
    if name ∈ ["SAME_MODEL", "RETRY_SAME_ROUTE"] then .ok currentActiveModelRef
    else if name ∈ ["EMPTY_CLAIMS_CHECK_MODEL_REQUIRED", "RETRY_EMPTY_CLAIMS_CHECK_MODEL"] then
      .error (.valueError
        "phase-specific validation check strategy must be converted to retry_plan")
    else if name = "RETRY_FALLBACK_MODEL" then
      .error (.valueError ("RETRY_FALLBACK_MODEL is not an explicit dispatch preparation " ++
        "strategy; use a specific retry cause strategy instead"))
    else if name = "FALLBACK_MODEL_REQUIRED" then firstAutomaticFallback catalog
    else if name ∈ ["DAILY_LIMIT_FALLBACK_MODEL_REQUIRED", "RETRY_DAILY_LIMIT_FALLBACK_MODEL"] then
      firstDailyLimitFallback catalog
    else if name ∈ ["LARGER_OUTPUT_LIMIT_MODEL_REQUIRED", "RETRY_LARGER_OUTPUT_LIMIT_MODEL"] then
      firstLargerOutputFallback catalog currentActiveModelRef
    else if name ∈ ["LARGER_INPUT_LIMIT_MODEL_REQUIRED", "RETRY_LARGER_INPUT_LIMIT_MODEL"] then
      firstLargerInputFallback catalog currentActiveModelRef
    else .error (.valueError ("unknown llm dispatch preparation strategy: " ++ name))

/-- `ResolveLlmDispatchPreparationStrategy.execute`: a plan goes before a
legacy strategy. -/
def resolveLlmDispatchPreparationStrategy (catalog : RouteCatalog)
    (currentActiveModelRef : String) (plan : Option WorkItemRetryPlan)
    (strategy : Option String) : Except Fault String :=
  match plan with
  | some plan => resolveRetryPlan catalog currentActiveModelRef plan
  | none => resolveLegacyStrategy catalog currentActiveModelRef strategy

end CrmBot.LlmRuntime
