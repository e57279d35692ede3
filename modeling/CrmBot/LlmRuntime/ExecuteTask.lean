import CrmBot.LlmRuntime.RoutePlanning

/-!
One execution attempt of a task. A failure that concerns the route is planned
from the candidates alone; the time that the provider names reaches the error
policy for the other failures only, which have no use for it.
-/

namespace CrmBot.LlmRuntime

open CrmBot.Python

inductive LlmTaskStatus
  | ready
  | running
  | succeeded
  | deferred
  | retryableFailed
  | terminalFailed
  | cancelled
  deriving DecidableEq, Repr

def LlmTaskStatus.value : LlmTaskStatus → String
  | .ready => "ready"
  | .running => "running"
  | .succeeded => "succeeded"
  | .deferred => "deferred"
  | .retryableFailed => "retryable_failed"
  | .terminalFailed => "terminal_failed"
  | .cancelled => "cancelled"

/-- `LlmTask` with the conditions its constructor checks. -/
structure LlmTask where
  taskId : String
  status : LlmTaskStatus
  attemptCount : Nat
  selectedRoute : Option RouteKey
  waitUntil : Option Int
  lastErrorKind : Option LlmErrorKind
  taskId_nonblank : isBlank taskId = false
  running_route : status = .running → selectedRoute.isSome = true
  waitUntil_iff : waitUntil.isSome = true ↔ status = .deferred

namespace LlmTaskStateMachine

def startReady (task : LlmTask) (route : RouteKey) : Except Fault LlmTask :=
  if task.status = .ready ∨ task.status = .deferred ∨ task.status = .retryableFailed then
    .ok
      { task with
        status := .running
        attemptCount := task.attemptCount + 1
        selectedRoute := some route
        waitUntil := none
        lastErrorKind := none
        running_route := by simp
        waitUntil_iff := by simp }
  else
    .error (.valueError ("Cannot start task from status " ++ task.status.value))

def requireRunning (task : LlmTask) (action : String) : Except Fault Unit :=
  if task.status = .running then
    .ok ()
  else
    .error (.valueError ("Cannot " ++ action ++ " task from status " ++ task.status.value))

def succeedRunning (task : LlmTask) : Except Fault LlmTask := do
  requireRunning task "succeed"
  return { task with
    status := .succeeded
    waitUntil := none
    lastErrorKind := none
    running_route := by simp
    waitUntil_iff := by simp }

def deferRunning (task : LlmTask) (waitUntil : Int) (errorKind : LlmErrorKind) :
    Except Fault LlmTask := do
  requireRunning task "defer"
  return { task with
    status := .deferred
    waitUntil := some waitUntil
    lastErrorKind := some errorKind
    running_route := by simp
    waitUntil_iff := by simp }

def failRunningRetryable (task : LlmTask) (errorKind : LlmErrorKind) : Except Fault LlmTask := do
  requireRunning task "mark retryable failed"
  return { task with
    status := .retryableFailed
    waitUntil := none
    lastErrorKind := some errorKind
    running_route := by simp
    waitUntil_iff := by simp }

def failRunningTerminal (task : LlmTask) (errorKind : LlmErrorKind) : Except Fault LlmTask := do
  requireRunning task "mark terminal failed"
  return { task with
    status := .terminalFailed
    waitUntil := none
    lastErrorKind := some errorKind
    running_route := by simp
    waitUntil_iff := by simp }

end LlmTaskStateMachine

/-- The kinds of `LlmErrorDisposition` with what each of them must carry. -/
inductive LlmErrorDisposition
  | retrySameRoute
  | deferUntil (waitUntil : Int)
  | tryAlternateRoute
  | validationRetry
  | confirmEmptyOutput
  | terminalFailure
  deriving DecidableEq, Repr

/-- `LlmErrorPolicy.decide`. -/
def decideError (errorKind : LlmErrorKind) (waitUntil : Option Int) :
    Except Fault LlmErrorDisposition :=
  match errorKind with
  | .minuteLimit =>
    match waitUntil with
    | some instant => .ok (.deferUntil instant)
    | none => .error (.valueError "DEFER_UNTIL disposition must have wait_until")
  | .requestTooLarge | .outputTooLarge | .dailyLimit => .ok .tryAlternateRoute
  | .invalidOutput | .validationFailed => .ok .validationRetry
  | .emptyOutput => .ok .confirmEmptyOutput
  | .authError => .ok .terminalFailure
  | .networkError | .unknown => .ok .retrySameRoute

/-- The kinds of `ExecuteLlmTaskOutcome` with what each of them must carry. -/
inductive LlmTaskOutcome
  | succeeded (task : LlmTask) (rawText : String) (usage : Option TokenUsage)
  | routeChangeRequired (task : LlmTask) (route : RouteKey) (errorKind : LlmErrorKind)
  | deferred (task : LlmTask) (waitUntil : Int) (errorKind : LlmErrorKind)
  | retryRequired (task : LlmTask) (errorKind : LlmErrorKind)
  | splitRequired (task : LlmTask) (errorKind : LlmErrorKind)
  | dailyExhausted (task : LlmTask) (errorKind : LlmErrorKind)
  | confirmEmptyOutputRequired (task : LlmTask) (errorKind : LlmErrorKind)
  | terminalFailed (task : LlmTask) (errorKind : LlmErrorKind)

structure ExecuteLlmTaskCommand (Input : Type*) where
  task : LlmTask
  route : RouteKey
  candidates : List RouteCandidate
  providerInput : Input

namespace ExecuteLlmTask

open LlmTaskStateMachine

def handleRouteRelevantFailure (runningTask : LlmTask) (errorKind : LlmErrorKind)
    (currentRoute : RouteKey) (candidates : List RouteCandidate) :
    Except Fault LlmTaskOutcome := do
  let decision ← planRoute errorKind currentRoute candidates
  match decision.plan with
  | .useRoute route =>
    let task ← failRunningRetryable runningTask errorKind
    return .routeChangeRequired task route errorKind
  | .waitUntil instant =>
    let task ← deferRunning runningTask instant errorKind
    return .deferred task instant errorKind
  | .splitRequired =>
    let task ← failRunningTerminal runningTask errorKind
    return .splitRequired task errorKind
  | .dailyExhausted =>
    let task ← failRunningRetryable runningTask errorKind
    return .dailyExhausted task errorKind
  | .terminalFailure =>
    let task ← failRunningTerminal runningTask errorKind
    return .terminalFailed task errorKind
  | .retrySameRoute =>
    let task ← failRunningRetryable runningTask errorKind
    return .retryRequired task errorKind

def handleFailure (runningTask : LlmTask) (errorKind : LlmErrorKind) (waitUntil : Option Int)
    (currentRoute : RouteKey) (candidates : List RouteCandidate) :
    Except Fault LlmTaskOutcome := do
  if errorKind = .requestTooLarge ∨ errorKind = .outputTooLarge ∨ errorKind = .minuteLimit ∨
      errorKind = .dailyLimit then
    handleRouteRelevantFailure runningTask errorKind currentRoute candidates
  else
    let disposition ← decideError errorKind waitUntil
    match disposition with
    | .deferUntil instant =>
      let task ← deferRunning runningTask instant errorKind
      return .deferred task instant errorKind
    | .confirmEmptyOutput =>
      let task ← failRunningRetryable runningTask errorKind
      return .confirmEmptyOutputRequired task errorKind
    | .terminalFailure =>
      let task ← failRunningTerminal runningTask errorKind
      return .terminalFailed task errorKind
    | .retrySameRoute | .tryAlternateRoute | .validationRetry =>
      let task ← failRunningRetryable runningTask errorKind
      return .retryRequired task errorKind

/-- `ExecuteLlmTask.execute`, over a provider and an output validator, which
answers with the error kind of an output it refuses. -/
def execute {Input : Type*} (invoke : LlmTask → RouteKey → Input → LlmProviderResult)
    (validate : LlmTask → String → Option LlmErrorKind)
    (command : ExecuteLlmTaskCommand Input) : Except Fault LlmTaskOutcome := do
  let runningTask ← startReady command.task command.route
  match invoke runningTask command.route command.providerInput with
  | .success rawText usage =>
    match validate runningTask rawText with
    | none =>
      let task ← succeedRunning runningTask
      return .succeeded task rawText usage
    | some errorKind =>
      handleFailure runningTask errorKind none command.route command.candidates
  | .failure errorKind waitUntil =>
    handleFailure runningTask errorKind waitUntil command.route command.candidates

variable {Input : Type*} {command : ExecuteLlmTaskCommand Input}

theorem startReady_ok {task runningTask : LlmTask} {route : RouteKey}
    (h : startReady task route = .ok runningTask) :
    runningTask.status = .running ∧ runningTask.selectedRoute = some route := by
  unfold startReady at h
  split at h
  · cases h
    exact ⟨rfl, rfl⟩
  · cases h

theorem exists_deferRunning {task : LlmTask} (hrunning : task.status = .running) (instant : Int)
    (errorKind : LlmErrorKind) :
    ∃ deferred, deferRunning task instant errorKind = .ok deferred ∧
      deferred.selectedRoute = task.selectedRoute ∧ deferred.waitUntil = some instant := by
  unfold deferRunning requireRunning
  rw [if_pos hrunning]
  exact ⟨_, rfl, rfl, rfl⟩

theorem exists_failRunningRetryable {task : LlmTask} (hrunning : task.status = .running)
    (errorKind : LlmErrorKind) :
    ∃ failed, failRunningRetryable task errorKind = .ok failed := by
  unfold failRunningRetryable requireRunning
  rw [if_pos hrunning]
  exact ⟨_, rfl⟩

/-- A result that moves to another available route, or waits for the route of
the command until the given time at least. -/
def RespectsWait (command : ExecuteLlmTaskCommand Input) (waitUntil : Int)
    (result : Except Fault LlmTaskOutcome) : Prop :=
  (∃ task route errorKind, result = .ok (.routeChangeRequired task route errorKind) ∧
    route ≠ command.route ∧
    ∃ candidate ∈ command.candidates, candidate.route = route ∧
      candidate.availableNow = true) ∨
  (∃ task instant errorKind, result = .ok (.deferred task instant errorKind) ∧
    task.selectedRoute = some command.route ∧ task.waitUntil = some instant ∧
    waitUntil ≤ instant)

/-- An account of the same model that is available now. -/
def OtherAccountAvailable (command : ExecuteLlmTaskCommand Input) : Prop :=
  ∃ candidate ∈ command.candidates, candidate.availableNow = true ∧
    candidate.route.provider = command.route.provider ∧
    candidate.route.modelRef = command.route.modelRef ∧
    candidate.route.accountRef ≠ command.route.accountRef

/-- The route is listed, and another account is available or some candidate has
a waiting time and none has an earlier one than the provider. -/
structure WaitCovered (command : ExecuteLlmTaskCommand Input) (waitUntil : Int) : Prop where
  listed : ∃ candidate ∈ command.candidates, candidate.route = command.route
  covered : OtherAccountAvailable command ∨
    (∃ candidate ∈ command.candidates, candidate.unavailableUntil.isSome = true) ∧
      ∀ candidate ∈ command.candidates, ∀ instant ∈ candidate.unavailableUntil,
        waitUntil ≤ instant

theorem noneUsable_minuteLimit_iff {current : RouteCandidate}
    (hroute : current.route = command.route) :
    NoneUsable .minuteLimit current command.candidates ↔ ¬ OtherAccountAvailable command := by
  have husable (candidate : RouteCandidate) :
      Usable .minuteLimit current candidate ↔ candidate.availableNow = true ∧
        candidate.route.provider = command.route.provider ∧
        candidate.route.modelRef = command.route.modelRef ∧
        candidate.route.accountRef ≠ command.route.accountRef := by
    have hallowed : Allowed .minuteLimit current candidate ↔
        sameModelOtherAccount current candidate = true := Iff.rfl
    rw [← hroute, ← and_assoc (c := _ ≠ _)]
    constructor
    · rintro ⟨havailable, hmoves⟩
      simpa [sameModelOtherAccount, havailable] using hallowed.mp hmoves
    · rintro ⟨havailable, hmoves⟩
      exact ⟨havailable, hallowed.mpr (by simpa [sameModelOtherAccount] using hmoves)⟩
  simp only [NoneUsable, husable, OtherAccountAvailable]
  push Not
  rfl

/-- A minute limit is handled by the candidates alone: the provider's time is
not passed on. -/
theorem execute_of_minuteLimit {invoke : LlmTask → RouteKey → Input → LlmProviderResult}
    {validate : LlmTask → String → Option LlmErrorKind} {runningTask : LlmTask}
    {waitUntil : Option Int}
    (hstart : startReady command.task command.route = .ok runningTask)
    (hfails : invoke runningTask command.route command.providerInput =
      .failure .minuteLimit waitUntil) :
    execute invoke validate command =
      handleRouteRelevantFailure runningTask .minuteLimit command.route command.candidates := by
  unfold execute
  rw [hstart]
  simp only [bind, Except.bind, hfails, handleFailure]
  rfl

theorem respectsWait_routeChange {task : LlmTask} {route : RouteKey} {errorKind : LlmErrorKind}
    {waitUntil : Int} :
    RespectsWait command waitUntil (.ok (.routeChangeRequired task route errorKind)) ↔
      route ≠ command.route ∧
      ∃ candidate ∈ command.candidates, candidate.route = route ∧
        candidate.availableNow = true := by
  constructor
  · rintro (⟨_, _, _, heq, hroute⟩ | ⟨_, _, _, heq, -⟩)
    · cases heq
      exact hroute
    · cases heq
  · exact fun hroute => .inl ⟨_, _, _, rfl, hroute⟩

theorem respectsWait_deferred {task : LlmTask} {instant : Int} {errorKind : LlmErrorKind}
    {waitUntil : Int} :
    RespectsWait command waitUntil (.ok (.deferred task instant errorKind)) ↔
      task.selectedRoute = some command.route ∧ task.waitUntil = some instant ∧
        waitUntil ≤ instant := by
  constructor
  · rintro (⟨_, _, _, heq, -⟩ | ⟨_, _, _, heq, hwaits⟩)
    · cases heq
    · cases heq
      exact hwaits
  · exact fun hwaits => .inr ⟨_, _, _, rfl, hwaits⟩

theorem nearestUnavailableUntil_eq_none_iff (candidates : List RouteCandidate) :
    nearestUnavailableUntil candidates = none ↔
      ∀ candidate ∈ candidates, candidate.unavailableUntil.isSome = false := by
  rw [nearestUnavailableUntil, List.min?_eq_none_iff, List.filterMap_eq_nil_iff]
  simp

/-- The least waiting time is late enough when all of them are. -/
theorem le_nearest_iff {candidates : List RouteCandidate} {nearest : Int}
    (hnearest : nearestUnavailableUntil candidates = some nearest) (waitUntil : Int) :
    waitUntil ≤ nearest ↔ ∀ candidate ∈ candidates, ∀ instant ∈ candidate.unavailableUntil,
      waitUntil ≤ instant := by
  obtain ⟨⟨witness, hlisted, hwitness⟩, hleast⟩ :=
    (nearestUnavailableUntil_eq_some_iff nearest).mp hnearest
  constructor
  · intro hle candidate hcandidate instant hinstant
    exact hle.trans (hleast ⟨candidate, hcandidate, hinstant⟩)
  · intro hall
    exact hall witness hlisted nearest hwitness

/-- An execution that fails with a minute limit respects the provider's time
exactly when the candidates happen to cover it. -/
theorem execute_respectsWait_iff (invoke : LlmTask → RouteKey → Input → LlmProviderResult)
    (validate : LlmTask → String → Option LlmErrorKind) (command : ExecuteLlmTaskCommand Input)
    {runningTask : LlmTask} {waitUntil : Int}
    (hstart : startReady command.task command.route = .ok runningTask)
    (hfails : invoke runningTask command.route command.providerInput =
      .failure .minuteLimit (some waitUntil)) :
    RespectsWait command waitUntil (execute invoke validate command) ↔
      WaitCovered command waitUntil := by
  obtain ⟨hrunning, hselected⟩ := startReady_ok hstart
  obtain ⟨failed, hfailed⟩ := exists_failRunningRetryable hrunning .minuteLimit
  rw [execute_of_minuteLimit hstart hfails]
  unfold handleRouteRelevantFailure planRoute
  cases hfind : command.candidates.find? fun candidate => candidate.route = command.route with
  | none =>
    -- The route of the command is not listed: the planner raises.
    refine iff_of_false ?_ fun hcovered => ?_
    · rintro (⟨_, _, _, heq, -⟩ | ⟨_, _, _, heq, -⟩) <;> cases heq
    · obtain ⟨candidate, hcandidate, hroute⟩ := hcovered.listed
      simpa [hroute] using List.find?_eq_none.mp hfind candidate hcandidate
  | some current =>
    have hlisted := List.mem_of_find?_eq_some hfind
    have hroute : current.route = command.route := by simpa using List.find?_some hfind
    have hnone : NoneUsable .minuteLimit current command.candidates ↔
        ¬ OtherAccountAvailable command := noneUsable_minuteLimit_iff hroute
    have hoptimal := optimal_planFrom .minuteLimit current command.candidates
    by_cases hother : OtherAccountAvailable command
    · -- Another account of the model takes over.
      obtain ⟨route, hplan⟩ := hoptimal.useRoute_complete fun h => hnone.mp h hother
      obtain ⟨candidate, rfl, hfirst⟩ := hoptimal.useRoute_sound route hplan
      simp only [bind, Except.bind, hplan, hfailed]
      have hmoves : sameModelOtherAccount current candidate = true := hfirst.usable.allowed
      have hdifferent : candidate.route ≠ command.route := by
        intro hsame
        simp [sameModelOtherAccount, hsame, hroute] at hmoves
      refine iff_of_true (respectsWait_routeChange.mpr ⟨hdifferent, candidate, hfirst.listed,
        rfl, hfirst.usable.available⟩) ⟨⟨current, hlisted, hroute⟩, .inl hother⟩
    · have hnoneUsable := hnone.mpr hother
      cases hnearest : nearestUnavailableUntil command.candidates with
      | none =>
        -- No waiting time at all: the task is to be retried at once.
        have hplan := planFrom_minuteLimit_of_no_wait hnoneUsable hnearest
        simp only [bind, Except.bind, hplan, hfailed]
        refine iff_of_false ?_ fun hcovered => ?_
        · rintro (⟨_, _, _, heq, -⟩ | ⟨_, _, _, heq, -⟩) <;> cases heq
        · obtain ⟨candidate, hcandidate, hsome⟩ := (hcovered.covered.resolve_left hother).1
          rw [(nearestUnavailableUntil_eq_none_iff _).mp hnearest candidate hcandidate] at hsome
          cases hsome
      | some nearest =>
        have hleast := (nearestUnavailableUntil_eq_some_iff nearest).mp hnearest
        have hplan := (hoptimal.wait_iff nearest).mpr ⟨rfl, hnoneUsable, hleast⟩
        obtain ⟨deferred, hdeferred, hkept, hwaits⟩ :=
          exists_deferRunning hrunning nearest .minuteLimit
        simp only [bind, Except.bind, hplan, hdeferred]
        refine respectsWait_deferred.trans ?_
        rw [hkept, hselected, hwaits, le_nearest_iff hnearest]
        obtain ⟨waiting, hwaiting, hinstant⟩ := hleast.1
        constructor
        · rintro ⟨-, -, hlate⟩
          refine ⟨⟨current, hlisted, hroute⟩, .inr ⟨⟨waiting, hwaiting, ?_⟩, hlate⟩⟩
          rw [hinstant]
          rfl
        · intro hcovered
          exact ⟨rfl, rfl, (hcovered.covered.resolve_left hother).2⟩

/-- A first attempt on the only route, of whose quota nothing is known. -/
def onlyRouteCommand : ExecuteLlmTaskCommand Unit where
  task := ⟨"task", .ready, 0, none, none, none, by decide, by simp, by simp⟩
  route := ⟨"groq", "a", "small"⟩
  candidates :=
    [⟨⟨"groq", "a", "small"⟩, 8000, 2000, 0, 0, true, true, none, by decide, by decide⟩]
  providerInput := ()

/-- The provider names the time 60, and the task is to be retried at once. -/
theorem onlyRoute_time_dropped :
    ∃ task, execute (fun _ _ _ => .failure .minuteLimit (some 60)) (fun _ _ => none)
        onlyRouteCommand = .ok (.retryRequired task .minuteLimit) ∧ task.waitUntil = none :=
  ⟨_, rfl, rfl⟩

/-- The time of a candidate that is known to wait longer is kept. -/
theorem waitingRoute_respectsWait_iff :
    let command : ExecuteLlmTaskCommand Unit :=
      { onlyRouteCommand with
        candidates :=
          [⟨⟨"groq", "a", "small"⟩, 8000, 2000, 0, 0, false, true, some 90, by decide,
            by decide⟩] }
    RespectsWait command 60
        (execute (fun _ _ _ => .failure .minuteLimit (some 60)) (fun _ _ => none) command) ↔
      WaitCovered command 60 :=
  execute_respectsWait_iff _ _ _ rfl rfl

end ExecuteLlmTask

end CrmBot.LlmRuntime
