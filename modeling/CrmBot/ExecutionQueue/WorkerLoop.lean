import CrmBot.ExecutionQueue.QueueRepository
import CrmBot.Library.Runs

/-! Workers of the execution queue, each in its own `run_worker_loop`.

An event is one statement of one worker, with the answer the worker gets, or
a change of the surroundings: a new job, a later clock, the end of a worker
process. Workers are named by their `worker_id`. The logs and the backoff,
which `fail_job` only logs, are left out. -/

namespace CrmBot.ExecutionQueue

open Relational CrmBot.Python Runs

/-- `KNOWN_TASK_TYPES`. -/
def knownTaskTypes : List String := ["notify_manager", "update_metrics", "aggregate_metrics"]

/-- How `dispatcher.dispatch` ends. -/
inductive DispatchOutcome
  | returned
  | permanentJobError (message : String)
  | transientJobError (message : String)
  | otherException (message : String)

/-- `JobDispatcher.dispatch`, given how the handler of a known task type ends. -/
def dispatch (job : QueueJobView) (handler : DispatchOutcome) : DispatchOutcome :=
  if job.taskType ∈ knownTaskTypes then handler
  else .permanentJobError ("Unknown task type: " ++ job.taskType)

/-- How a statement ends for the worker that issued it. A connection may break
after the statement was committed, and the worker then sees an error. -/
inductive Answer
  | ok
  | lost (error : String)
  | refused (error : String)

def Answer.applied : Answer → Bool
  | .ok | .lost _ => true
  | .refused _ => false

/-- Where a worker is in its loop: at the top, with the stale jobs it still has
to release before it claims, dispatching a job, or in the handler of an
unexpected exception. -/
inductive WorkerState
  | idle
  | recovering (stale : List String)
  | working (job : QueueJobView)
  | handling (job : QueueJobView) (error : String)

/-- The job a worker has claimed and not yet settled. -/
def WorkerState.job? : WorkerState → Option QueueJobView
  | .idle | .recovering _ => none
  | .working job | .handling job _ => some job

structure System where
  jobs : JobTable
  workers : String → WorkerState
  now : Int

def System.setWorker (system : System) (worker : String) (state : WorkerState) : System :=
  { system with workers := Function.update system.workers worker state }

@[simp] theorem System.setWorker_jobs (system : System) (worker : String) (state : WorkerState) :
    (system.setWorker worker state).jobs = system.jobs := rfl

@[simp] theorem System.setWorker_self (system : System) (worker : String) (state : WorkerState) :
    (system.setWorker worker state).workers worker = state := by
  simp [System.setWorker]

theorem System.setWorker_of_ne (system : System) {worker other : String} (state : WorkerState)
    (hne : other ≠ worker) :
    (system.setWorker worker state).workers other = system.workers other := by
  simp [System.setWorker, hne]

inductive Event
  | enqueue (id taskType : String) (payload : Payload) (maxAttempts : Int)
  | advance (micros : Nat)
  | listStale (worker : String) (answer : Answer)
  | release (worker : String) (answer : Answer)
  | claim (worker : String) (locked : JobRow → Bool) (answer : Answer)
  | finish (worker : String) (handler : DispatchOutcome) (answer : Answer)
  | handle (worker : String) (answer : Answer)
  | crash (worker : String)

/-- The statement by which the loop settles a job. After any other exception
the loop issues none and goes to its handler. -/
def settleJob (jobs : JobTable) (job : QueueJobView) : DispatchOutcome → JobTable
  | .returned => completeJob jobs job.id true none
  | .permanentJobError message => completeJob jobs job.id false (some message)
  | .transientJobError message => failJob jobs job.id message true
  | .otherException _ => jobs

/-- Where the loop is after `dispatch` and the settling statement. -/
def afterDispatch (job : QueueJobView) : DispatchOutcome → Answer → WorkerState
  | .otherException message, _ => .handling job message
  | _, .ok => .idle
  | _, .lost error | _, .refused error => .handling job error

/-- A statement that was refused leaves the table as it was. -/
def applyStatement (answer : Answer) (before after : JobTable) : JobTable :=
  if answer.applied then after else before

/-- One event. An event of a worker that is elsewhere in its loop does nothing. -/
def perform (timeoutMinutes : Int) (before : System) : Event → System
  | .enqueue id taskType payload maxAttempts =>
    { before with jobs := enqueue before.jobs id taskType payload maxAttempts before.now }
  | .advance micros => { before with now := before.now + micros }
  | .listStale worker answer =>
    match before.workers worker, answer with
    | .idle, .ok => before.setWorker worker
        (.recovering (getStaleLockedJobs before.jobs timeoutMinutes before.now))
    | .idle, .lost _ | .idle, .refused _ => before.setWorker worker (.recovering [])
    | _, _ => before
  | .release worker answer =>
    match before.workers worker with
    | .recovering (id :: rest) =>
      { before with
        jobs := applyStatement answer before.jobs (releaseJob before.jobs id) }.setWorker
        worker (.recovering (match answer with | .ok => rest | _ => []))
    | _ => before
  | .claim worker locked answer =>
    match before.workers worker with
    | .recovering [] =>
      let (job?, jobs) := claimJob before.jobs locked worker before.now
      { before with jobs := applyStatement answer before.jobs jobs }.setWorker worker
        (match answer, job? with | .ok, some job => .working job | _, _ => .idle)
    | _ => before
  | .finish worker handler answer =>
    match before.workers worker with
    | .working job =>
      let outcome := dispatch job handler
      { before with
        jobs := applyStatement answer before.jobs (settleJob before.jobs job outcome) }.setWorker
        worker (afterDispatch job outcome answer)
    | _ => before
  | .handle worker answer =>
    match before.workers worker with
    | .handling job error =>
      { before with
        jobs :=
          applyStatement answer before.jobs (failJob before.jobs job.id error true) }.setWorker
        worker .idle
    | _ => before
  | .crash worker => before.setWorker worker .idle

/-! The property. -/

/-- The queue records the worker as the one that processes the job. -/
def JobRow.HeldBy (row : JobRow) (worker : String) : Prop :=
  row.status = .processing ∧ row.workerId = some worker

/-- The changes of a job that fencing allows: a pending job is claimed, a
stale claim is released, and the holder of the claim settles the job. -/
def ChangeAllowed (timeoutMinutes : Int) (before : System) (row : JobRow) : Event → Prop
  | .claim _ _ _ => row.status = .pending
  | .release _ _ => row.stale timeoutMinutes before.now = true
  | .finish worker _ _ | .handle worker _ => row.HeldBy worker
  | _ => False

/-- One event changes only jobs that it may change. -/
def Fenced (timeoutMinutes : Int) (before : System) (event : Event) : Prop :=
  ∀ row ∈ before.jobs.rows, row ∈ (perform timeoutMinutes before event).jobs.rows ∨
    ChangeAllowed timeoutMinutes before row event

/-- The event hands the job to a worker. -/
def HandsOut (timeoutMinutes : Int) (id : String) (before : System) (event : Event) : Prop :=
  ∃ worker job, job.id = id ∧ before.workers worker ≠ .working job ∧
    (perform timeoutMinutes before event).workers worker = .working job

/-- A finished job keeps its status to the end of the run and is never handed
out again. -/
def FinishedForever (timeoutMinutes : Int) (start : System) (events : List Event) : Prop :=
  ∀ earlier later, events = earlier ++ later →
    let reached := earlier.foldl (perform timeoutMinutes) start
    ∀ row ∈ reached.jobs.rows, row.status.finished = true →
      (∃ after ∈ (later.foldl (perform timeoutMinutes) reached).jobs.rows,
        after.id = row.id ∧ after.status = row.status) ∧
      EveryStep (perform timeoutMinutes)
        (fun before event => ¬ HandsOut timeoutMinutes row.id before event) reached later

/-! The condition. -/

/-- A statement that selects the job by its identifier alone finds it held by
the caller, or already as the statement writes it. -/
def MayWrite (before : System) (worker : String) (job : QueueJobView) (update : JobRow → JobRow) :
    Prop :=
  ∀ row ∈ before.jobs.rows, row.id = job.id → row.HeldBy worker ∨ update row = row

/-- The row that `settleJob` writes. -/
def DispatchOutcome.settled : DispatchOutcome → JobRow → JobRow
  | .returned, row => row.completed true none
  | .permanentJobError message, row => row.completed false (some message)
  | .transientJobError message, row => row.failedOnce message true
  | .otherException _, row => row

/-- The call of the event, if it is one that reaches the queue, is current: a
release finds no fresh claim, and a settling call finds the caller's own. -/
def CallIsCurrent (timeoutMinutes : Int) (before : System) : Event → Prop
  | .release worker answer =>
    match before.workers worker with
    | .recovering (id :: _) => answer.applied = true → ∀ row ∈ before.jobs.rows, row.id = id →
        row.status = .processing → row.stale timeoutMinutes before.now = true
    | _ => True
  | .finish worker handler answer =>
    match before.workers worker with
    | .working job =>
      answer.applied = true → MayWrite before worker job (dispatch job handler).settled
    | _ => True
  | .handle worker answer =>
    match before.workers worker with
    | .handling job error =>
      answer.applied = true → MayWrite before worker job fun row => row.failedOnce error true
    | _ => True
  | _ => True

/-! One step is fenced exactly when its call is current. -/

theorem settleJob_eq (jobs : JobTable) (job : QueueJobView) (outcome : DispatchOutcome) :
    ∃ hkey, settleJob jobs job outcome =
      updateJob jobs job.id (fun _ => true) outcome.settled hkey := by
  cases outcome with
  | returned => exact ⟨fun row => row.completed_id true none, rfl⟩
  | permanentJobError message => exact ⟨fun row => row.completed_id false (some message), rfl⟩
  | transientJobError message => exact ⟨fun row => row.failedOnce_id message true, rfl⟩
  | otherException message =>
    exact ⟨fun _ => rfl, (updateJob_self fun _ => rfl).symm⟩

/-- A row is in the table after a statement unless the statement was applied
and changed it. -/
theorem mem_applyStatement_updateJob {jobs : JobTable} {answer : Answer} {id : String}
    {guard : JobRow → Bool} {update : JobRow → JobRow} {hkey : ∀ row, (update row).id = row.id}
    {row : JobRow} (hmem : row ∈ jobs.rows) :
    row ∈ (applyStatement answer jobs (updateJob jobs id guard update hkey)).rows ↔
      (answer.applied = true → row.id = id → guard row = true → update row = row) := by
  unfold applyStatement
  split
  · next happlied => simp [mem_updateJob_self hmem, happlied]
  · next hrefused => simp [hmem, hrefused]

theorem claim_fenced (timeoutMinutes : Int) (before : System) (worker : String)
    (locked : JobRow → Bool) (answer : Answer) :
    Fenced timeoutMinutes before (.claim worker locked answer) := by
  intro row hmem
  simp only [perform]
  split
  · simp only [System.setWorker_jobs]
    cases hclaim : (claimJob before.jobs locked worker before.now).1 with
    | none =>
      rw [claimJob_none hclaim]
      left
      unfold applyStatement
      split <;> exact hmem
    | some job =>
      obtain ⟨claimed, hclaimed, hid, hpending, heq⟩ := claimJob_some hclaim
      rw [heq, mem_applyStatement_updateJob hmem]
      by_cases hrow : row.id = job.id
      · right
        rw [before.jobs.eq_of_key_eq hmem hclaimed (hrow.trans hid.symm)]
        exact hpending
      · exact .inl fun _ h => absurd h hrow
  · exact .inl hmem

theorem release_fenced_iff (timeoutMinutes : Int) (before : System) (worker : String)
    (answer : Answer) :
    Fenced timeoutMinutes before (.release worker answer) ↔
      CallIsCurrent timeoutMinutes before (.release worker answer) := by
  simp only [Fenced, CallIsCurrent, perform]
  split
  · next id rest hworker =>
    simp only [System.setWorker_jobs, releaseJob, ChangeAllowed]
    constructor
    · intro h happlied row hmem hid hprocessing
      rcases h row hmem with hkept | hstale
      · rw [mem_applyStatement_updateJob hmem] at hkept
        have hpending : row.released.status = row.status := by
          rw [hkept happlied hid (by simpa using hprocessing)]
        rw [hprocessing] at hpending
        cases hpending
      · exact hstale
    · intro h row hmem
      rw [mem_applyStatement_updateJob hmem]
      by_cases hselected : answer.applied = true ∧ row.id = id ∧ row.status = .processing
      · exact .inr (h hselected.1 row hmem hselected.2.1 hselected.2.2)
      · left
        intro happlied hid hprocessing
        exact absurd ⟨happlied, hid, by simpa using hprocessing⟩ hselected
  · next hother =>
    constructor
    · intro _
      trivial
    · intro _ row hmem
      exact .inl hmem

/-- A statement that selects by identifier alone changes only jobs of its
caller exactly when it may write. -/
theorem settling_fenced_iff {before : System} {worker : String} {job : QueueJobView}
    {update : JobRow → JobRow} {hkey : ∀ row, (update row).id = row.id} {answer : Answer} :
    (∀ row ∈ before.jobs.rows,
      row ∈ (applyStatement answer before.jobs
        (updateJob before.jobs job.id (fun _ => true) update hkey)).rows ∨ row.HeldBy worker) ↔
      (answer.applied = true → MayWrite before worker job update) := by
  constructor
  · intro h happlied row hmem hid
    rcases h row hmem with hkept | hheld
    · exact .inr ((mem_applyStatement_updateJob hmem).mp hkept happlied hid rfl)
    · exact .inl hheld
  · intro h row hmem
    by_cases hheld : row.HeldBy worker
    · exact .inr hheld
    · left
      rw [mem_applyStatement_updateJob hmem]
      intro happlied hid _
      exact (h happlied row hmem hid).resolve_left hheld

theorem fenced_iff (timeoutMinutes : Int) (before : System) (event : Event) :
    Fenced timeoutMinutes before event ↔ CallIsCurrent timeoutMinutes before event := by
  cases event with
  | enqueue id taskType payload maxAttempts =>
    refine iff_of_true (fun row hmem => .inl ?_) trivial
    exact Table.mem_insertOrIgnore.mpr (.inl hmem)
  | advance micros => exact iff_of_true (fun row hmem => .inl hmem) trivial
  | listStale worker answer =>
    refine iff_of_true (fun row hmem => .inl ?_) trivial
    simp only [perform]
    split <;> exact hmem
  | release worker answer => exact release_fenced_iff timeoutMinutes before worker answer
  | claim worker locked answer =>
    exact iff_of_true (claim_fenced timeoutMinutes before worker locked answer) trivial
  | finish worker handler answer =>
    simp only [Fenced, CallIsCurrent, perform]
    split
    · next job hworker =>
      obtain ⟨hkey, heq⟩ := settleJob_eq before.jobs job (dispatch job handler)
      simp only [System.setWorker_jobs, heq]
      exact settling_fenced_iff
    · exact iff_of_true (fun row hmem => .inl hmem) trivial
  | handle worker answer =>
    simp only [Fenced, CallIsCurrent, perform]
    split
    · next job error hworker => exact settling_fenced_iff
    · exact iff_of_true (fun row hmem => .inl hmem) trivial
  | crash worker => exact iff_of_true (fun row hmem => .inl hmem) trivial

end CrmBot.ExecutionQueue
