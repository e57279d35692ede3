import CrmBot.ExecutionQueue.RetryPolicy
import CrmBot.ExecutionQueue.WorkerFencing

/-! Whether the retries of a job respect the delay and the limit of its decisions.

The queue counts the attempts that have failed, and it keeps no time at which a job may
be claimed again. A stale release hands the job on without counting it. -/

namespace CrmBot.ExecutionQueue

open Relational CrmBot.Python Runs

/-- An event with what `build_retry_decision` reads in it besides the job. -/
structure RetryEvent where
  event : Event
  retryAfterSeconds : Option ℚ
  draw : UniformDraw
  exceptionType : String

/-- A system with the history of one job: how often it was handed out, how often a stale
claim of it was released, and when the delays of its decisions end, in microseconds. -/
structure JobHistory where
  system : System
  dispatches : Nat
  staleReleases : Nat
  delayEnds : List ℚ

section Tracking

variable (lower : String → String) (id : String)

/-- The failing call of the event, if it is one for the job: the record, the error and
the retry delay of the exception. -/
def failingCall (before : System) (event : RetryEvent) :
    Option (QueueJobView × String × Option ℚ) :=
  match event.event with
  | .finish worker handler answer =>
    match before.workers worker with
    | .working job =>
      match dispatch job handler with
      | .transientJobError message =>
        if job.id = id ∧ answer.applied then some (job, message, event.retryAfterSeconds) else none
      | _ => none
    | _ => none
  | .handle worker answer =>
    match before.workers worker with
    | .handling job error =>
      if job.id = id ∧ answer.applied then
        some (job, "unexpected_dispatch_error:" ++ event.exceptionType ++ ":" ++ error, some 1)
      else none
    | _ => none
  | _ => none

/-- The decision of the failing call. -/
def decisionOf (before : System) (event : RetryEvent) : Option RetryDecision :=
  (failingCall id before event).map fun call =>
    buildRetryDecision lower call.1 call.2.1 call.2.2 event.draw

/-- The event hands the job to a worker, which dispatches it. -/
def dispatchesJob (before : System) : Event → Bool
  | .claim worker locked .ok =>
    match before.workers worker with
    | .recovering [] => (nextClaimable before.jobs locked).any fun row => row.id = id
    | _ => false
  | _ => false

/-- The event releases a stale claim of the job. -/
def releasesJob (before : System) : Event → Bool
  | .release worker answer =>
    match before.workers worker with
    | .recovering (target :: _) => target = id && answer.applied &&
        (before.jobs.find? id).any fun row => row.status = .processing
    | _ => false
  | _ => false

/-- One event, and what it adds to the history. -/
def performRetry (timeoutMinutes : Int) (before : JobHistory) (event : RetryEvent) :
    JobHistory where
  system := perform timeoutMinutes before.system event.event
  dispatches := before.dispatches + (dispatchesJob id before.system event.event).toNat
  staleReleases := before.staleReleases + (releasesJob id before.system event.event).toNat
  delayEnds := before.delayEnds ++ ((decisionOf lower id before.system event).map fun decision =>
    (before.system.now : ℚ) + decision.backoffSeconds * microsPerSecond).toList

/-- The history of a job begins. -/
def JobHistory.start (system : System) : JobHistory where
  system := system
  dispatches := 0
  staleReleases := 0
  delayEnds := []

/-- No claim hands the job out before the delays of its decisions have elapsed. -/
def DelaysElapsed (history : JobHistory) : Prop :=
  ∀ locked row, nextClaimable history.system.jobs locked = some row → row.id = id →
    ∀ delayEnd ∈ history.delayEnds, delayEnd ≤ history.system.now

/-- The job was dispatched at most as often as its limit says. -/
def WithinLimit (history : JobHistory) : Prop :=
  ∀ row limit, history.system.jobs.find? id = some row → row.maxAttempts = some limit →
    (history.dispatches : Int) ≤ max limit 0

/-- The event makes the job failed exactly when a decision in it says that the attempts
are exhausted. -/
def FailsWhenExhausted (timeoutMinutes : Int) (before : System) (event : RetryEvent) : Prop :=
  ∀ row after, before.jobs.find? id = some row →
    (perform timeoutMinutes before event.event).jobs.find? id = some after →
    match decisionOf lower id before event with
    | some decision => (after.status = .failed ↔ decision.exhausted = true)
    | none => after.status = .failed → row.status = .failed

/-- After every event of the run the delays and the limit are respected, and every event
fails the job when its decision says so. -/
def RetriesRespected (timeoutMinutes : Int) (start : System) (events : List RetryEvent) : Prop :=
  EveryStep (performRetry lower id timeoutMinutes)
    (fun before event =>
      DelaysElapsed id (performRetry lower id timeoutMinutes before event) ∧
        WithinLimit id (performRetry lower id timeoutMinutes before event) ∧
        FailsWhenExhausted lower id timeoutMinutes before.system event)
    (.start start) events

/-! The condition. -/

/-- The job is handed on by claims, failures and stale releases only. -/
def NotSettled (before : System) : Event → Prop
  | .finish worker handler answer =>
    match before.workers worker with
    | .working job => job.id = id → answer.applied = true →
        (∃ message, dispatch job handler = .transientJobError message) ∨
          ∃ message, dispatch job handler = .otherException message
    | _ => True
  | _ => True

/-- The failures and the stale releases of the job together are below its limit. -/
def CountsReleases (before : JobHistory) : Prop :=
  ∀ row limit, before.system.jobs.find? id = some row → row.maxAttempts = some limit →
    ((row.attempts + before.staleReleases : Nat) : Int) < limit

/-- The record of the job is on the same side of the limit as its row, or without a limit
the default one is not reached. -/
def RecordCurrent (row : JobRow) (job : QueueJobView) : Prop :=
  match row.maxAttempts with
  | some limit => limit ≤ row.attempts + 1 ↔ limit ≤ job.attempts + 1
  | none => (job.attempts + 1 : Int) < maxRetries

/-- A claim of the job finds the limit not reached with the stale releases counted, and a
failing call has a current record and either fails the job or asks for no delay. -/
def RetryCondition (before : JobHistory) (event : RetryEvent) : Prop :=
  NotSettled id before.system event.event ∧
    (dispatchesJob id before.system event.event = true → CountsReleases id before) ∧
    ∀ job error retryAfterSeconds,
      failingCall id before.system event = some (job, error, retryAfterSeconds) →
      ∀ row, before.system.jobs.find? id = some row →
        RecordCurrent row job ∧
          (row.lastAttempt = true ∨ RetriesAtOnce lower error retryAfterSeconds)

end Tracking

/-! What one event makes of the row of a job. -/

/-- The row of a job after the event. -/
def jobAfter (before : System) (event : Event) (row : JobRow) : JobRow :=
  match event with
  | .release worker answer =>
    match before.workers worker with
    | .recovering (target :: _) =>
      if answer.applied ∧ row.id = target ∧ row.status = .processing then row.released else row
    | _ => row
  | .claim worker locked answer =>
    match before.workers worker with
    | .recovering [] =>
      if answer.applied ∧ (nextClaimable before.jobs locked).any (fun next => row.id = next.id) then
        row.claimedBy worker before.now
      else row
    | _ => row
  | .finish worker handler answer =>
    match before.workers worker with
    | .working job =>
      if answer.applied ∧ row.id = job.id then (dispatch job handler).settled row else row
    | _ => row
  | .handle worker answer =>
    match before.workers worker with
    | .handling job error =>
      if answer.applied ∧ row.id = job.id then row.failedOnce error true else row
    | _ => row
  | _ => row

variable {timeoutMinutes : Int} {before : System} {id : String} {row : JobRow}

theorem find?_applyStatement_updateJob {jobs : JobTable} {answer : Answer} {target : String}
    {guard : JobRow → Bool} {update : JobRow → JobRow} (hkey : ∀ row, (update row).id = row.id)
    (hfind : jobs.find? id = some row) :
    (applyStatement answer jobs (updateJob jobs target guard update hkey)).find? id =
      some (if answer.applied ∧ row.id = target ∧ guard row = true then update row else row) := by
  cases happlied : answer.applied with
  | false => simp [applyStatement, happlied, hfind]
  | true => simp [applyStatement, happlied, updateJob, Table.find?_updateWhere, hfind]

theorem find?_enqueue {other taskType : String} {payload : Payload} {maxAttempts now : Int}
    {jobs : JobTable} (hfind : jobs.find? id = some row) :
    (enqueue jobs other taskType payload maxAttempts now).find? id = some row := by
  obtain ⟨hmem, hid⟩ := Table.find?_eq_some_iff.mp hfind
  exact Table.find?_eq_some_iff.mpr ⟨Table.mem_insertOrIgnore.mpr (.inl hmem), hid⟩

/-- The row of a job after an event is what the event makes of it. -/
theorem find?_perform (timeoutMinutes : Int) (event : Event)
    (hfind : before.jobs.find? id = some row) :
    (perform timeoutMinutes before event).jobs.find? id = some (jobAfter before event row) := by
  cases event with
  | enqueue other taskType payload maxAttempts => exact find?_enqueue hfind
  | advance micros => exact hfind
  | crash worker => exact hfind
  | listStale worker answer =>
    simp only [perform, jobAfter]
    split <;> exact hfind
  | release worker answer =>
    simp only [perform, jobAfter]
    cases before.workers worker with
    | idle | working _ | handling _ _ => exact hfind
    | recovering stale =>
      cases stale with
      | nil => exact hfind
      | cons target rest =>
        refine (find?_applyStatement_updateJob JobRow.released_id hfind).trans ?_
        simp
  | claim worker locked answer =>
    simp only [perform, jobAfter]
    cases before.workers worker with
    | idle | working _ | handling _ _ => exact hfind
    | recovering stale =>
      cases stale with
      | cons target rest => exact hfind
      | nil =>
        rw [System.setWorker_jobs]
        unfold claimJob
        cases hnext : nextClaimable before.jobs locked with
        | none => simp [applyStatement, hfind]
        | some next =>
          refine (find?_applyStatement_updateJob
            (fun row => row.claimedBy_id worker before.now) hfind).trans ?_
          simp
  | finish worker handler answer =>
    simp only [perform, jobAfter]
    cases before.workers worker with
    | idle | recovering _ | handling _ _ => exact hfind
    | working job =>
      obtain ⟨hkey, hsettle⟩ := settleJob_eq before.jobs job (dispatch job handler)
      rw [System.setWorker_jobs, hsettle]
      refine (find?_applyStatement_updateJob hkey hfind).trans ?_
      simp
  | handle worker answer =>
    simp only [perform, jobAfter]
    cases before.workers worker with
    | idle | recovering _ | working _ => exact hfind
    | handling job error =>
      refine (find?_applyStatement_updateJob
        (fun row => row.failedOnce_id error true) hfind).trans ?_
      simp

theorem DispatchOutcome.settled_maxAttempts (outcome : DispatchOutcome) (row : JobRow) :
    (outcome.settled row).maxAttempts = row.maxAttempts := by
  cases outcome <;> rfl

/-- No event changes the limit of a job. -/
theorem maxAttempts_jobAfter (before : System) (event : Event) (row : JobRow) :
    (jobAfter before event row).maxAttempts = row.maxAttempts := by
  cases event with
  | enqueue _ _ _ _ | advance _ | listStale _ _ | crash _ => rfl
  | release worker answer =>
    simp only [jobAfter]
    split
    · split <;> rfl
    · rfl
  | claim worker locked answer =>
    simp only [jobAfter]
    split
    · split <;> rfl
    · rfl
  | finish worker handler answer =>
    simp only [jobAfter]
    split
    · split
      · exact DispatchOutcome.settled_maxAttempts _ row
      · rfl
    · rfl
  | handle worker answer =>
    simp only [jobAfter]
    split
    · split <;> rfl
    · rfl

theorem now_le_perform (timeoutMinutes : Int) (before : System) (event : Event) :
    before.now ≤ (perform timeoutMinutes before event).now := by
  cases event with
  | advance micros => exact Int.le_add_of_nonneg_right (Int.natCast_nonneg micros)
  | enqueue _ _ _ _ | crash _ => exact le_refl _
  | listStale _ _ | release _ _ | claim _ _ _ | finish _ _ _ | handle _ _ =>
    simp only [perform]
    split <;> exact le_refl _

/-- The job that a claim hands out is a row of the queue that can be claimed. -/
theorem nextClaimable_some {jobs : JobTable} {locked : JobRow → Bool} {next : JobRow}
    (h : nextClaimable jobs locked = some next) :
    next ∈ jobs.rows ∧ next.status = .pending ∧ next.attemptsLeft = true := by
  have hmem := Table.mem_select.mp (List.mem_of_mem_head? h)
  simp only [JobRow.claimable, Bool.and_eq_true, decide_eq_true_eq] at hmem
  exact ⟨hmem.1, hmem.2.1.1, hmem.2.1.2⟩

theorem row_eq_of_nextClaimable {locked : JobRow → Bool} {next : JobRow}
    (hfind : before.jobs.find? id = some row)
    (h : nextClaimable before.jobs locked = some next) (hid : next.id = id) : next = row := by
  obtain ⟨hmem, hrow⟩ := Table.find?_eq_some_iff.mp hfind
  exact before.jobs.eq_of_key_eq (nextClaimable_some h).1 hmem (hid.trans hrow.symm)

theorem pending_of_dispatchesJob {event : Event} (hfind : before.jobs.find? id = some row)
    (h : dispatchesJob id before event = true) : row.status = .pending := by
  cases event with
  | enqueue _ _ _ _ | advance _ | listStale _ _ | release _ _ | finish _ _ _ | handle _ _
  | crash _ => cases h
  | claim worker locked answer =>
    cases answer with
    | lost _ | refused _ => cases h
    | ok =>
      simp only [dispatchesJob] at h
      split at h
      · cases hnext : nextClaimable before.jobs locked with
        | none =>
          rw [hnext] at h
          cases h
        | some next =>
          rw [hnext, Option.any_some, decide_eq_true_eq] at h
          rw [← row_eq_of_nextClaimable hfind hnext h]
          exact (nextClaimable_some hnext).2.1
      · cases h

/-- A worker has a job from before the event, or from the claim in it. -/
theorem job?_perform {event : Event} {worker : String} {job : QueueJobView}
    (h : ((perform timeoutMinutes before event).workers worker).job? = some job) :
    (∃ holder, (before.workers holder).job? = some job) ∨
      ∃ locked next, nextClaimable before.jobs locked = some next ∧
        job = .fromRecord (next.claimedBy worker before.now) := by
  have hset : ∀ {jobs : JobTable} {actor : String} {state : WorkerState},
      ((System.setWorker { before with jobs := jobs } actor state).workers worker).job? =
        some job → (worker = actor ∧ state.job? = some job) ∨
          (before.workers worker).job? = some job := by
    intro jobs actor state hjob
    by_cases heq : worker = actor
    · rw [heq, System.setWorker_self] at hjob
      exact .inl ⟨heq, hjob⟩
    · rw [System.setWorker_of_ne _ _ heq] at hjob
      exact .inr hjob
  cases event with
  | enqueue _ _ _ _ | advance _ => exact .inl ⟨worker, h⟩
  | crash actor =>
    rcases hset h with ⟨_, hjob⟩ | hjob
    · cases hjob
    · exact .inl ⟨worker, hjob⟩
  | listStale actor answer =>
    simp only [perform] at h
    split at h
    · rcases hset h with ⟨_, hjob⟩ | hjob
      · cases hjob
      · exact .inl ⟨worker, hjob⟩
    · rcases hset h with ⟨_, hjob⟩ | hjob
      · cases hjob
      · exact .inl ⟨worker, hjob⟩
    · rcases hset h with ⟨_, hjob⟩ | hjob
      · cases hjob
      · exact .inl ⟨worker, hjob⟩
    · exact .inl ⟨worker, h⟩
  | release actor answer =>
    simp only [perform] at h
    split at h
    · rcases hset h with ⟨_, hjob⟩ | hjob
      · cases hjob
      · exact .inl ⟨worker, hjob⟩
    · exact .inl ⟨worker, h⟩
  | claim actor locked answer =>
    simp only [perform] at h
    split at h
    · rcases hset h with ⟨rfl, hjob⟩ | hjob
      · unfold claimJob at hjob
        cases hnext : nextClaimable before.jobs locked with
        | none =>
          rw [hnext] at hjob
          cases answer <;> cases hjob
        | some next =>
          rw [hnext] at hjob
          cases answer with
          | ok =>
            cases hjob
            exact .inr ⟨locked, next, hnext, rfl⟩
          | lost _ | refused _ => cases hjob
      · exact .inl ⟨worker, hjob⟩
    · exact .inl ⟨worker, h⟩
  | finish actor handler answer =>
    simp only [perform] at h
    split at h
    · next working hworker =>
      rcases hset h with ⟨_, hjob⟩ | hjob
      · have hsame : job = working := by
          cases hdispatch : dispatch working handler <;> cases answer <;>
            rw [hdispatch] at hjob <;> cases hjob <;> rfl
        exact .inl ⟨actor, by rw [hworker, hsame]; rfl⟩
      · exact .inl ⟨worker, hjob⟩
    · exact .inl ⟨worker, h⟩
  | handle actor answer =>
    simp only [perform] at h
    split at h
    · rcases hset h with ⟨_, hjob⟩ | hjob
      · cases hjob
      · exact .inl ⟨worker, hjob⟩
    · exact .inl ⟨worker, h⟩

/-! What a run keeps. -/

/-- One for a job that is being processed. -/
def JobRow.inHand (row : JobRow) : Nat := if row.status = .processing then 1 else 0

theorem JobRow.inHand_le_one (row : JobRow) : row.inHand ≤ 1 := by
  unfold inHand
  split <;> omega

theorem JobRow.inHand_failedOnce (row : JobRow) (error : String) :
    (row.failedOnce error true).inHand = 0 ∧
      (row.failedOnce error true).attempts = row.attempts + 1 := by
  refine ⟨?_, rfl⟩
  unfold inHand failedOnce
  cases row.lastAttempt <;> rfl

/-- Every dispatch has ended in a counted attempt or in a stale release, or is going on. -/
theorem counted_step {event : Event} {dispatches staleReleases : Nat}
    (hfind : before.jobs.find? id = some row) (hnot : NotSettled id before event)
    (h : dispatches ≤ row.attempts + staleReleases + row.inHand) :
    dispatches + (dispatchesJob id before event).toNat ≤
      (jobAfter before event row).attempts + (staleReleases + (releasesJob id before event).toNat) +
        (jobAfter before event row).inHand := by
  have hid : row.id = id := (Table.find?_eq_some_iff.mp hfind).2
  have hhand := row.inHand_le_one
  cases event with
  | enqueue _ _ _ _ | advance _ | listStale _ _ | crash _ =>
    simp only [dispatchesJob, releasesJob, jobAfter, Bool.toNat_false]
    omega
  | release worker answer =>
    simp only [dispatchesJob, releasesJob, jobAfter, NotSettled, Bool.toNat_false] at *
    cases before.workers worker with
    | idle | working _ | handling _ _ =>
      simp only [Bool.toNat_false]
      omega
    | recovering stale =>
      cases stale with
      | nil =>
        simp only [Bool.toNat_false]
        omega
      | cons target rest =>
        simp only [hfind, hid, Option.any_some]
        by_cases hreleased : answer.applied = true ∧ id = target ∧ row.status = .processing
        · obtain ⟨happlied, rfl, hstatus⟩ := hreleased
          simp only [happlied, hstatus, decide_true, Bool.and_self, Bool.toNat_true, and_self,
            if_true, JobRow.released, JobRow.inHand] at h ⊢
          simp only [reduceCtorEq, if_false]
          omega
        · rw [if_neg hreleased]
          omega
  | claim worker locked answer =>
    simp only [releasesJob, jobAfter, Bool.toNat_false]
    cases hworker : before.workers worker with
    | idle | working _ | handling _ _ =>
      cases answer <;> simp only [dispatchesJob, hworker, Bool.toNat_false] <;> omega
    | recovering stale =>
      cases stale with
      | cons target rest =>
        cases answer <;> simp only [dispatchesJob, hworker, Bool.toNat_false] <;> omega
      | nil =>
        dsimp only
        have hunclaimed : ∀ {next : Option JobRow}, nextClaimable before.jobs locked = next →
            (next.any fun next => row.id = next.id) = false →
            dispatchesJob id before (.claim worker locked answer) = false := by
          intro next hsome hother
          cases answer with
          | lost _ | refused _ => rfl
          | ok =>
            simp only [dispatchesJob, hworker, hsome]
            cases next with
            | none => rfl
            | some next =>
              simp only [Option.any_some, decide_eq_false_iff_not] at hother ⊢
              exact fun heq => hother (hid.trans heq.symm)
        cases hsome : nextClaimable before.jobs locked with
        | none =>
          rw [hunclaimed hsome rfl]
          simp only [Option.any_none, Bool.false_eq_true, and_false, if_false, Bool.toNat_false]
          omega
        | some next =>
          by_cases hnextId : row.id = next.id
          · have hrow := row_eq_of_nextClaimable hfind hsome (hnextId.symm.trans hid)
            have hpending : row.inHand = 0 := by
              have hstatus := (nextClaimable_some hsome).2.1
              rw [hrow] at hstatus
              simp [JobRow.inHand, hstatus]
            have hclaimed : (row.claimedBy worker before.now).inHand = 1 ∧
                (row.claimedBy worker before.now).attempts = row.attempts := ⟨rfl, rfl⟩
            have hone := (dispatchesJob id before (.claim worker locked answer)).toNat_le
            cases answer with
            | refused error =>
              simp only [dispatchesJob, Answer.applied, Bool.toNat_false]
              simp only [Bool.false_eq_true, false_and, if_false]
              omega
            | ok | lost _ =>
              rw [if_pos ⟨rfl, by simp [hnextId]⟩, hclaimed.1, hclaimed.2]
              omega
          · have hother : ((some next).any fun next => row.id = next.id) = false := by
              simp [hnextId]
            rw [hunclaimed hsome hother, hother]
            simp only [Bool.false_eq_true, and_false, if_false, Bool.toNat_false]
            omega
  | finish worker handler answer =>
    simp only [dispatchesJob, releasesJob, jobAfter, Bool.toNat_false]
    simp only [NotSettled] at hnot
    cases hworker : before.workers worker with
    | idle | recovering _ | handling _ _ =>
      dsimp only
      omega
    | working job =>
      rw [hworker] at hnot
      dsimp only at hnot ⊢
      split
      · next hsettles =>
        rcases hnot (hsettles.2.symm.trans hid) hsettles.1
          with ⟨message, houtcome⟩ | ⟨message, houtcome⟩
        · rw [houtcome]
          obtain ⟨hfailed, hattempts⟩ := row.inHand_failedOnce message
          change _ ≤ (row.failedOnce message true).attempts + _ +
            (row.failedOnce message true).inHand
          omega
        · rw [houtcome]
          change _ ≤ row.attempts + _ + row.inHand
          omega
      · omega
  | handle worker answer =>
    simp only [dispatchesJob, releasesJob, jobAfter, Bool.toNat_false]
    cases before.workers worker with
    | idle | recovering _ | working _ =>
      dsimp only
      omega
    | handling job error =>
      dsimp only
      obtain ⟨hfailed, hattempts⟩ := row.inHand_failedOnce error
      split <;> omega

/-- A failing call is made by a worker that has the job, and fails its row once. -/
theorem jobAfter_of_failingCall {event : RetryEvent} {job : QueueJobView} {error : String}
    {retryAfterSeconds : Option ℚ} (hid : row.id = id)
    (h : failingCall id before event = some (job, error, retryAfterSeconds)) :
    (∃ worker, (before.workers worker).job? = some job) ∧ job.id = id ∧
      ∃ message, jobAfter before event.event row = row.failedOnce message true := by
  unfold failingCall at h
  split at h
  · next worker handler answer hevent =>
    split at h
    · next working hworker =>
      split at h
      · next message houtcome =>
        split at h
        · next happlies =>
          cases h
          refine ⟨⟨worker, by rw [hworker]; rfl⟩, happlies.1, error, ?_⟩
          rw [hevent]
          simp only [jobAfter, hworker, houtcome]
          rw [if_pos ⟨happlies.2, hid.trans happlies.1.symm⟩]
          rfl
        · cases h
      · cases h
    · cases h
  · next worker answer hevent =>
    split at h
    · next handled raised hworker =>
      split at h
      · next happlies =>
        cases h
        refine ⟨⟨worker, by rw [hworker]; rfl⟩, happlies.1, raised, ?_⟩
        rw [hevent]
        simp only [jobAfter, hworker]
        rw [if_pos ⟨happlies.2, hid.trans happlies.1.symm⟩]
      · cases h
    · cases h
  · cases h

/-- Without a failing call no event fails the job. -/
theorem failed_of_no_failingCall {event : RetryEvent} (hid : row.id = id)
    (hnot : NotSettled id before event.event) (h : failingCall id before event = none)
    (hfailed : (jobAfter before event.event row).status = .failed) : row.status = .failed := by
  cases hevent : event.event with
  | enqueue _ _ _ _ | advance _ | listStale _ _ | crash _ =>
    rw [hevent] at hfailed
    exact hfailed
  | release worker answer =>
    rw [hevent] at hfailed
    simp only [jobAfter] at hfailed
    split at hfailed
    · split at hfailed
      · cases hfailed
      · exact hfailed
    · exact hfailed
  | claim worker locked answer =>
    rw [hevent] at hfailed
    simp only [jobAfter] at hfailed
    split at hfailed
    · split at hfailed
      · cases hfailed
      · exact hfailed
    · exact hfailed
  | finish worker handler answer =>
    rw [hevent] at hfailed hnot
    simp only [jobAfter, failingCall, NotSettled, hevent] at hfailed h hnot
    cases hworker : before.workers worker with
    | idle | recovering _ | handling _ _ =>
      rw [hworker] at hfailed
      exact hfailed
    | working job =>
      rw [hworker] at hfailed h hnot
      dsimp only at hfailed h hnot
      split at hfailed
      · next hsettles =>
        have hjob := hsettles.2.symm.trans hid
        rcases hnot hjob hsettles.1 with ⟨message, houtcome⟩ | ⟨message, houtcome⟩
        · rw [houtcome] at h
          simp [hjob, hsettles.1] at h
        · rw [houtcome] at hfailed
          exact hfailed
      · exact hfailed
  | handle worker answer =>
    rw [hevent] at hfailed
    simp only [jobAfter, failingCall, hevent] at hfailed h
    cases hworker : before.workers worker with
    | idle | recovering _ | working _ =>
      rw [hworker] at hfailed
      exact hfailed
    | handling job error =>
      rw [hworker] at hfailed h
      dsimp only at hfailed h
      split at hfailed
      · next hsettles => simp [hsettles.2.symm.trans hid, hsettles.1] at h
      · exact hfailed

/-- A current record is exhausted exactly when its row is at its last attempt. -/
theorem exhausted_eq_lastAttempt {job : QueueJobView} (hmax : job.maxAttempts = row.maxAttempts)
    (h : RecordCurrent row job) : job.exhausted = row.lastAttempt := by
  unfold QueueJobView.exhausted JobRow.lastAttempt
  unfold RecordCurrent at h
  rw [hmax]
  cases hlimit : row.maxAttempts with
  | none =>
    rw [hlimit] at h
    simpa using h
  | some limit =>
    rw [hlimit] at h
    simpa using h.symm

/-- The row of the job, and what its history knows of it. -/
structure HistoryExact (id : String) (history : JobHistory) (row : JobRow) : Prop where
  found : history.system.jobs.find? id = some row
  records : ∀ worker job, (history.system.workers worker).job? = some job → job.id = id →
    job.maxAttempts = row.maxAttempts
  counted : history.dispatches ≤ row.attempts + history.staleReleases + row.inHand
  limited : ∀ limit, row.maxAttempts = some limit → (history.dispatches : Int) ≤ max limit 0
  elapsed : ∀ delayEnd ∈ history.delayEnds, delayEnd ≤ (history.system.now : ℚ)

variable {lower : String → String} {history : JobHistory} {event : RetryEvent}

theorem HistoryExact.row_id (h : HistoryExact id history row) : row.id = id :=
  (Table.find?_eq_some_iff.mp h.found).2

theorem HistoryExact.records_step (h : HistoryExact id history row) {worker : String}
    {job : QueueJobView}
    (hjob : ((perform timeoutMinutes history.system event.event).workers worker).job? = some job)
    (hid : job.id = id) : job.maxAttempts = row.maxAttempts := by
  rcases job?_perform hjob with ⟨holder, hbefore⟩ | ⟨locked, next, hnext, rfl⟩
  · exact h.records holder job hbefore hid
  · have hnextRow : next = row := row_eq_of_nextClaimable h.found hnext hid
    rw [← hnextRow]
    rfl

theorem HistoryExact.limited_step (h : HistoryExact id history row)
    (hcondition : RetryCondition lower id history event) {limit : Int}
    (hlimit : row.maxAttempts = some limit) :
    ((history.dispatches + (dispatchesJob id history.system event.event).toNat : Nat) : Int) ≤
      max limit 0 := by
  have hbefore := h.limited limit hlimit
  cases hdispatches : dispatchesJob id history.system event.event with
  | false => simpa using hbefore
  | true =>
    have hbelow := hcondition.2.1 hdispatches row limit h.found hlimit
    have hcounted := h.counted
    have hpending : row.inHand = 0 := by
      simp [JobRow.inHand, pending_of_dispatchesJob h.found hdispatches]
    simp only [Bool.toNat_true]
    omega

/-- The delay of every decision has elapsed when it is made. -/
theorem HistoryExact.elapsed_step (h : HistoryExact id history row)
    (hcondition : RetryCondition lower id history event) {decision : RetryDecision}
    (hdecision : decisionOf lower id history.system event = some decision) :
    decision.backoffSeconds = 0 := by
  obtain ⟨⟨job, error, retryAfterSeconds⟩, hcall, rfl⟩ := Option.map_eq_some_iff.mp hdecision
  obtain ⟨⟨worker, hworker⟩, hid, _⟩ := jobAfter_of_failingCall h.row_id hcall
  obtain ⟨hcurrent, hends⟩ := hcondition.2.2 job error retryAfterSeconds hcall row h.found
  rw [backoffSeconds_eq_zero_iff]
  refine hends.imp_left fun hlast => ?_
  rw [exhausted_eq_lastAttempt (h.records worker job hworker hid) hcurrent]
  exact hlast

theorem HistoryExact.step (timeoutMinutes : Int) (h : HistoryExact id history row)
    (hcondition : RetryCondition lower id history event) :
    HistoryExact id (performRetry lower id timeoutMinutes history event)
      (jobAfter history.system event.event row) where
  found := find?_perform timeoutMinutes event.event h.found
  records worker job hjob hid := by
    rw [maxAttempts_jobAfter]
    exact h.records_step hjob hid
  counted := counted_step h.found hcondition.1 h.counted
  limited limit hlimit := by
    rw [maxAttempts_jobAfter] at hlimit
    exact h.limited_step hcondition hlimit
  elapsed delayEnd hmem := by
    have hnow : (history.system.now : ℚ) ≤
        (perform timeoutMinutes history.system event.event).now := by
      exact_mod_cast now_le_perform timeoutMinutes history.system event.event
    simp only [performRetry, List.mem_append, Option.mem_toList, Option.map_eq_some_iff] at hmem
    rcases hmem with hold | ⟨decision, hdecision, rfl⟩
    · exact (h.elapsed delayEnd hold).trans hnow
    · rw [h.elapsed_step hcondition hdecision, zero_mul, add_zero]
      exact hnow

theorem HistoryExact.failsWhenExhausted (timeoutMinutes : Int) (h : HistoryExact id history row)
    (hcondition : RetryCondition lower id history event) :
    FailsWhenExhausted lower id timeoutMinutes history.system event := by
  intro found after hfound hafter
  obtain rfl : row = found := Option.some.inj (h.found.symm.trans hfound)
  obtain rfl : jobAfter history.system event.event row = after :=
    Option.some.inj ((find?_perform timeoutMinutes event.event h.found).symm.trans hafter)
  cases hcall : failingCall id history.system event with
  | none =>
    have hnone : decisionOf lower id history.system event = none := by rw [decisionOf, hcall]; rfl
    rw [hnone]
    exact failed_of_no_failingCall h.row_id hcondition.1 hcall
  | some call =>
    obtain ⟨job, error, retryAfterSeconds⟩ := call
    have hdecision : decisionOf lower id history.system event =
        some (buildRetryDecision lower job error retryAfterSeconds event.draw) := by
      rw [decisionOf, hcall]
      rfl
    obtain ⟨⟨worker, hworker⟩, hid, message, hfails⟩ := jobAfter_of_failingCall h.row_id hcall
    have hcurrent := (hcondition.2.2 job error retryAfterSeconds hcall row h.found).1
    have hexhausted := exhausted_eq_lastAttempt (h.records worker job hworker hid) hcurrent
    rw [hdecision, hfails]
    change (if row.lastAttempt then JobStatus.failed else .pending) = .failed ↔
      job.exhausted = true
    rw [hexhausted]
    cases row.lastAttempt <;> simp

/-- In every run whose events meet the condition the delays and the limit of the job are
respected, and it fails when its decisions say so. -/
theorem retriesRespected_of_condition (lower : String → String) (id : String)
    (timeoutMinutes : Int) (start : System) (events : List RetryEvent) (row : JobRow)
    (hjob : start.jobs.find? id = some row)
    (hfree : ∀ worker job, (start.workers worker).job? = some job → job.id ≠ id)
    (hsteps : EveryStep (performRetry lower id timeoutMinutes) (RetryCondition lower id)
      (.start start) events) :
    RetriesRespected lower id timeoutMinutes start events := by
  have hstart : HistoryExact id (.start start) row :=
    ⟨hjob, fun worker job hworker hid => absurd hid (hfree worker job hworker),
      Nat.zero_le _, fun limit _ => le_max_right limit 0, nofun⟩
  have hkeeps : ∀ history event, (∃ row, HistoryExact id history row) →
      RetryCondition lower id history event →
      ∃ row, HistoryExact id (performRetry lower id timeoutMinutes history event) row := by
    rintro history event ⟨row, hexact⟩ hcondition
    exact ⟨_, hexact.step timeoutMinutes hcondition⟩
  refine EveryStep.of_invariant hkeeps ?_ hsteps ⟨row, hstart⟩
  rintro history event ⟨row, hexact⟩ hcondition
  have hafter := hexact.step timeoutMinutes hcondition
  refine ⟨?_, ?_, hexact.failsWhenExhausted timeoutMinutes hcondition⟩
  · intro _ _ _ _ delayEnd hmem
    exact hafter.elapsed delayEnd hmem
  · intro after limit hfound hlimit
    obtain rfl := Option.some.inj (hafter.found.symm.trans hfound)
    exact hafter.limited limit hlimit

/-- An event in which an exception, if there is one, asks for no delay. -/
def undelayed (event : Event) : RetryEvent := ⟨event, some 0, ⟨0, by decide⟩, "JobError"⟩

/-- A job that fails with another error than the provider's is tried again at once. -/
def undelayedRun : List RetryEvent :=
  List.map undelayed [.listStale "worker-1" .ok, .claim "worker-1" (fun _ => false) .ok,
    .finish "worker-1" (.transientJobError "connection reset") .ok]

theorem undelayedRun_respected :
    RetriesRespected (fun error => error) "job-1" 5 sampleQueue undelayedRun := by
  apply retriesRespected_of_condition (fun error => error) "job-1" 5 sampleQueue undelayedRun _ rfl
  · intro worker job hjob
    cases hjob
  · refine ⟨⟨trivial, nofun, nofun⟩, ⟨trivial, ?_, nofun⟩, ⟨?_, nofun, ?_⟩, trivial⟩
    · rintro _ row limit hrow hlimit
      cases hrow
      cases hlimit
      decide
    · intro _ _
      exact .inl ⟨_, rfl⟩
    · intro job error retryAfterSeconds hcall row hrow
      cases hrow
      cases hcall
      refine ⟨Iff.rfl, .inr ⟨⟨0, le_refl 0, rfl⟩, ?_⟩⟩
      decide +kernel

/-- The provider limits the rate, and the job can be claimed again in the same minute. -/
def rateLimitedRun : List RetryEvent :=
  List.map undelayed [.listStale "worker-1" .ok, .claim "worker-1" (fun _ => false) .ok,
    .finish "worker-1" (.transientJobError "rate_limit") .ok]

def queueWithLimit (maxAttempts : Int) : System :=
  { sampleQueue with jobs := enqueue .empty "job-1" "update_metrics" [] maxAttempts 0 }

/-- The job of a slow worker is released and claimed by another worker. -/
def takenOverRun : List RetryEvent :=
  List.map undelayed [.listStale "worker-1" .ok, .claim "worker-1" (fun _ => false) .ok,
    minutes 6, .listStale "worker-2" .ok, .release "worker-2" .ok,
    .claim "worker-2" (fun _ => false) .ok]

/-- The other worker fails the job and claims it again, and then the slow worker fails it
with the record of its own claim. -/
def lateFailureRun : List RetryEvent :=
  takenOverRun ++ List.map undelayed
    [.finish "worker-2" (.transientJobError "connection reset") .ok, .listStale "worker-2" .ok,
      .claim "worker-2" (fun _ => false) .ok,
      .finish "worker-1" (.transientJobError "connection reset") .ok]

/-- The job is claimed before its delay is over, dispatched twice with a limit of one, and
failed by a decision to try it again. -/
theorem retries_not_respected :
    ¬ RetriesRespected (fun error => error) "job-1" 5 sampleQueue rateLimitedRun ∧
    ¬ RetriesRespected (fun error => error) "job-1" 5 (queueWithLimit 1) takenOverRun ∧
    ¬ RetriesRespected (fun error => error) "job-1" 5 (queueWithLimit 2) lateFailureRun := by
  refine ⟨?_, ?_, ?_⟩
  · rintro ⟨_, _, ⟨helapsed, _⟩, _⟩
    have hdelay := helapsed (fun _ => false) _ rfl rfl 60000000
      (List.mem_singleton.mpr (by decide +kernel))
    exact absurd hdelay (by decide +kernel)
  · rintro ⟨_, _, _, _, _, ⟨_, hlimit, _⟩, _⟩
    exact absurd (hlimit _ 1 rfl rfl) (by decide +kernel)
  · rintro ⟨_, _, _, _, _, _, _, _, _, ⟨_, _, hfails⟩, _⟩
    have hfailed := (hfails _ _ rfl rfl).mp rfl
    revert hfailed
    decide +kernel

end CrmBot.ExecutionQueue
