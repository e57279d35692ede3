import CrmBot.Library.Table
import CrmBot.Python.PyValue

/-! `execution_queue` and the statements of `QueueRepository`.

Every statement is one `UPDATE` in a transaction of its own, with `NOW()` as
its argument `now`. Row locks of concurrent claims enter as a predicate, since
`SKIP LOCKED` may pass over any row. -/

namespace CrmBot.ExecutionQueue

open Relational CrmBot.Python

inductive JobStatus
  | pending
  | processing
  | done
  | failed
  | cancelled
  deriving DecidableEq, Repr

/-- The job is done or failed. -/
def JobStatus.finished : JobStatus → Bool
  | .done | .failed => true
  | .pending | .processing | .cancelled => false

structure JobRow where
  id : String
  taskType : String
  payload : Option Payload
  status : JobStatus
  attempts : Nat
  maxAttempts : Option Int
  createdAt : Int
  lockedAt : Option Int
  workerId : Option String
  error : Option String
  deriving DecidableEq

abbrev JobTable := Table JobRow.id

/-- `QueueJobView`. -/
structure QueueJobView where
  id : String
  taskType : String
  payload : Payload
  attempts : Nat
  maxAttempts : Option Int
  createdAt : Int
  deriving DecidableEq

/-- `QueueJobView.from_record` of a row that `RETURNING` gives back. -/
def QueueJobView.fromRecord (row : JobRow) : QueueJobView where
  id := row.id
  taskType := row.taskType
  payload := row.payload.getD []
  attempts := row.attempts
  maxAttempts := row.maxAttempts
  createdAt := row.createdAt

/-- `enqueue`, with the identifier that `gen_random_uuid()` gives. An empty
payload is stored as `NULL`. -/
def enqueue (jobs : JobTable) (id taskType : String) (payload : Payload) (maxAttempts : Int)
    (now : Int) : JobTable :=
  jobs.insertOrIgnore
    { id, taskType, payload := if payload.isEmpty then none else some payload,
      status := .pending, attempts := 0, maxAttempts := some maxAttempts, createdAt := now,
      lockedAt := none, workerId := none, error := none }

/-- `UPDATE execution_queue SET … WHERE id = $1 AND …`. -/
def updateJob (jobs : JobTable) (id : String) (guard : JobRow → Bool) (update : JobRow → JobRow)
    (hkey : ∀ row, (update row).id = row.id) : JobTable :=
  jobs.updateWhere (fun row => row.id = id && guard row) update hkey

/-- `attempts < max_attempts OR max_attempts IS NULL`. -/
def JobRow.attemptsLeft (row : JobRow) : Bool :=
  match row.maxAttempts with
  | some limit => (row.attempts : Int) < limit
  | none => true

def JobRow.claimable (row : JobRow) : Bool := row.status = .pending && row.attemptsLeft

def JobRow.createdBefore (first second : JobRow) : Prop := first.createdAt ≤ second.createdAt

instance : DecidableRel JobRow.createdBefore := fun _ _ => inferInstanceAs (Decidable (_ ≤ _))

def JobRow.claimedBy (row : JobRow) (workerId : String) (now : Int) : JobRow :=
  { row with status := .processing, lockedAt := some now, workerId := some workerId }

@[simp] theorem JobRow.claimedBy_id (row : JobRow) (workerId : String) (now : Int) :
    (row.claimedBy workerId now).id = row.id := rfl

/-- The inner `SELECT` of `claim_job`: the oldest claimable job that no other
transaction has locked. -/
def nextClaimable (jobs : JobTable) (locked : JobRow → Bool) : Option JobRow :=
  (jobs.select (fun row => row.claimable && !locked row) JobRow.createdBefore).head?

/-- `claim_job`. -/
def claimJob (jobs : JobTable) (locked : JobRow → Bool) (workerId : String) (now : Int) :
    Option QueueJobView × JobTable :=
  match nextClaimable jobs locked with
  | some row =>
    (some (.fromRecord (row.claimedBy workerId now)),
      updateJob jobs row.id (fun _ => true) (fun row => row.claimedBy workerId now)
        fun row => row.claimedBy_id workerId now)
  | none => (none, jobs)

def JobRow.completed (row : JobRow) (success : Bool) (error : Option String) : JobRow :=
  { row with
    status := if success then .done else .failed, lockedAt := none, workerId := none, error }

@[simp] theorem JobRow.completed_id (row : JobRow) (success : Bool) (error : Option String) :
    (row.completed success error).id = row.id := rfl

/-- `complete_job`. The statement selects by identifier alone. -/
def completeJob (jobs : JobTable) (id : String) (success : Bool) (error : Option String) :
    JobTable :=
  updateJob jobs id (fun _ => true) (fun row => row.completed success error)
    fun row => row.completed_id success error

def JobRow.released (row : JobRow) : JobRow :=
  { row with status := .pending, lockedAt := none, workerId := none }

@[simp] theorem JobRow.released_id (row : JobRow) : row.released.id = row.id := rfl

/-- `release_job`. Only a job in processing is selected. -/
def releaseJob (jobs : JobTable) (id : String) : JobTable :=
  updateJob jobs id (fun row => row.status = .processing) JobRow.released JobRow.released_id

/-- `attempts + 1 >= max_attempts`, which is not true of a missing limit. -/
def JobRow.lastAttempt (row : JobRow) : Bool :=
  match row.maxAttempts with
  | some limit => limit ≤ row.attempts + 1
  | none => false

def JobRow.failedOnce (row : JobRow) (error : String) (incrementAttempt : Bool) : JobRow :=
  if incrementAttempt then
    { row with
      attempts := row.attempts + 1
      error := some error
      lockedAt := none
      workerId := none
      status := if row.lastAttempt then .failed else .pending }
  else { row with error := some error, lockedAt := none, workerId := none, status := .failed }

@[simp] theorem JobRow.failedOnce_id (row : JobRow) (error : String) (incrementAttempt : Bool) :
    (row.failedOnce error incrementAttempt).id = row.id := by
  cases incrementAttempt <;> rfl

/-- `fail_job`. The statement selects by identifier alone. -/
def failJob (jobs : JobTable) (id error : String) (incrementAttempt : Bool) : JobTable :=
  updateJob jobs id (fun _ => true) (fun row => row.failedOnce error incrementAttempt)
    fun row => row.failedOnce_id error incrementAttempt

/-- `locked_at < NOW() - timeout`, for a job in processing. -/
def JobRow.stale (row : JobRow) (timeoutMinutes now : Int) : Bool :=
  row.status = .processing &&
    row.lockedAt.any fun lockedAt => lockedAt < now - timeoutMinutes * 60 * microsPerSecond

/-- `get_stale_locked_jobs`. -/
def getStaleLockedJobs (jobs : JobTable) (timeoutMinutes now : Int) : List String :=
  (jobs.rows.filter fun row => row.stale timeoutMinutes now).map JobRow.id

/-! What the statements do to one row. -/

variable {jobs : JobTable} {row : JobRow}

/-- A statement that writes every row as it is changes nothing. -/
theorem updateJob_self {id : String} {guard : JobRow → Bool} {update : JobRow → JobRow}
    {hkey : ∀ row, (update row).id = row.id} (hself : ∀ row, update row = row) :
    updateJob jobs id guard update hkey = jobs := by
  apply Table.eq_of_rows_eq
  unfold updateJob
  rw [Table.rows_updateWhere]
  simp [hself]

theorem mem_updateJob_self {id : String} {guard : JobRow → Bool} {update : JobRow → JobRow}
    {hkey : ∀ row, (update row).id = row.id} (hmem : row ∈ jobs.rows) :
    row ∈ (updateJob jobs id guard update hkey).rows ↔
      (row.id = id → guard row = true → update row = row) := by
  unfold updateJob
  rw [Table.mem_updateWhere_self hmem, Bool.and_eq_true, decide_eq_true_eq, and_imp]

/-- A selected row is replaced by what the statement writes. -/
theorem update_mem_updateJob {id : String} {guard : JobRow → Bool} {update : JobRow → JobRow}
    (hkey : ∀ row, (update row).id = row.id) (hmem : row ∈ jobs.rows) (hid : row.id = id)
    (hguard : guard row = true) : update row ∈ (updateJob jobs id guard update hkey).rows := by
  unfold updateJob
  refine Table.mem_updateWhere.mpr ⟨row, hmem, ?_⟩
  simp [hid, hguard]

theorem claimJob_none {locked : JobRow → Bool} {workerId : String} {now : Int}
    (h : (claimJob jobs locked workerId now).1 = none) :
    (claimJob jobs locked workerId now).2 = jobs := by
  unfold claimJob at h ⊢
  split
  · next heq =>
    rw [heq] at h
    simp at h
  · rfl

/-- A claim hands out a pending job and marks it with the worker. -/
theorem claimJob_some {locked : JobRow → Bool} {workerId : String} {now : Int}
    {job : QueueJobView} (h : (claimJob jobs locked workerId now).1 = some job) :
    ∃ row ∈ jobs.rows, row.id = job.id ∧ row.status = .pending ∧
      (claimJob jobs locked workerId now).2 =
        updateJob jobs job.id (fun _ => true) (fun row => row.claimedBy workerId now)
          (fun row => row.claimedBy_id workerId now) := by
  unfold claimJob at h ⊢
  split at h
  · next row heq =>
    have hmem := Table.mem_select.mp (List.mem_of_mem_head? heq)
    simp only [JobRow.claimable, Bool.and_eq_true, decide_eq_true_eq] at hmem
    have hid : row.id = job.id := by
      rw [← Option.some.inj h]
      rfl
    refine ⟨row, hmem.1, hid, hmem.2.1.1, ?_⟩
    rw [hid]
  · simp at h

end CrmBot.ExecutionQueue
