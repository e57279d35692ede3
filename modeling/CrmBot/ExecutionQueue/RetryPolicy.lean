import CrmBot.ExecutionQueue.WorkerLoop
import CrmBot.Library.Ink
import Mathlib.Algebra.Order.Ring.Rat
import Mathlib.Data.List.Infix
import Mathlib.Tactic.Positivity
import Mathlib.Tactic.Linarith

/-! `build_retry_decision`: whether and when a failed job is to be tried again.

Seconds are rationals; `str.lower` and the random part of the backoff are parameters. -/

namespace CrmBot.ExecutionQueue

open CrmBot.Python Ink

def maxRetries : Int := 3

def providerTransientRetrySeconds : ℚ := 60

def providerTransientErrorMarkers : List String :=
  ["rate_limit", "rate limited", "daily_limit", "daily limited", "quota", "provider_error",
    "provider error", "provider request failed", "temporary_provider_error",
    "temporary provider error", "timeout"]

def initialBackoffSeconds : Nat := 1

def maxBackoffSeconds : Nat := 60

structure RetryDecision where
  shouldRetry : Bool
  exhausted : Bool
  backoffSeconds : ℚ
  error : String
  deriving DecidableEq

/-- What `SystemRandom().uniform` draws, as the part of its range. -/
abbrev UniformDraw := { draw : ℚ // 0 ≤ draw ∧ draw ≤ 1 }

/-- `calculate_backoff`. -/
def calculateBackoff (attempt : Nat) (draw : UniformDraw) : ℚ :=
  let delay : ℚ := min (initialBackoffSeconds * 2 ^ attempt) maxBackoffSeconds
  delay + draw.val * (delay / 10)

/-- The error in lower case, with underscores for hyphens and single blanks. -/
def normalizedError (lower : String → String) (error : String) : List Char :=
  List.intercalate [' ']
    (words isSpace ((lower error).toList.map fun c => if c = '-' then '_' else c))

/-- `_requires_provider_slow_retry`. -/
def requiresProviderSlowRetry (lower : String → String) (error : String) : Bool :=
  providerTransientErrorMarkers.any fun marker =>
    decide (marker.toList <:+: normalizedError lower error)

/-- `attempts + 1 >= max_attempts` on the record of a job, which leaves out a missing
limit. -/
def QueueJobView.exhausted (job : QueueJobView) : Bool :=
  job.maxAttempts.getD maxRetries ≤ job.attempts + 1

/-- `build_retry_decision` of the record of a job. -/
def buildRetryDecision (lower : String → String) (job : QueueJobView) (error : String)
    (retryAfterSeconds : Option ℚ) (draw : UniformDraw) : RetryDecision :=
  let resolvedBackoff := match retryAfterSeconds with
    | some seconds => max seconds 0
    | none => calculateBackoff job.attempts draw
  let resolvedBackoff := if requiresProviderSlowRetry lower error then
    max resolvedBackoff providerTransientRetrySeconds else resolvedBackoff
  { shouldRetry := !job.exhausted
    exhausted := job.exhausted
    backoffSeconds := if job.exhausted then 0 else resolvedBackoff
    error := error }

theorem one_le_calculateBackoff (attempt : Nat) (draw : UniformDraw) :
    1 ≤ calculateBackoff attempt draw := by
  obtain ⟨draw, hdraw, _⟩ := draw
  have hpow : (1 : ℚ) ≤ 2 ^ attempt := one_le_pow₀ (by norm_num)
  have hdelay : (1 : ℚ) ≤ min ((initialBackoffSeconds : ℚ) * 2 ^ attempt) maxBackoffSeconds := by
    apply le_min
    · simpa [initialBackoffSeconds] using hpow
    · norm_num [maxBackoffSeconds]
  have hjitter : 0 ≤ draw * (min ((initialBackoffSeconds : ℚ) * 2 ^ attempt) maxBackoffSeconds /
      10) := by positivity
  unfold calculateBackoff
  linarith

/-- The job is tried again at once: the caller gives no delay, and the error is not one
of the provider's. -/
def RetriesAtOnce (lower : String → String) (error : String) (retryAfterSeconds : Option ℚ) :
    Prop :=
  (∃ seconds ≤ 0, retryAfterSeconds = some seconds) ∧
    requiresProviderSlowRetry lower error = false

/-- A decision that is not final has no delay exactly when the job is tried again at
once. -/
theorem backoffSeconds_eq_zero_iff {lower : String → String} {job : QueueJobView} {error : String}
    {retryAfterSeconds : Option ℚ} {draw : UniformDraw} :
    (buildRetryDecision lower job error retryAfterSeconds draw).backoffSeconds = 0 ↔
      job.exhausted = true ∨ RetriesAtOnce lower error retryAfterSeconds := by
  have hslow : (0 : ℚ) < providerTransientRetrySeconds := by
    norm_num [providerTransientRetrySeconds]
  have hbackoff : calculateBackoff job.attempts draw ≠ 0 := by
    have := one_le_calculateBackoff job.attempts draw
    linarith
  unfold buildRetryDecision RetriesAtOnce
  dsimp only
  cases hexhausted : job.exhausted with
  | true => simp
  | false =>
    cases hprovider : requiresProviderSlowRetry lower error with
    | true =>
      simp only [Bool.false_eq_true, if_false, if_true, false_or]
      exact iff_of_false (lt_max_of_lt_right hslow).ne' fun hatOnce => nomatch hatOnce.2
    | false =>
      cases retryAfterSeconds with
      | none => simp [hbackoff]
      | some seconds => simp

end CrmBot.ExecutionQueue
