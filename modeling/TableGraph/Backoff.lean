import TableGraph.ClientError
import TableGraph.Duration

/-!
# Retrying

When a failed request is repeated, and after which delay.

* Only failures of a retryable code are repeated, and only while attempts are left;
* the delay doubles with every attempt up to a greatest delay, and random jitter is added to it;
* delays are milliseconds of 64 bits, and arithmetic on them saturates;
* jitter is a number drawn from 0 up to a greatest one, which is given with each delay.
-/

namespace TableGraph

/-- The greatest delay in milliseconds. -/
def maxMillis : Nat := Nat.pow 2 64 - 1

/-- A number of milliseconds, or the greatest one. -/
def saturate (millis : Nat) : Nat := min millis maxMillis

theorem saturate_of_le {millis : Nat} (h : millis ≤ maxMillis) : saturate millis = millis :=
  Nat.min_eq_left h

theorem saturate_of_ge {millis : Nat} (h : maxMillis ≤ millis) : saturate millis = maxMillis :=
  Nat.min_eq_right h

/-- How delays grow. -/
structure Backoff where
  /-- Attempts in all, the first included. -/
  maxAttempts : Nat
  baseDelay : Duration
  maxDelay : Duration
  maxJitter : Duration
  deriving DecidableEq, Repr, Inhabited

/-- What to do about a failure. -/
inductive RetryDecision where
  | stop
  | retryAfter (delay : Duration)
  deriving DecidableEq, Repr

/-- The power of two of an exponent, or the greatest delay if it is too large. -/
def saturatingPower (exponent : Nat) : Nat :=
  if exponent < 64 then Nat.pow 2 exponent else maxMillis

theorem saturatingPower_eq_saturate (exponent : Nat) :
    saturatingPower exponent = saturate (Nat.pow 2 exponent) := by
  unfold saturatingPower
  split
  · rename_i hfits
    have hlt : Nat.pow 2 exponent < Nat.pow 2 64 := Nat.pow_lt_pow_right (by decide) hfits
    exact (saturate_of_le (Nat.le_sub_one_of_lt hlt)).symm
  · rename_i hlarge
    have hle : Nat.pow 2 64 ≤ Nat.pow 2 exponent :=
      Nat.pow_le_pow_right (by decide) (Nat.le_of_not_lt hlarge)
    exact (saturate_of_ge (Nat.le_trans (Nat.sub_le _ 1) hle)).symm

namespace Backoff

/-- Five attempts, with delays from 0.2 to 10 seconds and jitter of up to 0.2 seconds. -/
def standard : Backoff := ⟨5, .ofMillis 200, .ofSeconds 10, .ofMillis 200⟩

/-- The delay after an attempt without jitter, in milliseconds. -/
def plainDelay (b : Backoff) (attempt : Nat) : Nat :=
  min (saturate (saturate b.baseDelay.toMillis * saturatingPower (attempt - 1)))
    (saturate b.maxDelay.toMillis)

/-- The greatest jitter in milliseconds. -/
def greatestJitter (b : Backoff) : Nat := saturate b.maxJitter.toMillis

/-- The jitter of a delay in milliseconds. Nothing is drawn when the greatest jitter is 0. -/
def jitter (b : Backoff) (drawn : Nat) : Nat := if 0 < b.greatestJitter then drawn else 0

/-- Where nothing is drawn, no number but 0 is within the greatest jitter. -/
theorem jitter_of_le (b : Backoff) {drawn : Nat} (h : drawn ≤ b.greatestJitter) :
    b.jitter drawn = drawn := by
  unfold jitter
  split <;> omega

/-- The delay after an attempt in milliseconds, with the drawn jitter. -/
def delay (b : Backoff) (attempt drawn : Nat) : Nat :=
  saturate (b.plainDelay attempt + b.jitter drawn)

/-- Repeats a retryable failure while attempts are left. -/
def decide (b : Backoff) (e : ErrorCode) (attempt drawn : Nat) : RetryDecision :=
  if b.maxAttempts ≤ attempt ∨ e.isRetryable = false then .stop
  else .retryAfter (.ofMillis (b.delay attempt drawn))

theorem decide_eq_retryAfter_iff (b : Backoff) (e : ErrorCode) (attempt drawn : Nat)
    (d : Duration) :
    b.decide e attempt drawn = .retryAfter d ↔
      attempt < b.maxAttempts ∧ e.isRetryable = true ∧ d = .ofMillis (b.delay attempt drawn) := by
  unfold decide
  split
  · rename_i hstop
    refine ⟨nofun, ?_⟩
    rintro ⟨hleft, hcode, -⟩
    rcases hstop with hlast | hfinal
    · exact absurd hleft (Nat.not_lt_of_le hlast)
    · exact absurd (hcode.symm.trans hfinal) nofun
  · rename_i hgo
    rw [not_or, Nat.not_le, Bool.not_eq_false] at hgo
    rw [RetryDecision.retryAfter.injEq, eq_comm]
    exact ⟨fun hd => ⟨hgo.1, hgo.2, hd⟩, fun h => h.2.2⟩

end Backoff

/-- Whether failed requests are repeated. -/
inductive RetryPolicy where
  | never
  | backoff (b : Backoff)
  deriving DecidableEq, Repr, Inhabited

namespace RetryPolicy

/-- Attempts in all, as the policy states them. -/
def maxAttempts : RetryPolicy → Nat
  | .never => 1
  | .backoff b => b.maxAttempts

/-- What to do about a failure after an attempt. -/
def decide : RetryPolicy → ErrorCode → Nat → Nat → RetryDecision
  | .never, _, _, _ => .stop
  | .backoff b, e, attempt, jitter => b.decide e attempt jitter

/-- No policy goes on after its last attempt. -/
theorem decide_of_maxAttempts_le {p : RetryPolicy} {attempt : Nat} (h : p.maxAttempts ≤ attempt)
    (e : ErrorCode) (jitter : Nat) : p.decide e attempt jitter = .stop := by
  cases p with
  | never => rfl
  | backoff b => exact if_pos (.inl h)

end RetryPolicy

end TableGraph
