import Mathlib.Algebra.Group.Nat.Defs
import Mathlib.Data.List.Forall2
import Mathlib.Order.MinMax
import TableGraph.Proofs.Http.Attempts

/-! # Delays between attempts

How long a client waits before it repeats a request.

* A factor may saturate before its product does (`saturate_mul_saturate`), and no greatest delay is
  beyond the saturated one (`min_saturate`).  So the power and the product on the way to a delay are
  as good as exact (`Backoff.plainDelay_eq`), and only the sum with the jitter is cut
  (`Backoff.delay_eq`);
* delays grow with the number of the attempt and stay within the greatest delay and jitter
  (`Backoff.delay_le_delay`, `Backoff.delay_le`);
* a request with all its attempts waits once after each attempt but the last one, for the delay of
  that attempt (`Http.delays_of_attempts`). -/

namespace TableGraph

/-! ### Saturation on the way -/

/-- Saturation does not show under a limit that is itself saturated. -/
theorem min_saturate (millis limit : Nat) :
    min (saturate millis) (saturate limit) = min millis (saturate limit) := by
  unfold saturate
  omega

/-- A product with 0 is 0 whatever the other factor is, and any other product is no less than its
factors: where a factor saturates, the product does. -/
theorem saturate_mul_saturate (m n : Nat) : saturate (m * saturate n) = saturate (m * n) := by
  rcases Nat.eq_zero_or_pos m with rfl | hm
  · rw [Nat.zero_mul, Nat.zero_mul]
  · rcases Nat.le_total n maxMillis with hn | hn
    · rw [saturate_of_le hn]
    · have hcut : maxMillis ≤ m * maxMillis := Nat.le_mul_of_pos_left maxMillis hm
      have hexact : maxMillis ≤ m * n := Nat.le_trans hcut (Nat.mul_le_mul_left m hn)
      rw [saturate_of_ge hn, saturate_of_ge hcut, saturate_of_ge hexact]

namespace Backoff

/-! ### The delay of an attempt -/

section
variable (b : Backoff)

/-- Without jitter, no saturation on the way to a delay can be told from exact arithmetic. -/
theorem plainDelay_eq (attempt : Nat) :
    b.plainDelay attempt =
      min (saturate b.baseDelay.toMillis * 2 ^ (attempt - 1)) (saturate b.maxDelay.toMillis) := by
  unfold plainDelay
  rw [saturatingPower_eq_saturate, saturate_mul_saturate, min_saturate, Nat.pow_eq]

theorem plainDelay_le (attempt : Nat) : b.plainDelay attempt ≤ saturate b.maxDelay.toMillis :=
  Nat.min_le_right _ _

theorem plainDelay_mono : Monotone b.plainDelay := by
  intro m n hmn
  have hpower : 2 ^ (m - 1) ≤ 2 ^ (n - 1) :=
    Nat.pow_le_pow_right (by decide) (Nat.sub_le_sub_right hmn 1)
  rw [plainDelay_eq, plainDelay_eq]
  exact min_le_min_right _ (Nat.mul_le_mul_left _ hpower)

theorem delay_eq {drawn : Nat} (h : drawn ≤ b.greatestJitter) (attempt : Nat) :
    b.delay attempt drawn =
      min (min (saturate b.baseDelay.toMillis * 2 ^ (attempt - 1)) (saturate b.maxDelay.toMillis)
        + drawn) maxMillis := by
  rw [delay, plainDelay_eq, jitter_of_le b h, saturate]

example : [1, 2, 3].map (delay ⟨10, .ofMillis 100, .ofMillis 350, .ofMillis 0⟩ · 0) =
    [100, 200, 350] := by decide

theorem delay_le_delay {m n i j : Nat} (hattempt : m ≤ n) (hjitter : b.jitter i ≤ b.jitter j) :
    b.delay m i ≤ b.delay n j :=
  min_le_min_right _ (Nat.add_le_add (b.plainDelay_mono hattempt) hjitter)

theorem delay_le {drawn : Nat} (h : drawn ≤ b.greatestJitter) (attempt : Nat) :
    b.delay attempt drawn ≤ saturate b.maxDelay.toMillis + b.greatestJitter := by
  have hjitter : b.jitter drawn ≤ b.greatestJitter := (b.jitter_of_le h).trans_le h
  calc b.delay attempt drawn
      ≤ b.plainDelay attempt + b.jitter drawn := Nat.min_le_left _ _
    _ ≤ saturate b.maxDelay.toMillis + b.greatestJitter :=
        Nat.add_le_add (b.plainDelay_le attempt) hjitter

theorem delay_of_greatestJitter_eq_zero (h : b.greatestJitter = 0) (attempt drawn : Nat) :
    b.delay attempt drawn = b.delay attempt 0 := by
  simp [delay, jitter, h]

end

/-! ### Delays of a policy -/

/-- The delay after an attempt is the base doubled with every attempt before it, up to the greatest
delay, with the jitter added, all in exact numbers; only a sum beyond 64 bits is cut.  A policy
that repeats a request does so after this delay.  Without jitter delays never decrease, where none
is drawn there is none, and no delay exceeds the greatest delay and jitter together. -/
theorem delays_in_exact_numbers (b : Backoff) {j : Nat}
    (hj : j ≤ min (b.maxJitter.nanoseconds / 1000000) (2 ^ 64 - 1)) :
    let most := 2 ^ 64 - 1
    let base := min (b.baseDelay.nanoseconds / 1000000) most
    let limit := min (b.maxDelay.nanoseconds / 1000000) most
    let jitterLimit := min (b.maxJitter.nanoseconds / 1000000) most
    (∀ n, b.delay n j = min most (min (base * 2 ^ (n - 1)) limit + j)) ∧
    (∀ e n d, b.decide e n j = .retryAfter d ↔ n < b.maxAttempts ∧ e.isRetryable = true ∧
      d = .ofMillis (min most (min (base * 2 ^ (n - 1)) limit + j))) ∧
    (Monotone fun n => b.delay n 0) ∧
    (jitterLimit = 0 → ∀ n drawn, b.delay n drawn = b.delay n 0) ∧
    (∀ n, b.delay n j ≤ limit + jitterLimit) := by
  intro most base limit jitterLimit
  have hexact : ∀ n, b.delay n j = min most (min (base * 2 ^ (n - 1)) limit + j) := fun n =>
    (b.delay_eq hj n).trans (Nat.min_comm _ _)
  refine ⟨hexact, ?_, ?_, b.delay_of_greatestJitter_eq_zero, b.delay_le hj⟩
  · intro e n d
    rw [b.decide_eq_retryAfter_iff, hexact]
  · exact fun m n hmn => b.delay_le_delay hmn (Nat.le_refl _)

/-- The product leaves 64 bits after attempt 64 and the power after attempt 65; the jitter is the
greatest one. -/
theorem delays_in_exact_numbers_of_overflows :
    let b : Backoff := ⟨100, .ofMillis 3, .ofMillis (2 ^ 64 - 1), .ofMillis 5⟩
    5 ≤ min (b.maxJitter.nanoseconds / 1000000) (2 ^ 64 - 1) ∧
    b.delay 62 5 = 3 * 2 ^ 61 + 5 ∧ b.delay 64 5 = 2 ^ 64 - 1 ∧ b.delay 66 5 = 2 ^ 64 - 1 ∧
    b.decide .timeout 99 5 = .retryAfter (.ofMillis (2 ^ 64 - 1)) ∧ b.delay 62 0 ≤ b.delay 64 0 := by
  intro b
  have hj : 5 ≤ min (b.maxJitter.nanoseconds / 1000000) (2 ^ 64 - 1) := by decide
  obtain ⟨hdelay, hdecide, hmono, -, -⟩ := b.delays_in_exact_numbers hj
  exact ⟨hj, (hdelay 62).trans (by decide), (hdelay 64).trans (by decide),
    (hdelay 66).trans (by decide), (hdecide .timeout 99 _).mpr ⟨by decide, rfl, by decide⟩,
    hmono (by decide)⟩

end Backoff

namespace Http

variable {b : Backoff} {outcome : Nat → Outcome} {drawn : Nat → Nat} {k : Nat} {done : Attempted}

/-! ### Waiting in the course of a request -/

/-- The event tells that attempt `n` failed and is repeated after the delay `b` has for it. -/
def TellsDelay (b : Backoff) (outcome : Nat → Outcome) (drawn : Nat → Nat) (n : Nat)
    (event : Event) : Prop :=
  ∃ e, outcome n = .error e ∧ event = retryEvent n (.ofMillis (b.delay n (drawn n))) e

/-- From attempt `k` on, every attempt before the last one is followed by its own delay. -/
theorem Ends.delays (h : Ends (.backoff b) outcome drawn k done) (hk : 1 ≤ k) :
    List.Forall₂ (TellsDelay b outcome drawn) (List.range' k (done.attempts - k)) done.events := by
  induction h with
  | answered ho =>
      rw [Nat.sub_self]
      exact .nil
  | stopped ho hd =>
      rw [Nat.sub_self]
      exact .nil
  | @repeated k e delay rest ho hd hrest ih =>
      have hnext : 1 ≤ k + 1 := Nat.le_add_left 1 k
      have hlater : k + 1 ≤ rest.attempts := (hrest.isLeast hnext).1.1
      have hcount : rest.attempts - k = rest.attempts - (k + 1) + 1 := by omega
      have htells : TellsDelay b outcome drawn k (retryEvent k delay e) := by
        obtain ⟨-, -, rfl⟩ := (b.decide_eq_retryAfter_iff _ _ _ _).mp hd
        exact ⟨e, ho, rfl⟩
      show List.Forall₂ _ (List.range' k (rest.attempts - k)) (_ :: rest.events)
      rw [hcount, List.range'_succ]
      exact .cons htells (ih hnext)

/-- A request that takes several attempts waits once between one and the next: after attempts 1, 2
and so on, each time for the delay of that attempt. -/
theorem delays_of_attempts (b : Backoff) (outcome : Nat → Outcome) (drawn : Nat → Nat) :
    let done := attempt (.backoff b) outcome drawn
    List.Forall₂ (TellsDelay b outcome drawn) (List.range' 1 (done.attempts - 1)) done.events :=
  (ends_attempt (.backoff b) outcome drawn).delays (Nat.le_refl 1)

end Http

end TableGraph
