import Mathlib.Order.Bounds.Basic
import TableGraph.Http.Retry

/-! # Attempts of a request

How often a request is tried, and what is reported of it.

* `Ends` and `Made` describe the repetition without a bound on its length.  It comes to an end,
  which the bounded one finds (`ends_attempt`), and there is no other (`Ends.unique`);
* an attempt is the last one if its outcome is final or no attempts are left (`Stops`); the first
  such attempt ends the repetition (`Ends.isLeast`), and exactly those up to it are made
  (`made_iff`);
* what is reported depends on the last outcome and its number only (`Ends.outcome_eq`). -/

namespace TableGraph

/-- A policy gives up when no attempts are left, and on a failure that is not retryable. -/
theorem RetryPolicy.decide_eq_stop_iff (p : RetryPolicy) (code : ErrorCode) {attempt : Nat}
    (h : 1 ≤ attempt) (jitter : Nat) :
    p.decide code attempt jitter = .stop ↔ p.maxAttempts ≤ attempt ∨ code.isRetryable = false := by
  cases p with
  | never => exact ⟨fun _ => .inl h, fun _ => rfl⟩
  | backoff b =>
      show b.decide code attempt jitter = .stop ↔ b.maxAttempts ≤ attempt ∨ _
      unfold Backoff.decide
      split
      · rename_i hstop
        exact ⟨fun _ => hstop, fun _ => rfl⟩
      · rename_i hgo
        exact ⟨nofun, fun hstop => absurd hstop hgo⟩

namespace Http

/-- The outcome is a response, or a failure that is not repeated. -/
def isFinal : Outcome → Bool
  | .ok _ => true
  | .error e => !e.code.isRetryable

/-- What is reported of a last attempt. -/
def reported (attempt : Nat) : Outcome → Outcome
  | .ok response => .ok response
  | .error e => .error (finalError attempt e)

theorem reported_of_isFinal {o : Outcome} (h : isFinal o = true) (attempt : Nat) :
    reported attempt o = o := by
  cases o with
  | ok response => rfl
  | error e =>
      have hcode : e.code.isRetryable = false := Bool.not_eq_true' _ ▸ h
      simp [reported, finalError, hcode]

theorem reported_first (o : Outcome) : reported 1 o = o := by
  cases o with
  | ok response => rfl
  | error e => simp [reported, finalError]

/-- A later failure that could be repeated is reported as exhaustion. -/
theorem reported_of_not_isFinal {o : Outcome} (h : isFinal o = false) {attempt : Nat}
    (hlater : 1 < attempt) :
    ∃ e, o = .error e ∧ reported attempt o = .error (exhausted attempt e) := by
  cases o with
  | ok response => cases h
  | error e =>
      have hcode : e.code.isRetryable = true := Bool.not_eq_false' _ ▸ h
      exact ⟨e, rfl, congrArg Except.error (if_pos ⟨hcode, hlater⟩)⟩

section
variable (policy : RetryPolicy) (outcome : Nat → Outcome) (jitter : Nat → Nat)

/-- No attempt follows attempt `k`. -/
def Stops (k : Nat) : Prop := isFinal (outcome k) = true ∨ policy.maxAttempts ≤ k

/-- Attempts from number `k` on, as many as it takes, come to an end. -/
inductive Ends : Nat → Attempted → Prop where
  | answered {k : Nat} {response : Response} (ho : outcome k = .ok response) :
    Ends k ⟨.ok response, k, []⟩
  | stopped {k : Nat} {e : ClientError} (ho : outcome k = .error e)
      (hd : policy.decide e.code k (jitter k) = .stop) :
    Ends k ⟨.error (finalError k e), k, []⟩
  | repeated {k : Nat} {e : ClientError} {delay : Duration} {rest : Attempted}
      (ho : outcome k = .error e) (hd : policy.decide e.code k (jitter k) = .retryAfter delay)
      (hrest : Ends (k + 1) rest) :
    Ends k { rest with events := retryEvent k delay e :: rest.events }

/-- Attempt number `k` is made. -/
inductive Made : Nat → Prop where
  | first : Made 1
  | next {k : Nat} {e : ClientError} {delay : Duration} (hk : Made k) (ho : outcome k = .error e)
      (hd : policy.decide e.code k (jitter k) = .retryAfter delay) : Made (k + 1)

end

variable {policy : RetryPolicy} {outcome : Nat → Outcome} {jitter : Nat → Nat} {k : Nat}
  {done : Attempted}

/-! ### The end -/

/-- As many repetitions as attempts are left are enough. -/
theorem ends_attemptFrom : ∀ (fuel k : Nat), policy.maxAttempts ≤ k + fuel →
    Ends policy outcome jitter k (attemptFrom policy outcome jitter fuel k)
  | fuel, k, h => by
    unfold attemptFrom
    cases ho : outcome k with
    | ok response => exact .answered ho
    | error e =>
        cases fuel with
        | zero => exact .stopped ho (RetryPolicy.decide_of_maxAttempts_le h _ _)
        | succ fuel =>
            cases hd : policy.decide e.code k (jitter k) with
            | stop =>
                simp only [hd]
                exact .stopped ho hd
            | retryAfter delay =>
                have hleft : policy.maxAttempts ≤ k + 1 + fuel := by omega
                simp only [hd]
                exact .repeated ho hd (ends_attemptFrom fuel (k + 1) hleft)

theorem ends_attempt (policy : RetryPolicy) (outcome : Nat → Outcome) (jitter : Nat → Nat) :
    Ends policy outcome jitter 1 (attempt policy outcome jitter) :=
  ends_attemptFrom policy.maxAttempts 1 (Nat.le_add_left _ _)

theorem Ends.unique {other : Attempted} (h : Ends policy outcome jitter k done)
    (h' : Ends policy outcome jitter k other) : other = done := by
  induction h generalizing other with
  | answered ho =>
      cases h' with
      | answered ho' => cases ho.symm.trans ho'; rfl
      | stopped ho' => cases ho.symm.trans ho'
      | repeated ho' => cases ho.symm.trans ho'
  | stopped ho hd =>
      cases h' with
      | answered ho' => cases ho.symm.trans ho'
      | stopped ho' => cases ho.symm.trans ho'; rfl
      | repeated ho' hd' =>
          cases ho.symm.trans ho'
          cases hd.symm.trans hd'
  | repeated ho hd _ ih =>
      cases h' with
      | answered ho' => cases ho.symm.trans ho'
      | stopped ho' hd' =>
          cases ho.symm.trans ho'
          cases hd.symm.trans hd'
      | repeated ho' hd' hrest' =>
          cases ho.symm.trans ho'
          cases hd.symm.trans hd'
          rw [ih hrest']

/-! ### The number of attempts -/

theorem decide_eq_stop_iff_stops (hk : 1 ≤ k) {e : ClientError} (ho : outcome k = .error e)
    (jitter : Nat) : policy.decide e.code k jitter = .stop ↔ Stops policy outcome k := by
  rw [policy.decide_eq_stop_iff e.code hk]
  unfold Stops isFinal
  rw [ho, or_comm, Bool.not_eq_true']

theorem not_stops_of_retryAfter (hk : 1 ≤ k) {e : ClientError} (ho : outcome k = .error e)
    {jitter : Nat} {delay : Duration} (hd : policy.decide e.code k jitter = .retryAfter delay) :
    ¬ Stops policy outcome k := by
  intro hstops
  cases hd.symm.trans ((decide_eq_stop_iff_stops hk ho jitter).mpr hstops)

/-- The first attempt that none follows is the last one. -/
theorem Ends.isLeast (h : Ends policy outcome jitter k done) (hk : 1 ≤ k) :
    IsLeast {i | k ≤ i ∧ Stops policy outcome i} done.attempts := by
  induction h with
  | @answered k response ho =>
      refine ⟨⟨Nat.le_refl k, .inl ?_⟩, fun i hi => hi.1⟩
      rw [ho]
      rfl
  | @stopped k e ho hd =>
      exact ⟨⟨Nat.le_refl k, (decide_eq_stop_iff_stops hk ho _).mp hd⟩, fun i hi => hi.1⟩
  | @repeated k e delay rest ho hd _ ih =>
      obtain ⟨⟨hle, hstops⟩, hleast⟩ := ih (Nat.le_succ_of_le hk)
      refine ⟨⟨Nat.le_of_succ_le hle, hstops⟩, ?_⟩
      rintro i ⟨hi, histops⟩
      have hne : k ≠ i := fun he => not_stops_of_retryAfter hk ho hd (he ▸ histops)
      exact hleast ⟨Nat.lt_of_le_of_ne hi hne, histops⟩

theorem Ends.outcome_eq (h : Ends policy outcome jitter k done) :
    done.outcome = reported done.attempts (outcome done.attempts) := by
  induction h with
  | answered ho => rw [ho]; rfl
  | stopped ho hd => rw [ho]; rfl
  | repeated ho hd _ ih => exact ih

/-- An attempt is made if an attempt follows each one before it. -/
theorem made_iff : Made policy outcome jitter k ↔
    1 ≤ k ∧ ∀ i, 1 ≤ i → i < k → ¬ Stops policy outcome i := by
  constructor
  · intro h
    induction h with
    | first => exact ⟨Nat.le_refl 1, fun i hi hlt => absurd hi (Nat.not_le_of_lt hlt)⟩
    | @next k e delay _ ho hd ih =>
        refine ⟨Nat.le_succ_of_le ih.1, fun i hi hlt => ?_⟩
        rcases Nat.lt_or_eq_of_le (Nat.le_of_lt_succ hlt) with hbefore | rfl
        · exact ih.2 i hi hbefore
        · exact not_stops_of_retryAfter ih.1 ho hd
  · rintro ⟨hk, hgo⟩
    induction k, hk using Nat.le_induction with
    | base => exact .first
    | succ k hk ih =>
        have hmade := ih fun i hi hlt => hgo i hi (Nat.lt_succ_of_lt hlt)
        have hlast := hgo k hk (Nat.lt_succ_self k)
        cases ho : outcome k with
        | ok response => exact absurd (.inl (by rw [ho]; rfl)) hlast
        | error e =>
            cases hd : policy.decide e.code k (jitter k) with
            | stop => exact absurd ((decide_eq_stop_iff_stops hk ho _).mp hd) hlast
            | retryAfter delay => exact hmade.next ho hd

/-- A request is tried until an attempt has a final outcome, but no more often than the policy
allows, and at least once.  A response, a failure that is not retryable and a first failure are
reported as they are; after that, a failure is the source of an exhaustion that tells the number of
attempts.  The repetition ends in no other way, and no number of an attempt leaves 32 bits if the
greatest one does not. -/
theorem attempts_until_final (policy : RetryPolicy) (outcome : Nat → Outcome)
    (jitter : Nat → Nat) :
    let done := attempt policy outcome jitter
    let n := done.attempts
    let limit := max 1 policy.maxAttempts
    Ends policy outcome jitter 1 done ∧
    (∀ other, Ends policy outcome jitter 1 other → other = done) ∧
    (∀ first, IsLeast {k | 1 ≤ k ∧ isFinal (outcome k) = true} first → first ≤ limit → n = first) ∧
    ((∀ k, 1 ≤ k → k ≤ limit → isFinal (outcome k) = false) → n = limit) ∧
    (isFinal (outcome n) = true ∨ n = 1 → done.outcome = outcome n) ∧
    (isFinal (outcome n) = false → n ≠ 1 → ∃ e, outcome n = .error e ∧
      done.outcome = .error ((ClientError.of .retriesExhausted
        ("Request failed after " ++ toString n ++ " attempts")).withSource e)) ∧
    (∀ k, Made policy outcome jitter k ↔ 1 ≤ k ∧ k ≤ n) ∧ n ≤ limit ∧
    (policy.maxAttempts < UInt32.size → ∀ k, Made policy outcome jitter k → k < UInt32.size) := by
  intro done n limit
  have hends : Ends policy outcome jitter 1 done := ends_attempt policy outcome jitter
  have hreported : done.outcome = reported n (outcome n) := hends.outcome_eq
  obtain ⟨⟨hpos, hstops⟩, hleast⟩ : IsLeast {i | 1 ≤ i ∧ Stops policy outcome i} n :=
    hends.isLeast (Nat.le_refl 1)
  have hle : n ≤ limit := hleast ⟨Nat.le_max_left _ _, .inr (Nat.le_max_right _ _)⟩
  have hmade : ∀ k, Made policy outcome jitter k ↔ 1 ≤ k ∧ k ≤ n := by
    intro k
    rw [made_iff]
    constructor
    · rintro ⟨hk, hgo⟩
      exact ⟨hk, Nat.le_of_not_lt fun hlt => hgo n hpos hlt hstops⟩
    · rintro ⟨hk, hkn⟩
      exact ⟨hk, fun i hi hlt histops => absurd (hleast ⟨hi, histops⟩) (by omega)⟩
  refine ⟨hends, fun other => hends.unique, ?_, ?_, ?_, ?_, hmade, hle, ?_⟩
  · rintro first ⟨⟨hfirst, hfinal⟩, hbefore⟩ hlimit
    refine Nat.le_antisymm (hleast ⟨hfirst, .inl hfinal⟩) ?_
    rcases hstops with hn | hn
    · exact hbefore ⟨hpos, hn⟩
    · omega
  · intro hnone
    refine Nat.le_antisymm hle ?_
    rcases hstops with hn | hn
    · exact absurd (hn.symm.trans (hnone n hpos hle)) nofun
    · exact Nat.max_le.mpr ⟨hpos, hn⟩
  · rintro (hfinal | hn)
    · rw [hreported, reported_of_isFinal hfinal]
    · rw [hreported, hn, reported_first]
  · intro hfinal hn
    rw [hreported]
    exact reported_of_not_isFinal hfinal (by omega)
  · intro hsize k hk
    have hkn := ((hmade k).mp hk).2
    have hone : 1 < UInt32.size := by decide
    omega

end Http

end TableGraph
