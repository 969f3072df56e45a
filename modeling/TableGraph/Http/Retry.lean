import TableGraph.Backoff
import TableGraph.Event
import TableGraph.Exchange

/-!
# Repeated attempts

A request that fails is repeated as the policy decides. Attempts count from 1, and the outcome of
each is known under its number.

* A response ends the attempts, and so does a failure that the policy does not repeat;
* a retryable failure of a later attempt is reported as exhaustion, with the failure as its source;
* a first failure is reported as it is.
-/

namespace TableGraph.Http

/-- How a request went in the end. -/
structure Attempted where
  outcome : Outcome
  /-- Number of attempts. -/
  attempts : Nat
  events : List Event

/-- The failure of the last of several attempts. -/
def exhausted (attempts : Nat) (last : ClientError) : ClientError :=
  (ClientError.of .retriesExhausted
    ("Request failed after " ++ toString attempts ++ " attempts")).withSource last

/-- What is reported when a failure is not repeated. -/
def finalError (attempt : Nat) (e : ClientError) : ClientError :=
  if e.code.isRetryable ∧ 1 < attempt then exhausted attempt e else e

/-- The event of a repetition. -/
def retryEvent (attempt : Nat) (delay : Duration) (e : ClientError) : Event :=
  .retrying attempt delay.text e.text

/-- Makes attempts from number `attempt` on, at most `fuel` after the first. `jitter` gives what is
drawn for the delay after each. -/
def attemptFrom (policy : RetryPolicy) (outcome : Nat → Outcome) (jitter : Nat → Nat) :
    Nat → Nat → Attempted
  | fuel, attempt =>
    match outcome attempt with
    | .ok response => ⟨.ok response, attempt, []⟩
    | .error e =>
      match fuel, policy.decide e.code attempt (jitter attempt) with
      | fuel + 1, .retryAfter delay =>
        let rest := attemptFrom policy outcome jitter fuel (attempt + 1)
        { rest with events := retryEvent attempt delay e :: rest.events }
      | _, _ => ⟨.error (finalError attempt e), attempt, []⟩

/-- Makes attempts until one is final; no policy allows more than its greatest number. -/
def attempt (policy : RetryPolicy) (outcome : Nat → Outcome) (jitter : Nat → Nat) : Attempted :=
  attemptFrom policy outcome jitter policy.maxAttempts 1

end TableGraph.Http
