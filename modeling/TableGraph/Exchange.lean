import TableGraph.Event
import TableGraph.Request
import TableGraph.Response

/-!
# Exchanges

What a client does, as a tree: it tells an event, sends a request and goes on with whatever is
answered, or is done. A transport runs the tree; nothing is sent but by a `send`.

* `Exchange.run` runs a tree on a transport and keeps the requests and the events in order;
* `Exchange.breakOff` runs it up to its first request, which is sent and never answered.
-/

namespace TableGraph

/-- What comes back for a request: a response or a failure. -/
abbrev Outcome := Except ClientError Response

/-- A client at work. -/
inductive Exchange (α : Type) where
  | done (result : α)
  | tell (event : Event) (next : Exchange α)
  | send (request : Request) (next : Outcome → Exchange α)

namespace Exchange
variable {α β : Type}

/-- Goes on with what the first part results in. -/
def bind : Exchange α → (α → Exchange β) → Exchange β
  | .done a, f => f a
  | .tell e next, f => .tell e (next.bind f)
  | .send r next, f => .send r fun o => (next o).bind f

instance : Monad Exchange where
  pure := .done
  bind := bind

/-- Tells one event. -/
def log (e : Event) : Exchange Unit := .tell e (.done ())

/-- Sends one request. -/
def request (r : Request) : Exchange Outcome := .send r .done

end Exchange

/-- What a transport answers to one request, what it tells meanwhile, and its state after it. -/
structure Reply (σ : Type) where
  outcome : Outcome
  events : List Event
  state : σ

/-- Answers requests one after another. -/
abbrev Transport (σ : Type) := Request → σ → Reply σ

/-- A finished exchange. -/
structure Transcript (σ α : Type) where
  result : α
  requests : List Request
  events : List Event
  state : σ

namespace Exchange
variable {σ α β : Type}

/-- Runs an exchange on a transport. -/
def run (t : Transport σ) : Exchange α → σ → Transcript σ α
  | .done a, s => ⟨a, [], [], s⟩
  | .tell e next, s =>
    let rest := next.run t s
    { rest with events := e :: rest.events }
  | .send r next, s =>
    let reply := t r s
    let rest := (next reply.outcome).run t reply.state
    { rest with requests := r :: rest.requests, events := reply.events ++ rest.events }

/-- The requests and events of an exchange that is broken off at its first request. -/
def breakOff : Exchange α → List Request × List Event
  | .done _ => ([], [])
  | .tell e next => (next.breakOff.1, e :: next.breakOff.2)
  | .send r _ => ([r], [])

theorem bind_pure (x : Exchange α) : x.bind .done = x := by
  induction x with
  | done a => rfl
  | tell e next ih => simp [bind, ih]
  | send r next ih => simp [bind, ih]

end Exchange

/-- Outcomes that are known in advance, used one per request, and a failure once they are used
up. -/
def scripted (exhausted : ClientError) : Transport (List Outcome) := fun _ outcomes =>
  match outcomes with
  | [] => ⟨.error exhausted, [], []⟩
  | outcome :: rest => ⟨outcome, [], rest⟩

end TableGraph
