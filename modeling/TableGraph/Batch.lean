import TableGraph.Client
import TableGraph.Deferred

/-!
# Batches

A batch collects actions into one document. While it is open nothing is sent, and each action
gets a handle. Committing sends the document once and settles every handle from the answer;
aborting sends nothing and fails every handle.

* The handles that were given out are kept in order, and a pending root holds the number of the
  one that it settles;
* pending roots follow the roots of the document, and each takes its answer out of the data;
* an action that cannot be added leaves the batch as it was;
* committing an empty batch sends nothing;
* if the request fails, every handle fails with the same error.
-/

namespace TableGraph

/-- The life of a batch. -/
inductive BatchState where
  | open
  /-- The document was sent, and an answer or a failure came back. -/
  | executed
  /-- Every handle is settled from the answer. -/
  | closed
  | aborted
  deriving DecidableEq, Repr

/-- The name of a state. -/
def BatchState.name : BatchState → String
  | .open => "open"
  | .executed => "executed"
  | .closed => "closed"
  | .aborted => "aborted"

/-- A root that waits for its answer. -/
structure PendingRoot (ρ : Type) where
  «alias» : String
  read : Json → Except ClientError ρ
  /-- The number of its handle. -/
  handle : Nat

/-- A batch whose results are of type `ρ`. -/
structure Batch (ρ : Type) where
  state : BatchState
  document : Document
  pending : List (PendingRoot ρ)
  /-- The handles that were given out. -/
  handles : List (Deferred ρ)

namespace Batch
variable {ρ : Type}

/-- An open batch without actions. -/
def empty (type : OperationType) : Batch ρ := ⟨.open, .empty type, [], []⟩

/-- Number of roots. -/
def size (b : Batch ρ) : Nat := b.document.size

/-- There are no roots. -/
def isEmpty (b : Batch ρ) : Bool := b.document.isEmpty

/-- The batch takes no more actions. -/
def closedError : ClientError :=
  .of .batchClosed "Cannot add operations to a batch that is no longer open"

/-- Adds an action and returns the number of its handle. -/
def defer (b : Batch ρ) (a : Action ρ) : Except ClientError (Nat × Batch ρ) :=
  if b.state ≠ .open then .error closedError
  else match b.document.push a.node with
    | .error e => .error (.ofBuildError e)
    | .ok (key, document) =>
      .ok (b.handles.length,
        { b with
          document := document
          pending := b.pending ++ [⟨key, a.read, b.handles.length⟩]
          handles := b.handles ++ [.pending] })

/-- Settles one handle. -/
def settleAt (handles : List (Deferred ρ)) (i : Nat) (result : Except ClientError ρ) :
    List (Deferred ρ) :=
  handles.modify i (·.settle result)

/-- Settles the handles of roots from the data, out of which each root takes its answer. -/
def answerAll (data : Json) (handles : List (Deferred ρ)) : List (PendingRoot ρ) → List (Deferred ρ)
  | [] => handles
  | root :: rest =>
    let (value, data) := Answer.takeRoot data root.alias
    answerAll data (settleAt handles root.handle (root.read value)) rest

/-- Fails the handles of roots. -/
def failAll (e : ClientError) (handles : List (Deferred ρ)) :
    List (PendingRoot ρ) → List (Deferred ρ)
  | [] => handles
  | root :: rest => failAll e (settleAt handles root.handle (.error e)) rest

/-- Settles every handle from the data, or fails them all. -/
def distribute (b : Batch ρ) (answer : Except ClientError Json) :
    Exchange (Except ClientError Unit × Batch ρ) :=
  let pending := b.pending
  let b := { b with state := .executed, pending := [] }
  match answer with
  | .ok data =>
    pure (.ok (), { b with state := .closed, handles := answerAll data b.handles pending })
  | .error e => do
    .log (.batchFailed pending.length e.code)
    pure (.error e, { b with state := .closed, handles := failAll e b.handles pending })

/-- Sends the document once and settles every handle. -/
def commit (b : Batch ρ) : Exchange (Except ClientError Unit × Batch ρ) :=
  if b.isEmpty then pure (.ok (), { b with state := .closed })
  else do
    .log (.committingBatch b.size)
    b.distribute (← Client.execute b.document.compile)

/-- The batch without its pending roots, whose handles fail. -/
def aborted (b : Batch ρ) : Batch ρ :=
  { b with
    state := .aborted
    pending := []
    handles := failAll Deferred.abortedError b.handles b.pending }

/-- Fails every handle and sends nothing. -/
def abort (b : Batch ρ) : Exchange (Batch ρ) := do
  .log (.abortingBatch b.pending.length)
  pure b.aborted

/-- Gives a batch up: an open one is aborted. -/
def drop (b : Batch ρ) : Exchange (Batch ρ) :=
  if b.state = .open then b.abort else pure b

/-- A commit whose answer never comes: an empty batch is closed, any other has sent its request
and is aborted. -/
structure Cancelled (ρ : Type) where
  requests : List Request
  events : List Event
  batch : Batch ρ

/-- Commits and gives up before the answer comes. -/
def cancel (b : Batch ρ) : Cancelled ρ :=
  if b.isEmpty then ⟨[], [], { b with state := .closed }⟩
  else
    let (requests, events) := b.commit.breakOff
    ⟨requests, events ++ [.abortingBatch b.pending.length], b.aborted⟩

/-- Fills a new batch and commits it. If filling fails, the batch is aborted. -/
def scope {α : Type} (type : OperationType) (fill : Batch ρ → Except ClientError α × Batch ρ) :
    Exchange (Except ClientError α × Batch ρ) :=
  match fill (empty type) with
  | (.error e, b) => do pure (.error e, ← b.drop)
  | (.ok output, b) => do
    let (result, b) ← b.commit
    pure (result.map fun _ => output, b)

end Batch

end TableGraph
