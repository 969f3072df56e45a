import TableGraph.Batch

/-!
# Sessions of a batch

The whole life of a batch: a caller tries to add actions one after another, and then the batch
ends.

* Building an action may fail, and so may adding it; the caller goes on with the same batch;
* a batch ends by a commit or by giving it up, and a closure that fills it ends it one way or the
  other with its own result;
* a commit may be cancelled while its answer is awaited.
-/

namespace TableGraph

/-- How a batch ends. -/
inductive Ending where
  | commit
  | abort
  | drop
  /-- The closure that fills the batch has a result. -/
  | scope (result : Except ClientError Unit)
  /-- The commit is given up before its answer comes. -/
  | cancel

namespace Ending

/-- The ending sends the document and waits for the answer. -/
def commits : Ending → Bool
  | .commit => true
  | .scope (.ok ()) => true
  | _ => false

/-- The ending sends the document. -/
def sends : Ending → Bool
  | .cancel => true
  | ending => ending.commits

end Ending

/-- What is left of a session. -/
structure Ended (ρ : Type) where
  /-- What the caller gets; a cancelled commit gives nothing. -/
  result : Option (Except ClientError Unit)
  batch : Batch ρ
  requests : List Request

namespace Batch
variable {σ ρ : Type}

/-- Tries to add an action. -/
def attempt (b : Batch ρ) : Except ClientError (Action ρ) → Except ClientError Nat × Batch ρ
  | .error e => (.error e, b)
  | .ok a =>
    match b.defer a with
    | .error e => (.error e, b)
    | .ok (i, b) => (.ok i, b)

/-- Tries to add actions one after another. -/
def attemptAll (b : Batch ρ) : List (Except ClientError (Action ρ)) → Batch ρ
  | [] => b
  | a :: rest => (b.attempt a).2.attemptAll rest

/-- The actions that are added. -/
def added (b : Batch ρ) : List (Except ClientError (Action ρ)) → List (Action ρ)
  | [] => []
  | .error _ :: rest => b.added rest
  | .ok a :: rest =>
    match b.defer a with
    | .error _ => b.added rest
    | .ok (_, b) => a :: b.added rest

/-- A new batch after actions were tried to be added. -/
def filled (type : OperationType) (attempts : List (Except ClientError (Action ρ))) : Batch ρ :=
  (empty type).attemptAll attempts

/-- A batch from its beginning to its end. -/
def session (t : Transport σ) (s : σ) (type : OperationType)
    (attempts : List (Except ClientError (Action ρ))) : Ending → Ended ρ
  | .commit =>
    let script := (filled type attempts).commit.run t s
    ⟨some script.result.1, script.result.2, script.requests⟩
  | .abort =>
    let script := (filled type attempts).abort.run t s
    ⟨some (.ok ()), script.result, script.requests⟩
  | .drop =>
    let script := (filled type attempts).drop.run t s
    ⟨some (.ok ()), script.result, script.requests⟩
  | .scope result =>
    let script := (scope type fun b => (result, b.attemptAll attempts)).run t s
    ⟨some script.result.1, script.result.2, script.requests⟩
  | .cancel =>
    let cancelled := (filled type attempts).cancel
    ⟨none, cancelled.batch, cancelled.requests⟩

end Batch

end TableGraph
