import TableGraph.ClientError

/-!
# Deferred results

A handle of a result that is there only after the batch is finished. It is settled once: a second
result is dropped, and reading it before the first is an error.
-/

namespace TableGraph

/-- A handle of a result. -/
inductive Deferred (α : Type) where
  | pending
  | fulfilled (value : α)
  | failed (error : ClientError)

/-- What can be seen of a handle. -/
inductive HandleState where
  | pending
  | fulfilled
  | failed
  deriving DecidableEq, Repr

/-- The name of a state. -/
def HandleState.name : HandleState → String
  | .pending => "pending"
  | .fulfilled => "fulfilled"
  | .failed => "failed"

namespace Deferred
variable {α β : Type}

/-- A settled handle. -/
def ofResult : Except ClientError α → Deferred α
  | .ok value => .fulfilled value
  | .error e => .failed e

/-- The handle with a result, unless it has one already. -/
def settle (d : Deferred α) (result : Except ClientError α) : Deferred α :=
  match d with
  | .pending => ofResult result
  | settled => settled

/-- The state of a handle. -/
def state : Deferred α → HandleState
  | .pending => .pending
  | .fulfilled _ => .fulfilled
  | .failed _ => .failed

/-- The result is not there yet. -/
def pendingError : ClientError :=
  .of .handlePending "Result is not available before the batch is committed"

/-- The result will never be there. -/
def abortedError : ClientError := .of .batchAborted "Batch was aborted before execution"

/-- Reads a handle. -/
def get : Deferred α → Except ClientError α
  | .pending => .error pendingError
  | .fulfilled value => .ok value
  | .failed e => .error e

/-- The text of a handle whose value has the given text. A failed one has none here. -/
def shown? (showValue : α → String) : Deferred α → Option String
  | .pending => some "Deferred \x7b state: Pending, value: None \x7d"
  | .fulfilled value =>
    some ("Deferred \x7b state: Fulfilled, value: Some(Ok(" ++ showValue value ++ ")) \x7d")
  | .failed _ => none

@[simp] theorem settle_pending (r : Except ClientError α) :
    (pending : Deferred α).settle r = ofResult r := rfl

@[simp] theorem get_ofResult (r : Except ClientError α) : (ofResult r).get = r := by
  cases r <;> rfl

theorem state_ofResult_ne (r : Except ClientError α) : (ofResult r).state ≠ .pending := by
  cases r <;> simp [ofResult, state]

/-- A handle that has a result keeps it. -/
theorem settle_ofResult (first second : Except ClientError α) :
    (ofResult first).settle second = ofResult first := by
  cases first <;> rfl

end Deferred

end TableGraph
