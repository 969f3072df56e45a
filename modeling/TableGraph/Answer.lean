import TableGraph.ClientError
import TableGraph.Json.Printer
import TableGraph.Node

/-!
# Answers

How the value that a root answered becomes a record, a list of records, or the report of a
mutation.

* A root that is absent from the data answers null, and null is never a record or a list;
* the wording for a missing record depends on the operation;
* of several answers the first failure wins.
-/

namespace TableGraph.Answer

/-- What a root answered under its alias. -/
def root (data : Json) (key : String) : Json := (data.member? key).getD .null

/-- Takes what a root answered out of the data. -/
def takeRoot (data : Json) (key : String) : Json × Json := (root data key, data.without key)

/-- Taking one root leaves the others where they are. -/
theorem root_without_ne {key other : String} (h : other ≠ key) (data : Json) :
    root (data.without key) other = root data other := by
  unfold root
  rw [Json.member?_without_ne h]

/-- A member that has to be there. -/
def field (key : String) (value : Json) : Except ClientError Json :=
  match value.member? key with
  | some member => .ok member
  | none => .error (.invalidResponse ("Response has no " ++ BuildError.ticked key ++ " field"))

theorem field_eq_ok_iff {key : String} {value member : Json} :
    field key value = .ok member ↔ value.member? key = some member := by
  unfold field
  cases value.member? key with
  | none => exact iff_of_false nofun nofun
  | some m =>
      constructor
      · rintro ⟨⟩
        rfl
      · rintro ⟨⟩
        rfl

/-- Takes a member that has to be there out of a value. -/
def takeField (key : String) (value : Json) : Except ClientError (Json × Json) := do
  pure (← field key value, value.without key)

theorem field_without_ne {key other : String} (h : other ≠ key) (value : Json) :
    field other (value.without key) = field other value := by
  unfold field
  rw [Json.member?_without_ne h]

/-- The failure of a root that should answer a record and answers null: an insert has failed, a
mutation function has failed, and anything else was not found. -/
def missingRecord (kind : NodeKind) (field : String) : ClientError :=
  match kind with
  | .insertOne =>
    .of .insertFailed (BuildError.ticked field ++ " did not return the inserted record")
  | .functionOne .mutation =>
    .of .mutationFailed (BuildError.ticked field ++ " did not return a record")
  | _ => .notFound ("Record of " ++ BuildError.ticked field)

section
variable {α : Type} [Decode α]

/-- One record. -/
def one (missing : ClientError) : Json → Except ClientError α
  | .null => .error missing
  | value => liftDecode (decode value)

/-- A list of records. -/
def many : Json → Except ClientError (List α)
  | .null => .error (.invalidResponse "Expected a list of records, got null")
  | value => liftDecode (decode value)

/-- The rows that a mutation touched. -/
def returning (value : Json) : Except ClientError (List α) := do
  many (← field "returning" value)

end

/-- The number of rows that a mutation touched. -/
def affectedRows (value : Json) : Except ClientError Nat := do
  match (← field "affected_rows" value).nat? with
  | some n => pure n
  | none => throw (.invalidResponse (BuildError.ticked "affected_rows" ++ " is not an integer"))

/-- The rows that a mutation touched and their number. -/
def returningWithRows {α : Type} [Decode α] (value : Json) : Except ClientError (List α × Nat) := do
  let (rows, rest) ← takeField "returning" value
  let count ← affectedRows rest
  pure (← many rows, count)

/-- Reads each of several values. -/
def readEach {α : Type} (read : Json → Except ClientError α) :
    List Json → Except ClientError (List α)
  | [] => .ok []
  | value :: rest => do
    let head ← read value
    let tail ← readEach read rest
    pure (head :: tail)

/-- One answer for each update. -/
def perUpdate {α : Type} (read : Json → Except ClientError α) : Json → Except ClientError (List α)
  | .array values => readEach read values
  | value => .error (.invalidResponse ("Expected one response per update, got " ++ value.text))

/-- Takes the rows that an aggregate covers out of an answer. -/
def takeNodes {α : Type} [Decode α] (value : Json) : Except ClientError (List α × Json) := do
  let (rows, rest) ← takeField "nodes" value
  pure (← many rows, rest)

end TableGraph.Answer
