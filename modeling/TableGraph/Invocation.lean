import TableGraph.Action

/-!
# Invocations

An operation together with what is asked of its answer, and its results in one type: as JSON
values, and item by item where the answer is a list. Actions of different result types can so
share a batch.
-/

namespace TableGraph

/-- An operation and what is asked of its answer. -/
inductive Invocation where
  | record (op : RecordOperation) (columns : Columns)
  | list (op : ListOperation) (columns : Columns)
  | bulk (op : BulkOperation) (output : MutationOutput)
  | perUpdate (updates : DistinctUpdates) (output : MutationOutput)
  | aggregate (op : AggregateOperation) (requested : Aggregates) (nodes : Option Columns)
  | count (op : AggregateOperation)
  | function (op : AggregateOperation) (f : AggregateFunction) (columns : List String)

/-- A result as a value, with its items if it is a list. -/
structure JsonResult where
  value : Json
  items : List Json

namespace JsonResult

/-- A result that is no list. -/
def single {α : Type} [Encode α] (x : α) : JsonResult := ⟨encode x, []⟩

/-- A result that is a list. -/
def ofItems {α : Type} [Encode α] (xs : List α) : JsonResult := ⟨encode xs, xs.map encode⟩

end JsonResult

namespace Invocation

/-- The root node of an invocation. -/
def node (t : Table) : Invocation → Except BuildError Node
  | .record op columns => op.node t columns
  | .list op columns => op.node t columns
  | .bulk op output => op.node t output
  | .perUpdate updates output => updates.node t output
  | .aggregate op requested nodes => op.node t requested nodes
  | .count op => op.node t .justCount none
  | .function op f columns => op.node t (Aggregates.none.withFunction f columns) none

/-- The answer is a list of rows, or one of rows for each update. -/
def isList : Invocation → Bool
  | .list .. | .bulk _ (.returning _) | .perUpdate _ (.returning _) => true
  | _ => false

/-- Presents the result of an action. -/
def presented {α : Type} (present : α → JsonResult) (a : Except ClientError (Action α)) :
    Except ClientError (Action JsonResult) := a.map fun action => action.map present

/-- The action of an invocation. Records have type `α`, functions over columns types `β` and
`ν`. -/
def action (α β ν : Type) [Decode α] [Encode α] [Decode β] [Encode β] [Decode ν] [Encode ν]
    (t : Table) : Invocation → Except ClientError (Action JsonResult)
  | .record op columns =>
    presented JsonResult.single (op.returning t columns : Except ClientError (Action α))
  | .list op columns =>
    presented JsonResult.ofItems (op.returning t columns : Except ClientError (Action (List α)))
  | .bulk op (.returning columns) =>
    presented JsonResult.ofItems (op.returning t columns : Except ClientError (Action (List α)))
  | .bulk op .affectedRows => presented JsonResult.single (op.affectedRows t)
  | .bulk op (.returningWithRows columns) =>
    presented JsonResult.single
      (op.returningWithRows t columns : Except ClientError (Action (List α × Nat)))
  | .perUpdate updates (.returning columns) =>
    presented JsonResult.ofItems
      (updates.returning t columns : Except ClientError (Action (List (List α))))
  | .perUpdate updates .affectedRows => presented JsonResult.ofItems (updates.affectedRows t)
  | .perUpdate updates (.returningWithRows columns) =>
    presented JsonResult.ofItems
      (updates.returningWithRows t columns : Except ClientError (Action (List (List α × Nat))))
  | .aggregate op requested none =>
    presented JsonResult.single (op.on t requested : Except ClientError (Action (Aggregate β ν)))
  | .aggregate op requested (some columns) =>
    presented JsonResult.single
      (op.withNodes t requested columns : Except ClientError (Action (Aggregate β ν × List α)))
  | .count op => presented JsonResult.single (op.count t)
  | .function op f columns => presented JsonResult.single (op.function t f columns)

end Invocation

end TableGraph
