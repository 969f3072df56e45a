import TableGraph.Aggregate.Projection
import TableGraph.Operation

/-!
# Actions

An action is a root node together with the reading of its answer. The same action can be run by
itself or queued in a batch.
-/

namespace TableGraph

/-- A root node and how its answer is read. -/
structure Action (α : Type) where
  node : Node
  read : Json → Except ClientError α

/-- The action with its result put into another form. -/
def Action.map {α β : Type} (f : α → β) (a : Action α) : Action β :=
  ⟨a.node, fun value => (a.read value).map f⟩

/-- The action of a node, if the node can be built. -/
def actionOf {α : Type} (node : Except BuildError Node) (read : Json → Except ClientError α) :
    Except ClientError (Action α) :=
  (liftBuild node).map fun n => ⟨n, read⟩

variable {α β ν : Type}

/-- Answers the record. -/
def RecordOperation.returning [Decode α] (t : Table) (columns : Columns) (op : RecordOperation) :
    Except ClientError (Action α) :=
  (liftBuild (op.node t columns)).map fun n => ⟨n, Answer.one (Answer.missingRecord n.kind n.field)⟩

/-- Answers the records. -/
def ListOperation.returning [Decode α] (t : Table) (columns : Columns) (op : ListOperation) :
    Except ClientError (Action (List α)) :=
  actionOf (op.node t columns) Answer.many

namespace BulkOperation

/-- Answers the rows that were touched. -/
def returning [Decode α] (t : Table) (columns : Columns) (op : BulkOperation) :
    Except ClientError (Action (List α)) :=
  actionOf (op.node t (.returning columns)) Answer.returning

/-- Answers how many rows were touched. -/
def affectedRows (t : Table) (op : BulkOperation) : Except ClientError (Action Nat) :=
  actionOf (op.node t .affectedRows) Answer.affectedRows

/-- Answers the rows that were touched and their number. -/
def returningWithRows [Decode α] (t : Table) (columns : Columns) (op : BulkOperation) :
    Except ClientError (Action (List α × Nat)) :=
  actionOf (op.node t (.returningWithRows columns)) Answer.returningWithRows

end BulkOperation

namespace DistinctUpdates

/-- Answers the rows that each update touched. -/
def returning [Decode α] (t : Table) (columns : Columns) (us : DistinctUpdates) :
    Except ClientError (Action (List (List α))) :=
  actionOf (us.node t (.returning columns)) (Answer.perUpdate Answer.returning)

/-- Answers how many rows each update touched. -/
def affectedRows (t : Table) (us : DistinctUpdates) : Except ClientError (Action (List Nat)) :=
  actionOf (us.node t .affectedRows) (Answer.perUpdate Answer.affectedRows)

/-- Answers the rows that each update touched and their number. -/
def returningWithRows [Decode α] (t : Table) (columns : Columns) (us : DistinctUpdates) :
    Except ClientError (Action (List (List α × Nat))) :=
  actionOf (us.node t (.returningWithRows columns)) (Answer.perUpdate Answer.returningWithRows)

end DistinctUpdates

namespace AggregateOperation

/-- Answers the requested aggregates. -/
def on [Decode β] [Decode ν] (t : Table) (requested : Aggregates) (op : AggregateOperation) :
    Except ClientError (Action (Aggregate β ν)) :=
  actionOf (op.node t requested none) (Aggregate.ofAnswer requested)

/-- Answers the requested aggregates and the rows that they cover. -/
def withNodes [Decode α] [Decode β] [Decode ν] (t : Table) (requested : Aggregates)
    (columns : Columns) (op : AggregateOperation) :
    Except ClientError (Action (Aggregate β ν × List α)) :=
  actionOf (op.node t requested (some columns)) fun value => do
    let (rows, rest) ← Answer.takeNodes value
    pure (← Aggregate.ofAnswer requested rest, rows)

/-- Answers the number of rows. -/
def count (t : Table) (op : AggregateOperation) : Except ClientError (Action Nat) :=
  actionOf (op.node t .justCount none) Aggregate.countOfAnswer

/-- Answers one function over columns. -/
def function (t : Table) (f : AggregateFunction) (columns : List String) (op : AggregateOperation) :
    Except ClientError (Action OpenRecord) :=
  actionOf (op.node t (Aggregates.none.withFunction f columns) none) (Aggregate.functionOfAnswer f)

end AggregateOperation

end TableGraph
