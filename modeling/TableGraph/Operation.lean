import TableGraph.Columns
import TableGraph.PrimaryKey
import TableGraph.UpdateOps
import TableGraph.FunctionArgs

/-!
# Operations

What can be done to a table, and the root node of each operation.

* Operations are sorted by their answer: one record, a list of records, the rows that a mutation
  touched, one answer per update, or aggregates;
* an operation has a kind, the name of its field, and arguments; `rootNode` puts them together with
  a selection;
* building a node checks the arguments in order, then the selection; the first failure wins.
-/

namespace TableGraph

/-- An operation that answers one record. -/
inductive RecordOperation where
  | selectByKey (key : Json)
  | insert (object : Json) (onConflict : Option Json)
  | updateByKey (key : Json) (ops : UpdateOps)
  | deleteByKey (key : Json)
  | call (type : OperationType) (function : String) (args : Json)

/-- An operation that answers a list of records. -/
inductive ListOperation where
  | select (conditions : Conditions)
  | call (type : OperationType) (function : String) (args : Json) (conditions : Conditions)

/-- A mutation of any number of rows. -/
inductive BulkOperation where
  | insert (objects : Json) (onConflict : Option Json)
  | update (filter : Json) (ops : UpdateOps)
  | delete (filter : Json)

/-- One of several updates in one root. -/
structure UpdateEntry where
  filter : Json
  ops : UpdateOps

/-- Several updates in one root, each answered on its own. -/
structure DistinctUpdates where
  entries : List UpdateEntry

/-- An operation that answers aggregates. -/
inductive AggregateOperation where
  | select (conditions : Conditions)
  | call (function : String) (args : Json) (conditions : Conditions)

/-- What a mutation of any number of rows reports. -/
inductive MutationOutput where
  | returning (columns : Columns)
  | affectedRows
  | returningWithRows (columns : Columns)

/-! ### Arguments and selections -/

/-- The arguments of an operation by key. -/
def keyArguments (t : Table) (key : Json) : Except BuildError (List Argument) := do
  let bindings ← primaryKeyBindings t key
  pure (bindings.map fun b => ⟨b.1, .variable b.2⟩)

/-- The argument that names the row of an update by key. -/
def keyColumnsArgument (t : Table) (key : Json) : Except BuildError Argument := do
  let bindings ← primaryKeyBindings t key
  pure ⟨"pk_columns", .object (bindings.map fun b => (b.1, .variable b.2))⟩

/-- The argument that says which rows a mutation touches. -/
def whereArgument (t : Table) (filter : Json) : Except BuildError Argument := do
  pure ⟨"where", .object (← compileFilter t filter)⟩

/-- The argument of an inserted object. -/
def objectArgument (t : Table) (object : Json) : Except BuildError Argument := do
  let _ ← membersOf object t.qualified "object"
  pure (.bound "object" (t.qualified ++ "_insert_input!") object)

/-- The value is an array of objects. -/
def isObjectList : Json → Bool
  | .array items => items.all Json.isObject
  | _ => false

/-- The argument of inserted objects. -/
def objectsArgument (t : Table) (objects : Json) : Except BuildError Argument :=
  if isObjectList objects then
    .ok (.bound "objects" ("[" ++ t.qualified ++ "_insert_input!]!") objects)
  else .error (.invalidArgument t.qualified "objects" "array of objects")

/-- The argument that says what an insert does about rows that are there already. -/
def conflictArguments (t : Table) : Option Json → Except BuildError (List Argument)
  | none => .ok []
  | some conflict => do
    let _ ← membersOf conflict t.qualified "on_conflict"
    pure [.bound "on_conflict" (t.qualified ++ "_on_conflict") conflict]

/-- The argument of a function; null stands for no arguments. -/
def functionArgument (t : Table) (function : String) (args : Json) :
    Except BuildError Argument := do
  let members ← match args with
    | .null => pure []
    | args => functionArgs <$> membersOf args t.qualified "args"
  pure (.bound "args" (t.place.labelled function ++ "_args!") (.object members))

/-- The value of one update among several. -/
def UpdateEntry.value (t : Table) (u : UpdateEntry) : Except BuildError Json := do
  let _ ← compileFilter t u.filter
  if u.ops.isEmpty then throw .missingUpdateOperation
  pure (.object (("where", u.filter) :: u.ops.entries))

/-- The values of several updates; the first failure wins. -/
def updateValues (t : Table) : List UpdateEntry → Except BuildError (List Json)
  | [] => .ok []
  | u :: rest => do
    let value ← u.value t
    let values ← updateValues t rest
    pure (value :: values)

/-- The argument of several updates, of which there is at least one. -/
def updatesArgument (t : Table) (us : DistinctUpdates) : Except BuildError Argument :=
  if us.entries.isEmpty then .error (.invalidArgument t.qualified "updates" "non-empty array")
  else do
    let values ← updateValues t us.entries
    pure (.bound "updates" ("[" ++ t.qualified ++ "_updates!]!") (.array values))

/-- The selection of a mutation of any number of rows. -/
def MutationOutput.selection (t : Table) : MutationOutput → Except BuildError (List Entry)
  | .returning columns => do pure [.returning (← columns.resolve t)]
  | .affectedRows => .ok [.affectedRows]
  | .returningWithRows columns => do pure [.returning (← columns.resolve t), .affectedRows]

/-! ### Nodes -/

/-- A root without an alias; its arguments are checked before its selection. -/
def rootNode (kind : NodeKind) (t : Table) (field : String)
    (arguments : Except BuildError (List Argument)) (selection : Except BuildError (List Entry)) :
    Except BuildError Node := do
  let arguments ← arguments
  let selection ← selection
  pure ⟨kind, t, field, none, arguments, selection⟩

namespace RecordOperation

/-- The kind of node of an operation. -/
def kind : RecordOperation → NodeKind
  | .selectByKey _ => .selectOne
  | .insert _ _ => .insertOne
  | .updateByKey _ _ => .updateOne
  | .deleteByKey _ => .deleteOne
  | .call type _ _ => .functionOne type

/-- The field of an operation. -/
def field (t : Table) : RecordOperation → String
  | .selectByKey _ => t.qualified ++ "_by_pk"
  | .insert _ _ => "insert_" ++ t.qualified ++ "_one"
  | .updateByKey _ _ => "update_" ++ t.qualified ++ "_by_pk"
  | .deleteByKey _ => "delete_" ++ t.qualified ++ "_by_pk"
  | .call _ function _ => t.place.labelled function

/-- The arguments of an operation. -/
def arguments (t : Table) : RecordOperation → Except BuildError (List Argument)
  | .selectByKey key => keyArguments t key
  | .insert object onConflict => do
    pure ((← objectArgument t object) :: (← conflictArguments t onConflict))
  | .updateByKey key ops => do
    pure ((← keyColumnsArgument t key) :: (← ops.arguments t))
  | .deleteByKey key => keyArguments t key
  | .call _ function args => do
    pure [← functionArgument t function args]

/-- The node of an operation that answers one record. -/
def node (t : Table) (columns : Columns) (op : RecordOperation) : Except BuildError Node :=
  rootNode op.kind t (op.field t) (op.arguments t) (columns.resolve t)

end RecordOperation

namespace ListOperation

/-- The kind of node of an operation. -/
def kind : ListOperation → NodeKind
  | .select _ => .selectMany
  | .call type _ _ _ => .functionMany type

/-- The field of an operation. -/
def field (t : Table) : ListOperation → String
  | .select _ => t.qualified
  | .call _ function _ _ => t.place.labelled function

/-- The arguments of an operation. -/
def arguments (t : Table) : ListOperation → Except BuildError (List Argument)
  | .select conditions => conditions.arguments t
  | .call _ function args conditions => do
    pure ((← functionArgument t function args) :: (← conditions.arguments t))

/-- The node of an operation that answers a list of records. -/
def node (t : Table) (columns : Columns) (op : ListOperation) : Except BuildError Node :=
  rootNode op.kind t (op.field t) (op.arguments t) (columns.resolve t)

end ListOperation

namespace BulkOperation

/-- The kind of node of an operation. -/
def kind : BulkOperation → NodeKind
  | .insert _ _ => .insertMany
  | .update _ _ => .updateMany
  | .delete _ => .deleteMany

/-- The field of an operation. -/
def field (t : Table) : BulkOperation → String
  | .insert _ _ => "insert_" ++ t.qualified
  | .update _ _ => "update_" ++ t.qualified
  | .delete _ => "delete_" ++ t.qualified

/-- The arguments of an operation. -/
def arguments (t : Table) : BulkOperation → Except BuildError (List Argument)
  | .insert objects onConflict => do
    pure ((← objectsArgument t objects) :: (← conflictArguments t onConflict))
  | .update filter ops => do
    pure ((← whereArgument t filter) :: (← ops.arguments t))
  | .delete filter => do
    pure [← whereArgument t filter]

/-- The node of a mutation of any number of rows. -/
def node (t : Table) (output : MutationOutput) (op : BulkOperation) : Except BuildError Node :=
  rootNode op.kind t (op.field t) (op.arguments t) (output.selection t)

end BulkOperation

namespace DistinctUpdates

/-- The field of several updates. -/
def field (t : Table) : String := "update_" ++ t.qualified ++ "_many"

/-- The arguments of several updates. -/
def arguments (t : Table) (us : DistinctUpdates) : Except BuildError (List Argument) := do
  pure [← updatesArgument t us]

/-- The node of several updates. -/
def node (t : Table) (output : MutationOutput) (us : DistinctUpdates) : Except BuildError Node :=
  rootNode .updateManyDistinct t (field t) (us.arguments t) (output.selection t)

end DistinctUpdates

namespace AggregateOperation

/-- The kind of node of an operation. -/
def kind : AggregateOperation → NodeKind
  | .select _ => .aggregate
  | .call _ _ _ => .functionAggregate

/-- The field of an operation. -/
def field (t : Table) : AggregateOperation → String
  | .select _ => t.qualified ++ "_aggregate"
  | .call function _ _ => t.place.labelled function ++ "_aggregate"

/-- The arguments of an operation. -/
def arguments (t : Table) : AggregateOperation → Except BuildError (List Argument)
  | .select conditions => conditions.arguments t
  | .call function args conditions => do
    pure ((← functionArgument t function args) :: (← conditions.arguments t))

/-- The node of an operation that answers aggregates. -/
def node (t : Table) (requested : Aggregates) (nodes : Option Columns) (op : AggregateOperation) :
    Except BuildError Node :=
  rootNode op.kind t (op.field t) (op.arguments t)
    (aggregateSelection t requested (nodes.map (·.resolve t)))

end AggregateOperation

end TableGraph
