import TableGraph.Argument

/-!
# Update operators

What an update does to the columns: set, increment, and five changes of JSON documents. The
operators come in one order, each as an argument `_name` of type `<table>_name_input`.
-/

namespace TableGraph

/-- An update operator. -/
inductive UpdateOperator where
  | set
  | inc
  | append
  | prepend
  | deleteKey
  | deleteElem
  | deleteAtPath
  deriving DecidableEq, Repr

namespace UpdateOperator

/-- The operators in order. -/
def all : List UpdateOperator :=
  [.set, .inc, .append, .prepend, .deleteKey, .deleteElem, .deleteAtPath]

/-- The argument of an operator. -/
def argument : UpdateOperator → String
  | .set => "_set"
  | .inc => "_inc"
  | .append => "_append"
  | .prepend => "_prepend"
  | .deleteKey => "_delete_key"
  | .deleteElem => "_delete_elem"
  | .deleteAtPath => "_delete_at_path"

end UpdateOperator

/-- The operators of one update with their values. -/
structure UpdateOps where
  set : Option Json
  inc : Option Json
  append : Option Json
  prepend : Option Json
  deleteKey : Option Json
  deleteElem : Option Json
  deleteAtPath : Option Json
  deriving Repr, Inhabited, BEq

namespace UpdateOps

/-- No operators. -/
def none : UpdateOps := ⟨.none, .none, .none, .none, .none, .none, .none⟩

/-- The value of an operator. -/
def get? (ops : UpdateOps) : UpdateOperator → Option Json
  | .set => ops.set
  | .inc => ops.inc
  | .append => ops.append
  | .prepend => ops.prepend
  | .deleteKey => ops.deleteKey
  | .deleteElem => ops.deleteElem
  | .deleteAtPath => ops.deleteAtPath

/-- The given operators in order, by their arguments. -/
def entries (ops : UpdateOps) : List (String × Json) :=
  UpdateOperator.all.filterMap fun o => (ops.get? o).map fun value => (o.argument, value)

/-- No operator is given. -/
def isEmpty (ops : UpdateOps) : Bool := ops.entries.isEmpty

/-- One argument for each entry; every value is an object. -/
def entryArguments (t : Table) : List (String × Json) → Except BuildError (List Argument)
  | [] => .ok []
  | (name, value) :: rest => do
    let _ ← membersOf value t.qualified name
    let arguments ← entryArguments t rest
    pure (.bound name (t.qualified ++ name ++ "_input") value :: arguments)

/-- The arguments of the operators, of which there is at least one. -/
def arguments (t : Table) (ops : UpdateOps) : Except BuildError (List Argument) :=
  if ops.isEmpty then .error .missingUpdateOperation else entryArguments t ops.entries

end UpdateOps

end TableGraph
