import TableGraph.BuildError
import TableGraph.Table
import TableGraph.Json.Basic

/-!
# Arguments

Values never enter the text of a document. An argument carries a binding, which becomes a
variable when the document is compiled, or an object literal of such arguments.
-/

namespace TableGraph

/-- A value that waits for its variable. -/
structure Binding where
  /-- What the name of the variable is made from. -/
  base : String
  type : String
  value : Json
  deriving Repr, Inhabited, BEq

/-- The right-hand side of an argument. -/
inductive ArgumentValue where
  | variable (binding : Binding)
  | object (entries : List (String × ArgumentValue))
  deriving Repr, Inhabited, BEq

/-- A named argument. -/
structure Argument where
  name : String
  value : ArgumentValue
  deriving Repr, Inhabited, BEq

/-- An argument bound to one variable, which is named after it. -/
def Argument.bound (name type : String) (value : Json) : Argument :=
  ⟨name, .variable ⟨name, type, value⟩⟩

/-- The members of a value that has to be an object. -/
def membersOf (value : Json) (table argument : String) : Except BuildError (OrderedMap Json) :=
  match value with
  | .object members => .ok members
  | _ => .error (.invalidArgument table argument "object")

/-- Refuses the first name that is no column. -/
def checkColumns (t : Table) (columns : List String) : Except BuildError Unit :=
  match columns.find? fun c => (t.field? c).isNone with
  | some c => .error (.unknownField t.qualified c)
  | none => .ok ()

end TableGraph
