import TableGraph.Fresh
import TableGraph.Json.Basic

/-!
# Variables of a document

Every value of a document is bound to a variable whose name is made from the role of the value.

* `sanitize` makes a name of any text: letters, digits and underscores of ASCII, no digit first,
  never empty;
* the first variable of a name has it bare, later ones get `_1`, `_2`, … ; a number whose name is
  in use already is passed over;
* variables keep the order of binding.
-/

namespace TableGraph

/-- A declared variable with its value. -/
structure Variable where
  name : String
  type : String
  value : Json
  deriving Repr, Inhabited

/-- The variables of one document. -/
structure Variables where
  /-- In order of binding. -/
  entries : List Variable
  /-- The first number that was not tried yet, for every name that was asked for. -/
  next : OrderedMap Nat
  deriving Repr, Inhabited

namespace Variables

/-- No variables. -/
def empty : Variables := ⟨[], []⟩

/-- Characters that names are made of. -/
def isNameChar (c : Char) : Bool := c.isAlphanum || c == '_'

/-- Makes a name of a text: underscores in front are dropped and other signs become underscores. -/
def sanitize (base : String) : String :=
  match (base.toList.dropWhile (· == '_')).map fun c => if isNameChar c then c else '_' with
  | [] => "var"
  | c :: rest => String.ofList (if c.isDigit then '_' :: c :: rest else c :: rest)

/-- The name of number `k`: the bare name is number 0. -/
def numbered (name : String) (k : Nat) : String :=
  if k = 0 then name else name ++ "_" ++ toString k

/-- The names in use, in order. -/
def names (vs : Variables) : List String := vs.entries.map (·.name)

/-- The number that the next variable of a name gets. -/
def nextNumber (vs : Variables) (name : String) : Nat :=
  Fresh.index vs.names (numbered name) ((vs.next.lookup name).getD 0)

/-- Binds a value and returns the name of its variable. -/
def bind (vs : Variables) (base type : String) (value : Json) : String × Variables :=
  let name := sanitize base
  let k := vs.nextNumber name
  (numbered name k,
    { entries := vs.entries ++ [⟨numbered name k, type, value⟩]
      next := OrderedMap.insert name (k + 1) vs.next })

/-- The variable of a name. -/
def get? (vs : Variables) (name : String) : Option Variable := vs.entries.find? (·.name == name)

/-- Number of variables. -/
def size (vs : Variables) : Nat := vs.entries.length

/-- There are no variables. -/
def isEmpty (vs : Variables) : Bool := vs.entries.isEmpty

/-- The declaration of each variable, `$name: Type`. -/
def declarations (vs : Variables) : List String :=
  vs.entries.map fun v => "$" ++ v.name ++ ": " ++ v.type

/-- The values by name, in order of binding. -/
def values (vs : Variables) : OrderedMap Json := vs.entries.map fun v => (v.name, v.value)

theorem entries_bind (vs : Variables) (base type : String) (value : Json) :
    (vs.bind base type value).2.entries =
      vs.entries ++ [⟨(vs.bind base type value).1, type, value⟩] := rfl

theorem names_bind (vs : Variables) (base type : String) (value : Json) :
    (vs.bind base type value).2.names = vs.names ++ [(vs.bind base type value).1] := by
  simp [names, entries_bind]

end Variables

end TableGraph
