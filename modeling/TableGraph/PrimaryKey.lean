import TableGraph.Argument

/-!
# Primary keys

The value of a primary key is an object with exactly the key columns or, for a key of one column,
the bare value of it. Bindings follow the declared order of the key.
-/

namespace TableGraph

/-- The values of the key columns in declared order. -/
def keyValues (t : Table) (key : Json) : Except BuildError (List (String × Json)) :=
  let mismatch (got : List String) : Except BuildError (List (String × Json)) :=
    .error (.primaryKeyMismatch t.qualified t.primaryKey got)
  match key with
  | .object members =>
    if members.length = t.primaryKey.length ∧ t.primaryKey.all (members.lookup · |>.isSome) then
      .ok (t.primaryKey.map fun column => (column, (members.lookup column).getD .null))
    else mismatch (OrderedMap.keys members)
  | .null => mismatch []
  | value =>
    match t.primaryKey with
    | [column] => .ok [(column, value)]
    | _ => mismatch []

/-- The binding of one key column. -/
def keyBinding (t : Table) (column : String) (value : Json) :
    Except BuildError (String × Binding) :=
  match t.field? column with
  | some field => .ok (column, ⟨column, field.scalar ++ "!", value⟩)
  | none => .error (.unknownField t.qualified column)

/-- The bindings of key columns in order. -/
def keyBindingsOf (t : Table) : List (String × Json) → Except BuildError (List (String × Binding))
  | [] => .ok []
  | (column, value) :: rest => do
    let binding ← keyBinding t column value
    let bindings ← keyBindingsOf t rest
    pure (binding :: bindings)

/-- The bindings of a primary key in declared order. -/
def primaryKeyBindings (t : Table) (key : Json) : Except BuildError (List (String × Binding)) :=
  if t.primaryKey.isEmpty then .error (.noPrimaryKey t.qualified)
  else do keyBindingsOf t (← keyValues t key)

end TableGraph
