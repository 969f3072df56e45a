import TableGraph.Document.Compile

/-!
# Forms of documents

What is left of a document when the values are taken out of it: its fields, aliases and arguments,
and at each binding the name and the type that its variable is made from.

* A binding keeps its base and its type, and its value becomes null;
* the count of an aggregate keeps whether it is of some columns and whether it says if values count
  once, but neither which columns nor which of the two it says.
-/

namespace TableGraph

/-- The binding without its value. -/
def Binding.form (b : Binding) : Binding := { b with value := .null }

mutual

/-- The value of an argument without the values that are bound in it. -/
def ArgumentValue.form : ArgumentValue → ArgumentValue
  | .variable b => .variable b.form
  | .object entries => .object (formMembers entries)

/-- The members of an object literal without the values that are bound in them. -/
def formMembers : List (String × ArgumentValue) → List (String × ArgumentValue)
  | [] => []
  | (name, value) :: rest => (name, value.form) :: formMembers rest

end

/-- The argument without the values that are bound in it. -/
def Argument.form (a : Argument) : Argument := ⟨a.name, a.value.form⟩

/-- The count without its columns and its flag. -/
def CountSpec.form (c : CountSpec) : CountSpec :=
  ⟨c.columns.map fun _ => [], c.distinct.map fun _ => false⟩

/-- The aggregates, with the count alone losing its values: functions have none. -/
def Aggregates.form (a : Aggregates) : Aggregates := { a with count := a.count.map CountSpec.form }

mutual

/-- The node without the values that are bound in it. -/
def Node.form : Node → Node
  | ⟨kind, table, field, key, arguments, selection⟩ =>
    ⟨kind, table, field, key, arguments.map Argument.form, formSelection selection⟩

/-- The entry without the values that are bound in it. -/
def Entry.form : Entry → Entry
  | .column name => .column name
  | .related node => .related node.form
  | .returning selection => .returning (formSelection selection)
  | .affectedRows => .affectedRows
  | .aggregate requested => .aggregate requested.form
  | .nodes selection => .nodes (formSelection selection)

/-- The entries of a selection without the values that are bound in them. -/
def formSelection : List Entry → List Entry
  | [] => []
  | entry :: rest => entry.form :: formSelection rest

end

/-- The document without its values. -/
def Document.form (d : Document) : Document := { d with roots := d.roots.map Node.form }

/-- A query without its values: the text, and the names of the variables in order. -/
def Compiled.withoutValues (c : Compiled) : String × List String :=
  (c.query, OrderedMap.keys c.variables)

end TableGraph
