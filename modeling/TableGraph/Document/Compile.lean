import TableGraph.Document
import TableGraph.Variables

/-!
# Compiling documents

A document becomes the text of a query and the values of its variables, in one pass over the tree.

* The body is written first, and each value is bound where its variable is written: the arguments
  of a node from left to right, then its selection;
* the count of an aggregate has arguments of its own, which are bound before the next entry;
* the header is put before the body when all variables are known.
-/

namespace TableGraph

/-- A query with the values of its variables. -/
structure Compiled where
  query : String
  «variables» : OrderedMap Json
  deriving Repr, Inhabited

/-- A body under way: the text so far, and the variables bound in it. -/
structure Draft where
  text : String
  bound : Variables

namespace Draft

/-- Nothing is written yet. -/
def empty : Draft := ⟨"", .empty⟩

/-- Appends a text. -/
def write (d : Draft) (s : String) : Draft := { d with text := d.text ++ s }

/-- Binds a value and writes its variable. -/
def bind (d : Draft) (b : Binding) : Draft :=
  let (name, vs) := d.bound.bind b.base b.type b.value
  ⟨d.text ++ ("$" ++ name), vs⟩

mutual

/-- Writes the value of an argument. -/
def value (d : Draft) : ArgumentValue → Draft
  | .variable b => d.bind b
  | .object entries => (((d.write "\x7b").members "" entries).write "\x7d")

/-- Writes the members of an object literal, of which the first has `lead` before it. -/
def members (d : Draft) (lead : String) : List (String × ArgumentValue) → Draft
  | [] => d
  | (name, value) :: rest =>
    ((d.write (lead ++ name ++ ": ")).value value).members ", " rest

end

/-- Writes arguments, of which the first has `lead` before it. -/
def argumentList (d : Draft) (lead : String) : List Argument → Draft
  | [] => d
  | argument :: rest =>
    ((d.write (lead ++ argument.name ++ ": ")).value argument.value).argumentList ", " rest

/-- Writes the arguments of a field in parentheses, if there are any. -/
def arguments (d : Draft) : List Argument → Draft
  | [] => d
  | argument :: rest => (((d.write "(").argumentList "" (argument :: rest)).write ")")

/-- Writes the count of an aggregate. -/
def count (d : Draft) (t : TableName) : Option CountSpec → Draft
  | none => d
  | some count => ((d.write " ").write "count").arguments (Aggregates.countArguments t count)

/-- Writes columns with a blank before each. -/
def columns (d : Draft) : List String → Draft
  | [] => d
  | column :: rest => ((d.write " ").write column).columns rest

/-- Writes functions with their columns. -/
def functions (d : Draft) : List (AggregateFunction × List String) → Draft
  | [] => d
  | (f, columns) :: rest =>
    (((((d.write " ").write f.name).write " \x7b").columns columns).write " \x7d").functions rest

/-- Writes an aggregate. -/
def aggregate (d : Draft) (t : TableName) (requested : Aggregates) : Draft :=
  ((((d.write "aggregate").write " \x7b").count t requested.count).functions
    requested.functions).write " \x7d"

/-- Writes an alias before its field. -/
def label (d : Draft) : Option String → Draft
  | none => d
  | some key => d.write (key ++ ": ")

mutual

/-- Writes a node. -/
def node (d : Draft) : Node → Draft
  | ⟨_, table, field, key, arguments, selection⟩ =>
    (((((d.label key).write field).arguments arguments).write " \x7b").selection table.place
      selection).write " \x7d"

/-- Writes an entry in the selection of a table. -/
def entry (d : Draft) (t : TableName) : Entry → Draft
  | .column name => d.write name
  | .related node => d.node node
  | .returning selection =>
    (((d.write "returning").write " \x7b").selection t selection).write " \x7d"
  | .affectedRows => d.write "affected_rows"
  | .aggregate requested => d.aggregate t requested
  | .nodes selection => (((d.write "nodes").write " \x7b").selection t selection).write " \x7d"

/-- Writes the entries of a selection with a blank before each. -/
def selection (d : Draft) (t : TableName) : List Entry → Draft
  | [] => d
  | entry :: rest => ((d.write " ").entry t entry).selection t rest

end

/-- Writes roots, of which the first has `lead` before it. -/
def roots (d : Draft) (lead : String) : List Node → Draft
  | [] => d
  | node :: rest => ((d.write lead).node node).roots " " rest

end Draft

/-- The declarations in parentheses, if there are any. -/
def Variables.header (vs : Variables) : String :=
  if vs.isEmpty then "" else "(" ++ String.intercalate ", " vs.declarations ++ ")"

/-- The text of a document and the values of its variables. -/
def Document.compile (d : Document) : Compiled :=
  let draft := Draft.empty.roots "" d.roots
  { query := d.type.keyword ++ " " ++ d.type.name ++ draft.bound.header ++ " \x7b " ++
      draft.text ++ " \x7d"
    «variables» := draft.bound.values }

end TableGraph
