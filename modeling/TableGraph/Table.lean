import TableGraph.OrderedMap

/-!
# Tables

What is known of a table: its place in the database, its columns, its relations to other tables
and its primary key.

* The name of a table in the graph is its own name, with the schema before it unless that is
  `public`;
* names may repeat, and the first column or relation of a name counts;
* tables are equal when they stand at the same place.
-/

namespace TableGraph

/-- The schema that adds nothing to the names of its tables. -/
def publicSchema : String := "public"

/-- Where a table stands. -/
structure TableName where
  schema : String
  name : String
  deriving DecidableEq, Repr, Inhabited

namespace TableName

/-- A label with the schema before it, unless the schema is public. -/
def labelled (t : TableName) (label : String) : String :=
  if t.schema = publicSchema then label else t.schema ++ "_" ++ label

/-- The name of the table in the graph. -/
def qualified (t : TableName) : String := t.labelled t.name

end TableName

/-- How many rows a relation leads to. -/
inductive Cardinality where
  | one
  | many
  deriving DecidableEq, Repr, Inhabited

/-- The name of a cardinality. -/
def Cardinality.name : Cardinality → String
  | .one => "one"
  | .many => "many"

/-- The cardinality of a name. -/
def Cardinality.ofName? : String → Option Cardinality
  | "one" => some .one
  | "many" => some .many
  | _ => none

/-- A column and its scalar type. -/
structure ScalarField where
  name : String
  scalar : String
  deriving DecidableEq, Repr, Inhabited

/-- A relation to the rows of another table. -/
structure Relation where
  name : String
  cardinality : Cardinality
  target : TableName
  deriving DecidableEq, Repr, Inhabited

/-- A table and what is known of it. -/
structure Table where
  place : TableName
  fields : List ScalarField
  relations : List Relation
  primaryKey : List String
  deriving Repr, Inhabited

namespace Table

/-- The name of the table in the graph. -/
def qualified (t : Table) : String := t.place.qualified

/-- The first column of a name. -/
def field? (t : Table) (name : String) : Option ScalarField := t.fields.find? (·.name == name)

/-- The first relation of a name. -/
def relation? (t : Table) (name : String) : Option Relation := t.relations.find? (·.name == name)

/-- The names of the columns in order. -/
def fieldNames (t : Table) : List String := t.fields.map (·.name)

/-- Both describe the same table. -/
def sameTable (t u : Table) : Bool := t.place == u.place

instance : BEq Table := ⟨sameTable⟩

theorem field?_isSome_iff {t : Table} {name : String} :
    (t.field? name).isSome = true ↔ name ∈ t.fieldNames := by
  simp [field?, fieldNames, List.find?_isSome]

theorem name_eq_of_field? {t : Table} {name : String} {f : ScalarField}
    (h : t.field? name = some f) :
    f.name = name := by
  simpa using List.find?_some h

theorem name_eq_of_relation? {t : Table} {name : String} {r : Relation}
    (h : t.relation? name = some r) : r.name = name := by
  simpa using List.find?_some h

end Table

end TableGraph
