import TableGraph.Invocation
import TableGraph.Proofs.GraphQL.Names

/-! # Tables and requests of names

When all names that a database and a request bring with them are names of the query language.

* A table brings its place, its columns with their scalar types, its relations and its key
  (`Table.Named`);
* columns bring the tables and the aliases of the relations that they follow (`Columns.Named`);
  an operation brings the name of a function (`Invocation.Named`);
* all other names are looked up in the table, so nothing is asked of them. -/

namespace TableGraph

open GraphQL

/-! ### Tables -/

/-- The schema and the name are names. -/
structure TableName.Named (t : TableName) : Prop where
  schema : isName t.schema = true
  name : isName t.name = true

/-- The place of a table, its columns, scalar types, relations and key are names. -/
structure Table.Named (t : Table) : Prop where
  place : t.place.Named
  fields : ∀ f ∈ t.fields, isName f.name = true ∧ isName f.scalar = true
  relations : ∀ r ∈ t.relations, isName r.name = true ∧ r.target.Named
  primaryKey : ∀ column ∈ t.primaryKey, isName column = true

instance (t : TableName) : Decidable t.Named :=
  decidable_of_iff (isName t.schema = true ∧ isName t.name = true)
    ⟨fun h => ⟨h.1, h.2⟩, fun h => ⟨h.schema, h.name⟩⟩

instance (t : Table) : Decidable t.Named :=
  decidable_of_iff (t.place.Named ∧
      (∀ f ∈ t.fields, isName f.name = true ∧ isName f.scalar = true) ∧
      (∀ r ∈ t.relations, isName r.name = true ∧ r.target.Named) ∧
      ∀ column ∈ t.primaryKey, isName column = true)
    ⟨fun h => ⟨h.1, h.2.1, h.2.2.1, h.2.2.2⟩,
      fun h => ⟨h.place, h.fields, h.relations, h.primaryKey⟩⟩

theorem TableName.Named.labelled {t : TableName} (ht : t.Named) {label : String}
    (h : isName label = true) : isName (t.labelled label) = true := by
  unfold TableName.labelled
  split
  · exact h
  · exact isName_append (isName_append ht.schema (by decide)) (isPart_of_isName h)

theorem TableName.Named.qualified {t : TableName} (ht : t.Named) : isName t.qualified = true :=
  ht.labelled ht.name

namespace Table.Named
variable {t : Table} (ht : t.Named)
include ht

theorem qualified : isName t.qualified = true := ht.place.qualified

theorem field {name : String} {f : ScalarField} (h : t.field? name = some f) :
    isName name = true ∧ isName f.scalar = true := by
  have hmem := ht.fields f (List.mem_of_find?_eq_some h)
  rwa [Table.name_eq_of_field? h] at hmem

theorem fieldName {name : String} (h : (t.field? name).isNone = false) : isName name = true := by
  obtain ⟨f, hf⟩ := Option.isSome_iff_exists.mp (Option.isNone_eq_false_iff.mp h)
  exact (ht.field hf).1

theorem relation {name : String} {r : Relation} (h : t.relation? name = some r) :
    isName name = true ∧ r.target.Named := by
  have hmem := ht.relations r (List.mem_of_find?_eq_some h)
  rwa [Table.name_eq_of_relation? h] at hmem

end Table.Named

/-! ### Requests -/

mutual

/-- All relations among the columns lead to tables of names, under aliases that are names. -/
def Columns.Named : Columns → Prop
  | .listed items => columnsNamed items
  | .allExcept items => columnsNamed items

/-- All relations among the items lead to tables of names, under aliases that are names. -/
def columnsNamed : List Column → Prop
  | [] => True
  | item :: rest => item.Named ∧ columnsNamed rest

/-- A relation leads to a table of names, and its alias is a name. -/
def Column.Named : Column → Prop
  | .field _ => True
  | .related target _ key reach =>
    target.Named ∧ (∀ k ∈ key, isName k = true) ∧ reach.Named

/-- The columns that are asked of a relation bring names. -/
def Reach.Named : Reach → Prop
  | .one columns => columns.Named
  | .many _ columns => columns.Named
  | .aggregate _ _ => True
  | .aggregateWithNodes _ _ columns => columns.Named

end

/-- The columns that a mutation reports bring names. -/
def MutationOutput.Named : MutationOutput → Prop
  | .returning columns => columns.Named
  | .affectedRows => True
  | .returningWithRows columns => columns.Named

/-- A function that is called has a name. -/
def RecordOperation.Named : RecordOperation → Prop
  | .call _ function _ => isName function = true
  | _ => True

/-- A function that is called has a name. -/
def ListOperation.Named : ListOperation → Prop
  | .call _ function _ _ => isName function = true
  | .select _ => True

/-- A function that is called has a name. -/
def AggregateOperation.Named : AggregateOperation → Prop
  | .call function _ _ => isName function = true
  | .select _ => True

/-- An operation and what is asked of its answer bring names. -/
def Invocation.Named : Invocation → Prop
  | .record op columns => op.Named ∧ columns.Named
  | .list op columns => op.Named ∧ columns.Named
  | .bulk _ output => output.Named
  | .perUpdate _ output => output.Named
  | .aggregate op _ nodes => op.Named ∧ ∀ columns ∈ nodes, columns.Named
  | .count op => op.Named
  | .function op _ _ => op.Named

end TableGraph
