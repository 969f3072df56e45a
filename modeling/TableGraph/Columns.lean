import TableGraph.Node
import TableGraph.Conditions

/-!
# Columns

What a node returns: names of columns and relations to follow, resolved against a table.

* A list gives its items in order, and the empty list stands for the primary key;
* a list of exceptions gives the columns that are not in it, then the relations in it;
* a relation is found by its target and cardinality, or by its name if one is given;
* a selection is never empty and never answers twice under one key.
-/

namespace TableGraph

mutual

/-- Columns requested of a table. -/
inductive Columns where
  /-- These; the primary key if there are none. -/
  | listed (items : List Column)
  /-- All columns but these, and the relations among them. -/
  | allExcept (items : List Column)

/-- One item of a list of columns. -/
inductive Column where
  | field (name : String)
  /-- A relation to a table, found by name if there is one, under an alias if there is one. -/
  | related (target : Table) (name : Option String) (key : Option String) (reach : Reach)

/-- What is asked of a relation. -/
inductive Reach where
  /-- The one row. -/
  | one (columns : Columns)
  /-- The rows that meet the conditions. -/
  | many (conditions : Conditions) (columns : Columns)
  /-- Aggregates over the rows that meet the conditions. -/
  | aggregate (conditions : Conditions) (requested : Aggregates)
  /-- Aggregates, and the rows that they cover. -/
  | aggregateWithNodes (conditions : Conditions) (requested : Aggregates) (columns : Columns)

end

deriving instance Inhabited for Columns, Column, Reach

/-- The primary key. -/
def Columns.key : Columns := .listed []

/-- All columns. -/
def Columns.all : Columns := .allExcept []

namespace Columns

/-- The columns are given by what they leave out. -/
def isInverted : Columns → Bool
  | .listed _ => false
  | .allExcept _ => true

/-- Adds one item. -/
def add (item : Column) : Columns → Columns
  | .listed items => .listed (items ++ [item])
  | .allExcept items => .allExcept (items ++ [item])

end Columns

/-- The cardinality of the relations that can be asked for this. -/
def Reach.cardinality : Reach → Cardinality
  | .one _ => .one
  | .many _ _ => .many
  | .aggregate _ _ => .many
  | .aggregateWithNodes _ _ _ => .many

/-- The relation of `parent` to `target`: the one of the given name, or the only one of the
cardinality. -/
def findRelation (parent target : Table) (name : Option String) (cardinality : Cardinality) :
    Except BuildError Relation :=
  let fits (r : Relation) : Bool := r.cardinality == cardinality && r.target == target.place
  match name with
  | some name =>
    match parent.relation? name with
    | none => .error (.relationNotFound parent.qualified target.qualified)
    | some r =>
      if fits r then .ok r else .error (.relationMismatch parent.qualified name target.qualified)
  | none =>
    match parent.relations.filter fits with
    | [r] => .ok r
    | [] => .error (.relationNotFound parent.qualified target.qualified)
    | candidates =>
      .error (.ambiguousRelation parent.qualified target.qualified (candidates.map (·.name)))

/-- The first key that was seen before. -/
def firstRepeated (seen : List String) : List String → Option String
  | [] => none
  | key :: rest => if key ∈ seen then some key else firstRepeated (key :: seen) rest

/-- Refuses an empty selection and repeated response keys. -/
def checkSelection (t : Table) (entries : List Entry) : Except BuildError (List Entry) :=
  if entries.isEmpty then .error (.emptySelection t.qualified)
  else match firstRepeated [] (entries.map Entry.responseKey) with
    | some key => .error (.duplicateResponseKey key)
    | none => .ok entries

/-- The names among the items. -/
def namesAmong : List Column → List String
  | [] => []
  | .field name :: rest => name :: namesAmong rest
  | .related .. :: rest => namesAmong rest

/-- The columns of a table that are not excluded. -/
def remainingColumns (t : Table) (excluded : List String) : List Entry :=
  (t.fieldNames.filter fun name => !excluded.contains name).map .column

/-- The selection of aggregates, and of the rows that they cover if these are selected. -/
def aggregateSelection (t : Table) (requested : Aggregates)
    (nodes : Option (Except BuildError (List Entry))) : Except BuildError (List Entry) := do
  requested.validate t
  match nodes with
  | none => pure [.aggregate requested]
  | some selection => pure [.aggregate requested, .nodes (← selection)]

/-- The node of a relation, whose field is named after it; its arguments are checked before its
selection. -/
def relatedNode (kind : NodeKind) (target : Table) (ending : String) (key : Option String)
    (relation : Except BuildError Relation) (arguments : Except BuildError (List Argument))
    (selection : Except BuildError (List Entry)) : Except BuildError Node := do
  let relation ← relation
  let arguments ← arguments
  let selection ← selection
  pure ⟨kind, target, relation.name ++ ending, key, arguments, selection⟩

mutual

/-- The selection of columns of a table. -/
def Columns.resolve (t : Table) : Columns → Except BuildError (List Entry)
  | .listed [] => checkSelection t (t.primaryKey.map .column)
  | .listed (item :: rest) => do
    checkSelection t (← resolveItems t (item :: rest))
  | .allExcept items => do
    match (namesAmong items).filter fun name => (t.field? name).isNone with
    | [] => checkSelection t (remainingColumns t (namesAmong items) ++ (← resolveRelated t items))
    | invalid => throw (.invalidExclusions t.qualified invalid)

/-- One entry for each item. -/
def resolveItems (t : Table) : List Column → Except BuildError (List Entry)
  | [] => .ok []
  | .field name :: rest => do
    if (t.field? name).isNone then throw (.unknownField t.qualified name)
    pure (.column name :: (← resolveItems t rest))
  | .related target name key reach :: rest => do
    let node ← Reach.resolve t target name key reach
    pure (.related node :: (← resolveItems t rest))

/-- One entry for each relation among the items. -/
def resolveRelated (t : Table) : List Column → Except BuildError (List Entry)
  | [] => .ok []
  | .field _ :: rest => resolveRelated t rest
  | .related target name key reach :: rest => do
    let node ← Reach.resolve t target name key reach
    pure (.related node :: (← resolveRelated t rest))

/-- The node of a relation of `parent`. -/
def Reach.resolve (parent target : Table) (name key : Option String) :
    Reach → Except BuildError Node
  | .one columns =>
    relatedNode .relatedOne target "" key (findRelation parent target name .one) (.ok [])
      (columns.resolve target)
  | .many conditions columns =>
    relatedNode .relatedMany target "" key (findRelation parent target name .many)
      (conditions.arguments target) (columns.resolve target)
  | .aggregate conditions requested =>
    relatedNode .relatedAggregate target "_aggregate" key
      (findRelation parent target name .many) (conditions.arguments target)
      (aggregateSelection target requested none)
  | .aggregateWithNodes conditions requested columns =>
    relatedNode .relatedAggregate target "_aggregate" key
      (findRelation parent target name .many) (conditions.arguments target)
      (aggregateSelection target requested (some (columns.resolve target)))

end

end TableGraph
