import TableGraph.Text.Quoted

/-!
# Errors of building

Every way in which an operation or a document can be put together wrongly, and its wording.
-/

namespace TableGraph

/-- Why an operation or a document cannot be built. -/
inductive BuildError where
  /-- An operation by key on a table without one. -/
  | noPrimaryKey (table : String)
  /-- The given key columns are not those of the table. -/
  | primaryKeyMismatch (table : String) (expected got : List String)
  /-- A name that is no column. -/
  | unknownField (table field : String)
  /-- Names excluded from a selection that are no columns. -/
  | invalidExclusions (table : String) (columns : List String)
  /-- A key that no filter of the table has. -/
  | unknownFilterField (table key : String)
  /-- An argument whose value has the wrong kind. -/
  | invalidArgument (table argument expected : String)
  /-- Nothing is selected. -/
  | emptySelection (table : String)
  /-- Two entries of a selection answer under one key. -/
  | duplicateResponseKey (key : String)
  /-- The parent has no such relation. -/
  | relationNotFound (parent target : String)
  /-- Several relations of the parent would do. -/
  | ambiguousRelation (parent target : String) (candidates : List String)
  /-- The named relation leads elsewhere. -/
  | relationMismatch (parent field target : String)
  /-- No aggregate is requested. -/
  | missingAggregate
  /-- No update operator is given. -/
  | missingUpdateOperation
  /-- A root of the wrong type. -/
  | mixedOperationTypes (document node : String)
  /-- An alias that another root has. -/
  | duplicateAlias (key : String)
  deriving DecidableEq, Repr

namespace BuildError

/-- A name between back quotes. -/
def ticked (name : String) : String := "\x60" ++ name ++ "\x60"

/-- The wording of an error. -/
def message : BuildError → String
  | .noPrimaryKey table => ticked table ++ " has no primary key declared"
  | .primaryKeyMismatch table expected got =>
    "primary key of " ++ ticked table ++ " must be exactly " ++ Text.quotedList expected ++
      ", got " ++ Text.quotedList got
  | .unknownField table field => ticked field ++ " is not a column of " ++ ticked table
  | .invalidExclusions table columns =>
    "invalid columns used with an inverted selection on " ++ ticked table ++ ": " ++
      Text.quotedList columns
  | .unknownFilterField table key => ticked key ++ " cannot be used to filter " ++ ticked table
  | .invalidArgument table argument expected =>
    ticked argument ++ " on " ++ ticked table ++ " must be a JSON " ++ expected
  | .emptySelection table => "selection on " ++ ticked table ++ " is empty"
  | .duplicateResponseKey key =>
    ticked key ++ " is requested more than once in the same selection set"
  | .relationNotFound parent target =>
    "invalid include: no relation to " ++ ticked target ++ " found on " ++ ticked parent
  | .ambiguousRelation parent target candidates =>
    "ambiguous include of " ++ ticked target ++ " on " ++ ticked parent ++ ", candidates: " ++
      Text.quotedList candidates ++ "; name one with " ++ ticked "field_name"
  | .relationMismatch parent field target =>
    "invalid include: " ++ ticked field ++ " on " ++ ticked parent ++ " does not relate to " ++
      ticked target
  | .missingAggregate =>
    "at least one aggregate is required: count, avg, max, min, stddev, stddev_pop, " ++
      "stddev_samp, sum, var_pop, var_samp, variance"
  | .missingUpdateOperation =>
    "at least one update operation is required: set, inc, append, prepend, delete_key, " ++
      "delete_elem, delete_at_path"
  | .mixedOperationTypes document node =>
    "a " ++ document ++ " document cannot hold a " ++ node ++ " operation"
  | .duplicateAlias key => "alias " ++ ticked key ++ " is already used in this document"

end BuildError

end TableGraph
