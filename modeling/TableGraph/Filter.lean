import TableGraph.Argument

/-!
# Filters

A filter is an object. Each of its top-level keys becomes an entry of an object literal with a
variable of its own, named after the key and typed by its role.

* `_and` and `_or` take lists of conditions on the table, `_not` takes one;
* a column takes comparisons of its scalar type, a relation conditions on its target;
* the name of a to-many relation with `_aggregate` takes conditions on the aggregates of its
  target;
* a key with no role is refused. The roles are tried in this order.
-/

namespace TableGraph

/-- The name before `_aggregate`, if the key ends so. -/
def aggregateBase? (key : String) : Option String :=
  let ending := "_aggregate".toList
  let cs := key.toList
  if ending.isSuffixOf cs then some (String.ofList (cs.take (cs.length - ending.length))) else none

theorem eq_of_aggregateBase? {key base : String} (h : aggregateBase? key = some base) :
    key = base ++ "_aggregate" := by
  unfold aggregateBase? at h
  simp only at h
  split at h
  · rename_i hsuffix
    obtain ⟨lead, hlead⟩ := List.isSuffixOf_iff_suffix.mp hsuffix
    cases h
    rw [← hlead, ← String.toList_inj, String.toList_append, String.toList_ofList]
    simp [← hlead]
  · cases h

theorem aggregateBase?_append (base : String) : aggregateBase? (base ++ "_aggregate") = some base := by
  have hsuffix : "_aggregate".toList.isSuffixOf (base ++ "_aggregate").toList = true := by
    rw [String.toList_append, List.isSuffixOf_iff_suffix]
    exact List.suffix_append _ _
  unfold aggregateBase?
  simp only [hsuffix, if_true]
  rw [String.toList_append, List.length_append, Nat.add_sub_cancel, List.take_left',
    String.ofList_toList]
  rfl

/-- The type of the value under a key of a filter, if the key has a role. -/
def filterType? (t : Table) (key : String) : Option String :=
  if key = "_and" ∨ key = "_or" then some ("[" ++ t.qualified ++ "_bool_exp!]")
  else if key = "_not" then some (t.qualified ++ "_bool_exp")
  else match t.field? key with
    | some field => some (field.scalar ++ "_comparison_exp")
    | none => match t.relation? key with
      | some relation => some (relation.target.qualified ++ "_bool_exp")
      | none => match (aggregateBase? key).bind t.relation? with
        | some relation =>
          if relation.cardinality = .many then
            some (relation.target.qualified ++ "_aggregate_bool_exp")
          else none
        | none => none

/-- The entry of one key. -/
def filterEntry (t : Table) (key : String) (value : Json) :
    Except BuildError (String × ArgumentValue) :=
  match filterType? t key with
  | some type => .ok (key, .variable ⟨key, type, value⟩)
  | none => .error (.unknownFilterField t.qualified key)

/-- The entries of the keys in order; the first key without a role is refused. -/
def filterEntries (t : Table) :
    OrderedMap Json → Except BuildError (List (String × ArgumentValue))
  | [] => .ok []
  | (key, value) :: rest => do
    let entry ← filterEntry t key value
    let entries ← filterEntries t rest
    pure (entry :: entries)

/-- The object literal of a filter. -/
def compileFilter (t : Table) (filter : Json) :
    Except BuildError (List (String × ArgumentValue)) := do
  filterEntries t (← membersOf filter t.qualified "where")

end TableGraph
