import TableGraph.Document.Form
import TableGraph.Proofs.Operation.Building

/-! # Forms of arguments

What the arguments of an operation are without their values. The form of what a value gives does
not depend on the value, but for the keys of a filter.

* A filter gives an entry for each of its keys (`compileFilter_form`), a primary key one for each
  of its columns (`primaryKeyBindings_form`);
* each given operator gives an argument (`UpdateOps.arguments_form`);
* every other value gives one argument of a fixed name and type. -/

namespace TableGraph

theorem Argument.form_bound (name type : String) (value : Json) :
    (Argument.bound name type value).form = .bound name type .null := rfl

theorem formMembers_eq_map (entries : List (String × ArgumentValue)) :
    formMembers entries = entries.map fun e => (e.1, e.2.form) := by
  induction entries with
  | nil => rfl
  | cons e rest ih => rw [formMembers, ih, List.map_cons]

/-! ### Values -/

/-- The entries of a filter without their values: one for each key. -/
def keyForms (t : Table) (keys : List String) : List (String × ArgumentValue) :=
  keys.map fun key => (key, .variable ⟨key, (filterType? t key).getD "", .null⟩)

theorem filterEntries_form (t : Table) (members : OrderedMap Json) :
    Yields (filterEntries t members) fun es => formMembers es = keyForms t members.keys := by
  induction members with
  | nil => exact yields_ok rfl
  | cons m rest ih =>
      obtain ⟨key, value⟩ := m
      have hentry : Yields (filterEntry t key value) fun e =>
          (e.1, e.2.form) = (key, .variable ⟨key, (filterType? t key).getD "", .null⟩) := by
        unfold filterEntry
        cases filterType? t key with
        | none => exact yields_error
        | some type => exact yields_ok rfl
      refine hentry.bind fun e he => ih.bind fun es hes => yields_ok ?_
      rw [formMembers_eq_map, List.map_cons, he, ← formMembers_eq_map, hes]
      rfl

theorem compileFilter_form (t : Table) (filter : Json) :
    Yields (compileFilter t filter) fun es => formMembers es = keyForms t filter.topKeys := by
  cases filter with
  | object members => exact filterEntries_form t members
  | _ => exact yields_error

/-- The columns of a key with their bindings, without the values. -/
def keyColumnForms (t : Table) (columns : List String) : List (String × Binding) :=
  columns.map fun c => (c, ⟨c, ((t.field? c).map (·.scalar ++ "!")).getD "", .null⟩)

theorem keyValues_columns (t : Table) (key : Json) :
    Yields (keyValues t key) fun values => values.map Prod.fst = t.primaryKey := by
  intro values h
  unfold keyValues at h
  cases key with
  | object members =>
      simp only at h
      split at h
      · cases h
        rw [List.map_map]
        exact List.map_id _
      · cases h
  | null => cases h
  | _ =>
      simp only at h
      split at h
      · rename_i column hkey
        cases h
        exact hkey.symm
      · cases h

theorem keyBindingsOf_form (t : Table) (values : List (String × Json)) :
    Yields (keyBindingsOf t values) fun bs =>
      bs.map (fun b => (b.1, b.2.form)) = keyColumnForms t (values.map Prod.fst) := by
  induction values with
  | nil => exact yields_ok rfl
  | cons v rest ih =>
      obtain ⟨column, value⟩ := v
      have hbinding : Yields (keyBinding t column value) fun b =>
          (b.1, b.2.form) =
            (column, ⟨column, ((t.field? column).map (·.scalar ++ "!")).getD "", .null⟩) := by
        unfold keyBinding
        cases t.field? column with
        | none => exact yields_error
        | some field => exact yields_ok rfl
      refine hbinding.bind fun b hb => ih.bind fun bs hbs => yields_ok ?_
      rw [List.map_cons, hb, hbs]
      rfl

theorem primaryKeyBindings_form (t : Table) (key : Json) :
    Yields (primaryKeyBindings t key) fun bs =>
      bs.map (fun b => (b.1, b.2.form)) = keyColumnForms t t.primaryKey := by
  unfold primaryKeyBindings
  split
  · exact yields_error
  · refine (keyValues_columns t key).bind fun values hvalues => ?_
    exact hvalues ▸ keyBindingsOf_form t values

/-- The arguments of operators without their values: one for each name. -/
def operatorForms (t : Table) (names : List String) : List Argument :=
  names.map fun name => .bound name (t.qualified ++ name ++ "_input") .null

theorem entryArguments_form (t : Table) (entries : List (String × Json)) :
    Yields (UpdateOps.entryArguments t entries) fun as =>
      as.map Argument.form = operatorForms t (entries.map Prod.fst) := by
  induction entries with
  | nil => exact yields_ok rfl
  | cons e rest ih =>
      refine yields_true.bind fun _ _ => ih.bind fun as has => yields_ok ?_
      rw [List.map_cons, has, Argument.form_bound]
      rfl

theorem objectArgument_form (t : Table) (object : Json) :
    Yields (objectArgument t object) fun a =>
      a.form = .bound "object" (t.qualified ++ "_insert_input!") .null :=
  yields_true.bind fun _ _ => yields_ok rfl

theorem objectsArgument_form (t : Table) (objects : Json) :
    Yields (objectsArgument t objects) fun a =>
      a.form = .bound "objects" ("[" ++ t.qualified ++ "_insert_input!]!") .null := by
  unfold objectsArgument
  split
  · exact yields_ok rfl
  · exact yields_error

theorem functionArgument_form (t : Table) (function : String) (args : Json) :
    Yields (functionArgument t function args) fun a =>
      a.form = .bound "args" (t.place.labelled function ++ "_args!") .null := by
  unfold functionArgument
  cases args with
  | null => exact yields_ok rfl
  | _ => exact yields_true.bind fun _ _ => yields_ok rfl

theorem updatesArgument_form (t : Table) (us : DistinctUpdates) :
    Yields (updatesArgument t us) fun a =>
      a.form = .bound "updates" ("[" ++ t.qualified ++ "_updates!]!") .null := by
  unfold updatesArgument
  split
  · exact yields_error
  · exact yields_true.bind fun _ _ => yields_ok rfl

/-! ### Arguments of operations -/

theorem keyArguments_form (t : Table) (key : Json) :
    Yields (keyArguments t key) fun as =>
      as.map Argument.form = (keyColumnForms t t.primaryKey).map fun b => ⟨b.1, .variable b.2⟩ := by
  refine (primaryKeyBindings_form t key).bind fun bs hbs => yields_ok ?_
  rw [← hbs, List.map_map, List.map_map]
  rfl

theorem keyColumnsArgument_form (t : Table) (key : Json) :
    Yields (keyColumnsArgument t key) fun a =>
      a.form = ⟨"pk_columns", .object
        ((keyColumnForms t t.primaryKey).map fun b => (b.1, .variable b.2))⟩ := by
  refine (primaryKeyBindings_form t key).bind fun bs hbs => yields_ok ?_
  simp only [Argument.form, ArgumentValue.form]
  rw [formMembers_eq_map, ← hbs, List.map_map, List.map_map]
  rfl

theorem whereArgument_form (t : Table) (filter : Json) :
    Yields (whereArgument t filter) fun a =>
      a.form = ⟨"where", .object (keyForms t filter.topKeys)⟩ :=
  (compileFilter_form t filter).bind fun _ hes => yields_ok (by
    simp only [Argument.form, ArgumentValue.form, hes])

theorem conflictArguments_form (t : Table) (conflict : Json) :
    Yields (conflictArguments t (some conflict)) fun as =>
      as.map Argument.form = [.bound "on_conflict" (t.qualified ++ "_on_conflict") .null] :=
  yields_true.bind fun _ _ => yields_ok rfl

theorem UpdateOps.arguments_form (t : Table) (ops : UpdateOps) :
    Yields (ops.arguments t) fun as =>
      as.map Argument.form = operatorForms t (ops.entries.map Prod.fst) := by
  unfold UpdateOps.arguments
  split
  · exact yields_error
  · exact entryArguments_form t ops.entries

/-! ### Arguments of conditions -/

namespace Conditions

/-- The argument of a filter without its values; there is none without keys. -/
def filterForms (t : Table) : List String → List Argument
  | [] => []
  | key :: keys => [⟨"where", .object (keyForms t (key :: keys))⟩]

theorem filterArguments_form (t : Table) (filter : Json) :
    Yields (filterArguments t (some filter)) fun as =>
      as.map Argument.form = filterForms t filter.topKeys := by
  refine (compileFilter_form t filter).bind fun es hes => ?_
  cases hkeys : filter.topKeys with
  | nil =>
      rw [hkeys] at hes
      cases es with
      | nil => exact yields_ok rfl
      | cons e rest => cases hes
  | cons key keys =>
      rw [hkeys] at hes
      cases es with
      | nil => cases hes
      | cons e rest =>
          exact yields_ok (by simp [Argument.form, ArgumentValue.form, hes, filterForms])

theorem orderArguments_form (t : Table) (order : Json) :
    Yields (orderArguments t (some order)) fun as =>
      as.map Argument.form = [.bound "order_by" ("[" ++ t.qualified ++ "_order_by!]") .null] := by
  unfold orderArguments
  simp only
  split
  · exact yields_ok rfl
  · exact yields_error

theorem distinctArguments_form (t : Table) (columns : List String) :
    Yields (distinctArguments t (some columns)) fun as =>
      as.map Argument.form =
        [.bound "distinct_on" ("[" ++ t.qualified ++ "_select_column!]") .null] :=
  yields_true.bind fun _ _ => yields_ok rfl

end Conditions

end TableGraph
