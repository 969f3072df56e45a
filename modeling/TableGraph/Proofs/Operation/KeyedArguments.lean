import Mathlib.Data.List.Nodup
import TableGraph.Invocation
import TableGraph.Node.Parts
import TableGraph.Proofs.Operation.ArgumentForms

/-! # Names and keys of arguments

The arguments of an operation have different names, and no object literal in them has a key twice.

* The names are among those of fixed places, in their order, or they are the columns of the primary
  key (`Fills`); keys of object literals are the keys of a filter or again those columns;
* both can be seen in the forms of the arguments, without their values (`Fills.of_forms`);
* an object has each key once, and this is what is asked of the filters of a request
  (`Invocation.filters`, `DistinctKeys`). -/

namespace TableGraph

/-! ### Filters of a request -/

mutual

/-- The filters that are put on relations among the columns. -/
def Columns.filters : Columns → List Json
  | .listed items => filtersAmong items
  | .allExcept items => filtersAmong items

/-- The filters that are put on relations among the items. -/
def filtersAmong : List Column → List Json
  | [] => []
  | .field _ :: rest => filtersAmong rest
  | .related _ _ _ reach :: rest => reach.filters ++ filtersAmong rest

/-- The filters that are put on a relation and on relations in it. -/
def Reach.filters : Reach → List Json
  | .one columns => columns.filters
  | .many conditions columns => conditions.filter.toList ++ columns.filters
  | .aggregate conditions _ => conditions.filter.toList
  | .aggregateWithNodes conditions _ columns => conditions.filter.toList ++ columns.filters

end

/-- The filter of an operation, if it has one. -/
def ListOperation.filters : ListOperation → List Json
  | .select conditions => conditions.filter.toList
  | .call _ _ _ conditions => conditions.filter.toList

/-- The filter of a mutation, if it has one. -/
def BulkOperation.filters : BulkOperation → List Json
  | .insert _ _ => []
  | .update filter _ => [filter]
  | .delete filter => [filter]

/-- The filter of an operation, if it has one. -/
def AggregateOperation.filters : AggregateOperation → List Json
  | .select conditions => conditions.filter.toList
  | .call _ _ conditions => conditions.filter.toList

/-- The filters that are put on relations among the columns of a report. -/
def MutationOutput.filters : MutationOutput → List Json
  | .returning columns => columns.filters
  | .affectedRows => []
  | .returningWithRows columns => columns.filters

/-- All filters of a request that become object literals. -/
def Invocation.filters : Invocation → List Json
  | .record _ columns => columns.filters
  | .list op columns => op.filters ++ columns.filters
  | .bulk op output => op.filters ++ output.filters
  | .perUpdate _ output => output.filters
  | .aggregate op _ nodes => op.filters ++ nodes.toList.flatMap Columns.filters
  | .count op => op.filters
  | .function op _ _ => op.filters

/-! ### Names and keys -/

/-- No object literal in the argument has a key twice. -/
def Argument.Keyed (a : Argument) : Prop :=
  ∀ entries ∈ a.value.literals, (OrderedMap.keys entries).Nodup

/-- Arguments of different names, in which no object literal has a key twice. -/
structure KeyedArguments (arguments : List Argument) : Prop where
  nodup : (arguments.map Argument.name).Nodup
  keyed : ∀ a ∈ arguments, a.Keyed

/-- Arguments that take some of the places of the given names, in their order, and in which no
object literal has a key twice. -/
structure Fills (places : List String) (arguments : List Argument) : Prop where
  names : (arguments.map Argument.name).Sublist places
  keyed : ∀ a ∈ arguments, a.Keyed

theorem Fills.keyedArguments {places : List String} {arguments : List Argument}
    (h : Fills places arguments) (hplaces : places.Nodup) : KeyedArguments arguments :=
  ⟨h.names.nodup hplaces, h.keyed⟩

theorem Fills.nil (places : List String) : Fills places [] := ⟨List.nil_sublist places, nofun⟩

theorem Fills.cons {places : List String} {a : Argument} {arguments : List Argument}
    (ha : a.Keyed) (h : Fills places arguments) : Fills (a.name :: places) (a :: arguments) :=
  ⟨h.names.cons_cons a.name, List.forall_mem_cons.mpr ⟨ha, h.keyed⟩⟩

theorem Fills.append {first second : List String} {as bs : List Argument} (ha : Fills first as)
    (hb : Fills second bs) : Fills (first ++ second) (as ++ bs) := by
  refine ⟨?_, List.forall_mem_append.mpr ⟨ha.keyed, hb.keyed⟩⟩
  rw [List.map_append]
  exact ha.names.append hb.names

theorem Argument.Keyed.bound (name type : String) (value : Json) :
    (Argument.bound name type value).Keyed := nofun

theorem Argument.Keyed.object {name : String} {entries : List (String × ArgumentValue)}
    (hkeys : (OrderedMap.keys entries).Nodup) (h : ∀ e ∈ entries, ∃ b, e.2 = .variable b) :
    (Argument.mk name (.object entries)).Keyed := by
  suffices hnone : literalsIn entries = [] by
    refine List.forall_mem_cons.mpr ⟨hkeys, ?_⟩
    rw [hnone]
    exact nofun
  clear hkeys
  induction entries with
  | nil => rfl
  | cons e rest ih =>
      obtain ⟨⟨b, hb⟩, hrest⟩ := List.forall_mem_cons.mp h
      rw [literalsIn, hb, ih hrest]
      rfl

/-! ### Names and keys without values -/

theorem keys_formMembers (entries : List (String × ArgumentValue)) :
    OrderedMap.keys (formMembers entries) = OrderedMap.keys entries := by
  rw [formMembers_eq_map]
  unfold OrderedMap.keys
  rw [List.map_map]
  rfl

mutual

theorem ArgumentValue.keys_literals_form : ∀ v : ArgumentValue,
    v.form.literals.map OrderedMap.keys = v.literals.map OrderedMap.keys
  | .variable _ => rfl
  | .object entries => by
      simp only [ArgumentValue.form, ArgumentValue.literals, List.map_cons]
      rw [keys_formMembers, keys_literalsIn_formMembers entries]

theorem keys_literalsIn_formMembers : ∀ entries : List (String × ArgumentValue),
    (literalsIn (formMembers entries)).map OrderedMap.keys =
      (literalsIn entries).map OrderedMap.keys
  | [] => rfl
  | (_, v) :: rest => by
      simp only [formMembers, literalsIn, List.map_append]
      rw [v.keys_literals_form, keys_literalsIn_formMembers rest]

end

theorem Argument.keyed_form_iff {a : Argument} : a.form.Keyed ↔ a.Keyed := by
  have hkeyed : ∀ b : Argument,
      b.Keyed ↔ ∀ keys ∈ b.value.literals.map OrderedMap.keys, keys.Nodup :=
    fun b => List.forall_mem_map.symm
  rw [hkeyed, hkeyed, ← a.value.keys_literals_form]
  rfl

/-- Names and keys of arguments are those of their forms. -/
theorem Fills.of_forms {places : List String} {arguments : List Argument}
    (h : Fills places (arguments.map Argument.form)) : Fills places arguments := by
  obtain ⟨hnames, hkeyed⟩ := h
  rw [List.map_map] at hnames
  exact ⟨hnames, fun a ha => Argument.keyed_form_iff.mp (hkeyed a.form (List.mem_map_of_mem ha))⟩

section
variable {places : List String} {x : Except BuildError Argument}
  {xs : Except BuildError (List Argument)}

theorem Yields.fills {forms : List Argument} (h : Yields xs fun as => as.map Argument.form = forms)
    (hforms : Fills places forms) : Yields xs (Fills places) :=
  fun as has => .of_forms (by rw [h as has]; exact hforms)

theorem arguments_cons_fills {form : Argument} (hx : Yields x fun a => a.form = form)
    (hform : form.Keyed) (hxs : Yields xs (Fills places)) :
    Yields (do pure ((← x) :: (← xs))) (Fills (form.name :: places)) := by
  refine hx.bind fun a ha => hxs.bind fun as has => yields_ok ?_
  subst ha
  exact .cons (Argument.keyed_form_iff.mp hform) has

theorem arguments_singleton_fills {form : Argument} (hx : Yields x fun a => a.form = form)
    (hform : form.Keyed) : Yields (do pure [← x]) (Fills [form.name]) := by
  refine hx.bind fun a ha => yields_ok ?_
  subst ha
  exact .cons (Argument.keyed_form_iff.mp hform) (.nil [])

end

/-! ### Arguments -/

/-- All filters in a list have each key once. -/
def DistinctKeys (filters : List Json) : Prop := ∀ f ∈ filters, f.topKeys.Nodup

theorem DistinctKeys.append {first second : List Json} (h : DistinctKeys (first ++ second)) :
    DistinctKeys first ∧ DistinctKeys second := List.forall_mem_append.mp h

theorem Argument.Keyed.keyForms {t : Table} {keys : List String} (h : keys.Nodup) (name : String) :
    (Argument.mk name (.object (keyForms t keys))).Keyed := by
  refine .object ?_ ?_
  · unfold OrderedMap.keys TableGraph.keyForms
    rw [List.map_map]
    exact (List.map_id keys).symm ▸ h
  · intro e he
    obtain ⟨key, -, rfl⟩ := List.mem_map.mp he
    exact ⟨_, rfl⟩

section
variable (t : Table)

namespace Conditions

/-- The arguments of conditions in order. -/
def places : List String := ["where", "order_by", "distinct_on", "limit", "offset"]

theorem filterForms_fills {keys : List String} (h : keys.Nodup) :
    Fills ["where"] (filterForms t keys) := by
  cases keys with
  | nil => exact .nil _
  | cons key keys => exact .cons (.keyForms h "where") (.nil [])

omit t in
theorem windowArguments_fills (name : String) (bound : Option Nat) :
    Fills [name] (windowArguments name bound) := by
  cases bound with
  | none => exact .nil _
  | some n => exact .cons (.bound name "Int" _) (.nil [])

theorem arguments_fills {c : Conditions} (h : DistinctKeys c.filter.toList) :
    Yields (c.arguments t) (Fills places) := by
  have hfilter : Yields (filterArguments t c.filter) (Fills ["where"]) := by
    cases hf : c.filter with
    | none => exact yields_ok (.nil _)
    | some f => exact (filterArguments_form t f).fills (filterForms_fills t (h f (by simp [hf])))
  have horder : Yields (orderArguments t c.orderBy) (Fills ["order_by"]) := by
    cases c.orderBy with
    | none => exact yields_ok (.nil _)
    | some order => exact (orderArguments_form t order).fills (.cons (.bound _ _ _) (.nil []))
  have hdistinct : Yields (distinctArguments t c.distinctOn) (Fills ["distinct_on"]) := by
    cases c.distinctOn with
    | none => exact yields_ok (.nil _)
    | some cs => exact (distinctArguments_form t cs).fills (.cons (.bound _ _ _) (.nil []))
  refine hfilter.bind fun fs hfs => horder.bind fun os hos => hdistinct.bind fun ds hds => ?_
  refine yields_ok ?_
  exact (((hfs.append hos).append hds).append (windowArguments_fills "limit" c.limit)).append
    (windowArguments_fills "offset" c.offset)

end Conditions

omit t in
/-- The names of the given operators are in order. -/
theorem UpdateOps.entries_sublist (ops : UpdateOps) :
    (ops.entries.map Prod.fst).Sublist (UpdateOperator.all.map UpdateOperator.argument) := by
  unfold UpdateOps.entries
  induction UpdateOperator.all with
  | nil => exact .slnil
  | cons o rest ih =>
      cases hget : ops.get? o with
      | none => simpa [hget] using ih.cons o.argument
      | some value => simpa [hget] using ih.cons_cons o.argument

theorem UpdateOps.arguments_fills (ops : UpdateOps) :
    Yields (ops.arguments t) (Fills (UpdateOperator.all.map UpdateOperator.argument)) := by
  refine (ops.arguments_form t).fills ⟨?_, ?_⟩
  · unfold operatorForms
    rw [List.map_map]
    exact (List.map_id _).symm ▸ ops.entries_sublist
  · intro a ha
    obtain ⟨name, -, rfl⟩ := List.mem_map.mp ha
    exact .bound _ _ _

theorem conflictArguments_fills (conflict : Option Json) :
    Yields (conflictArguments t conflict) (Fills ["on_conflict"]) := by
  cases conflict with
  | none => exact yields_ok (.nil _)
  | some c => exact (conflictArguments_form t c).fills (.cons (.bound _ _ _) (.nil []))

theorem keyArguments_fills (key : Json) : Yields (keyArguments t key) (Fills t.primaryKey) := by
  refine (keyArguments_form t key).fills ⟨?_, ?_⟩
  · unfold keyColumnForms
    rw [List.map_map, List.map_map]
    exact (List.map_id t.primaryKey).symm ▸ List.Sublist.refl _
  · intro a ha
    obtain ⟨b, -, rfl⟩ := List.mem_map.mp ha
    exact nofun

theorem keyed_keyColumnForms (hkey : t.primaryKey.Nodup) :
    (Argument.mk "pk_columns" (.object
      ((keyColumnForms t t.primaryKey).map fun b => (b.1, .variable b.2)))).Keyed := by
  refine .object ?_ ?_
  · unfold OrderedMap.keys keyColumnForms
    rw [List.map_map, List.map_map]
    exact (List.map_id t.primaryKey).symm ▸ hkey
  · intro e he
    obtain ⟨b, -, rfl⟩ := List.mem_map.mp he
    exact ⟨b.2, rfl⟩

/-! ### Arguments of operations -/

theorem Yields.keyedArguments {places : List String} {xs : Except BuildError (List Argument)}
    (h : Yields xs (Fills places)) (hplaces : places.Nodup) : Yields xs KeyedArguments :=
  fun as has => (h as has).keyedArguments hplaces

theorem RecordOperation.arguments_keyed (op : RecordOperation) (hkey : t.primaryKey.Nodup) :
    Yields (op.arguments t) KeyedArguments := by
  cases op with
  | selectByKey key => exact (keyArguments_fills t key).keyedArguments hkey
  | insert object conflict =>
      have hfills : Yields _ (Fills ["object", "on_conflict"]) :=
        arguments_cons_fills (objectArgument_form t object) (.bound _ _ _)
          (conflictArguments_fills t conflict)
      exact hfills.keyedArguments (by decide)
  | updateByKey key ops =>
      have hfills : Yields _ (Fills ("pk_columns" :: UpdateOperator.all.map (·.argument))) :=
        arguments_cons_fills (keyColumnsArgument_form t key) (keyed_keyColumnForms t hkey)
          (ops.arguments_fills t)
      exact hfills.keyedArguments (by decide)
  | deleteByKey key => exact (keyArguments_fills t key).keyedArguments hkey
  | call type function args =>
      have hfills := arguments_singleton_fills (functionArgument_form t function args)
        (.bound _ _ _)
      exact hfills.keyedArguments (List.nodup_singleton _)

theorem Conditions.arguments_keyed (t : Table) {c : Conditions}
    (h : DistinctKeys c.filter.toList) : Yields (c.arguments t) KeyedArguments :=
  (Conditions.arguments_fills t h).keyedArguments (by decide)

theorem functionArguments_keyed (function : String) (args : Json) {c : Conditions}
    (h : DistinctKeys c.filter.toList) :
    Yields (do pure ((← functionArgument t function args) :: (← c.arguments t)))
      KeyedArguments := by
  have hfills : Yields _ (Fills ("args" :: Conditions.places)) :=
    arguments_cons_fills (functionArgument_form t function args) (.bound _ _ _)
      (Conditions.arguments_fills t h)
  exact hfills.keyedArguments (by decide)

theorem ListOperation.arguments_keyed (op : ListOperation) (h : DistinctKeys op.filters) :
    Yields (op.arguments t) KeyedArguments := by
  cases op with
  | select c => exact c.arguments_keyed t h
  | call type function args c => exact functionArguments_keyed t function args h

theorem BulkOperation.arguments_keyed (op : BulkOperation) (h : DistinctKeys op.filters) :
    Yields (op.arguments t) KeyedArguments := by
  cases op with
  | insert objects conflict =>
      have hfills : Yields _ (Fills ["objects", "on_conflict"]) :=
        arguments_cons_fills (objectsArgument_form t objects) (.bound _ _ _)
          (conflictArguments_fills t conflict)
      exact hfills.keyedArguments (by decide)
  | update filter ops =>
      have hfills : Yields _ (Fills ("where" :: UpdateOperator.all.map (·.argument))) :=
        arguments_cons_fills (whereArgument_form t filter)
          (.keyForms (h filter (List.mem_singleton_self filter)) "where") (ops.arguments_fills t)
      exact hfills.keyedArguments (by decide)
  | delete filter =>
      have hfills := arguments_singleton_fills (whereArgument_form t filter)
        (.keyForms (h filter (List.mem_singleton_self filter)) "where")
      exact hfills.keyedArguments (List.nodup_singleton _)

theorem DistinctUpdates.arguments_keyed (us : DistinctUpdates) :
    Yields (us.arguments t) KeyedArguments := by
  have hfills := arguments_singleton_fills (updatesArgument_form t us) (.bound _ _ _)
  exact hfills.keyedArguments (List.nodup_singleton _)

theorem AggregateOperation.arguments_keyed (op : AggregateOperation) (h : DistinctKeys op.filters) :
    Yields (op.arguments t) KeyedArguments := by
  cases op with
  | select c => exact c.arguments_keyed t h
  | call function args c => exact functionArguments_keyed t function args h

end

end TableGraph
