import TableGraph.Document.Outline
import TableGraph.Invocation
import TableGraph.Proofs.Operation.ArgumentForms

/-! # Values of required types

Whether the sites of a built node have values where their types take no null.

* A type is required if its text ends in an exclamation mark (`isRequired`). What a site is typed
  by does not depend on its value, so arguments whose forms have no required type need no value
  (`Yields.provided`);
* inserted objects, arguments of functions and several updates have required types, and their
  values are checked to be objects or arrays;
* a primary key has required types too. Null in place of the whole key is refused, but null for a
  column in it is bound (`primaryKeyBindings_provided_iff`). Hence a node has all required values
  exactly if it has no key with such a column (`Invocation.node_provided_iff`). -/

namespace TableGraph

/-! ### Required types -/

/-- The text of a type that takes no null. -/
def isRequired (type : String) : Bool := type.toList.getLast? == some '!'

/-- The site has a value if its type is required. -/
def Binding.Provided (b : Binding) : Prop := isRequired b.type = true → b.value ≠ .null

/-- All sites with required types have values. -/
def AllProvided (sites : List Binding) : Prop := ∀ b ∈ sites, b.Provided

theorem isRequired_append (lead : String) {ending : String} (h : ending ≠ "") :
    isRequired (lead ++ ending) = isRequired ending := by
  have hne : ending.toList ≠ [] := fun hnil => h (String.toList_eq_nil_iff.mp hnil)
  unfold isRequired
  rw [String.toList_append, List.getLast?_append, List.getLast?_eq_some_getLast hne, Option.some_or]

theorem Binding.Provided.of_type {b : Binding} (h : isRequired b.type = false) : b.Provided := by
  intro hrequired
  rw [h] at hrequired
  cases hrequired

/-! ### Sites of arguments -/

theorem memberSites_variables {α : Type} (name : α → String) (binding : α → Binding) (l : List α) :
    memberSites (l.map fun x => (name x, .variable (binding x))) = l.map binding := by
  induction l with
  | nil => rfl
  | cons x rest ih =>
      simp only [List.map_cons, memberSites, ArgumentValue.sites]
      rw [ih, List.singleton_append]

theorem argumentSites_cons (a : Argument) (arguments : List Argument) :
    argumentSites (a :: arguments) = a.value.sites ++ argumentSites arguments := List.flatMap_cons

theorem argumentSites_append (first second : List Argument) :
    argumentSites (first ++ second) = argumentSites first ++ argumentSites second :=
  List.flatMap_append

mutual

theorem ArgumentValue.sites_form : ∀ v : ArgumentValue,
    v.form.sites = v.sites.map Binding.form
  | .variable _ => rfl
  | .object entries => memberSites_formMembers entries

theorem memberSites_formMembers : ∀ entries : List (String × ArgumentValue),
    memberSites (formMembers entries) = (memberSites entries).map Binding.form
  | [] => rfl
  | (_, v) :: rest => by
      simp only [formMembers, memberSites, List.map_append]
      rw [v.sites_form, memberSites_formMembers rest]

end

/-- No site has a required type. -/
def OptionalTypes (sites : List Binding) : Prop := ∀ b ∈ sites, isRequired b.type = false

/-- A form has the types of what it is a form of. -/
theorem Argument.provided_of_form {a form : Argument} (h : a.form = form)
    (hform : OptionalTypes form.value.sites) : AllProvided a.value.sites := by
  subst h
  intro b hb
  refine .of_type (hform b.form ?_)
  show b.form ∈ a.value.form.sites
  rw [a.value.sites_form]
  exact List.mem_map_of_mem hb

theorem argumentSites_provided_of_forms {arguments forms : List Argument}
    (h : arguments.map Argument.form = forms) (hforms : OptionalTypes (argumentSites forms)) :
    AllProvided (argumentSites arguments) := by
  subst h
  intro b hb
  obtain ⟨a, ha, hb⟩ := List.mem_flatMap.mp hb
  refine a.provided_of_form rfl ?_ b hb
  exact fun c hc => hforms c (List.mem_flatMap.mpr ⟨a.form, List.mem_map_of_mem ha, hc⟩)

theorem OptionalTypes.bound (name : String) {type : String} (h : isRequired type = false) :
    OptionalTypes (argumentSites [.bound name type .null]) :=
  List.forall_mem_singleton.mpr h

theorem Argument.provided_bound (name type : String) {value : Json} (h : value ≠ .null) :
    AllProvided (Argument.bound name type value).value.sites :=
  List.forall_mem_singleton.mpr fun _ => h

section
variable {x : Except BuildError Argument} {xs : Except BuildError (List Argument)}

/-- Arguments need no values if their forms have no required types. -/
theorem Yields.provided {forms : List Argument}
    (h : Yields xs fun as => as.map Argument.form = forms)
    (hforms : OptionalTypes (argumentSites forms)) :
    Yields xs fun as => AllProvided (argumentSites as) :=
  fun as has => argumentSites_provided_of_forms (h as has) hforms

theorem arguments_cons_provided (hx : Yields x fun a => AllProvided a.value.sites)
    (hxs : Yields xs fun as => AllProvided (argumentSites as)) :
    Yields (do pure ((← x) :: (← xs))) fun as => AllProvided (argumentSites as) := by
  refine hx.bind fun a ha => hxs.bind fun as has => yields_ok ?_
  rw [argumentSites_cons]
  exact List.forall_mem_append.mpr ⟨ha, has⟩

theorem arguments_singleton_provided (hx : Yields x fun a => AllProvided a.value.sites) :
    Yields (do pure [← x]) fun as => AllProvided (argumentSites as) := by
  refine hx.bind fun a ha => yields_ok ?_
  rw [argumentSites_cons]
  exact List.forall_mem_append.mpr ⟨ha, nofun⟩

end

/-! ### Arguments without required types -/

section
variable (t : Table)

theorem isRequired_filterType (key : String) : isRequired ((filterType? t key).getD "") = false := by
  unfold filterType?
  split
  · exact isRequired_append _ (by decide)
  · split
    · exact isRequired_append _ (by decide)
    · split
      · exact isRequired_append _ (by decide)
      · split
        · exact isRequired_append _ (by decide)
        · split
          · split
            · exact isRequired_append _ (by decide)
            · rfl
          · rfl

theorem keyForms_optional (keys : List String) : OptionalTypes (memberSites (keyForms t keys)) := by
  unfold keyForms
  rw [memberSites_variables]
  exact List.forall_mem_map.mpr fun key _ => isRequired_filterType t key

theorem operatorForms_optional (names : List String) :
    OptionalTypes (argumentSites (operatorForms t names)) := by
  intro b hb
  obtain ⟨a, ha, hb⟩ := List.mem_flatMap.mp hb
  obtain ⟨name, -, rfl⟩ := List.mem_map.mp ha
  rw [List.mem_singleton.mp hb]
  exact isRequired_append _ (by decide)

namespace Conditions

theorem filterArguments_provided (filter : Option Json) :
    Yields (filterArguments t filter) fun as => AllProvided (argumentSites as) := by
  cases filter with
  | none => exact yields_ok nofun
  | some filter =>
      refine (filterArguments_form t filter).provided ?_
      cases filter.topKeys with
      | nil => exact nofun
      | cons key keys => exact List.forall_mem_append.mpr ⟨keyForms_optional t (key :: keys), nofun⟩

theorem orderArguments_provided (order : Option Json) :
    Yields (orderArguments t order) fun as => AllProvided (argumentSites as) := by
  cases order with
  | none => exact yields_ok nofun
  | some order =>
      exact (orderArguments_form t order).provided (.bound _ (isRequired_append _ (by decide)))

theorem distinctArguments_provided (columns : Option (List String)) :
    Yields (distinctArguments t columns) fun as => AllProvided (argumentSites as) := by
  cases columns with
  | none => exact yields_ok nofun
  | some columns =>
      exact (distinctArguments_form t columns).provided (.bound _ (isRequired_append _ (by decide)))

theorem windowArguments_provided (name : String) (bound : Option Nat) :
    AllProvided (argumentSites (windowArguments name bound)) := by
  cases bound with
  | none => exact nofun
  | some n => exact Argument.provided_bound name "Int" nofun

theorem arguments_provided (c : Conditions) :
    Yields (c.arguments t) fun as => AllProvided (argumentSites as) := by
  refine (filterArguments_provided t c.filter).bind fun fs hfs => ?_
  refine (orderArguments_provided t c.orderBy).bind fun os hos => ?_
  refine (distinctArguments_provided t c.distinctOn).bind fun ds hds => yields_ok ?_
  have hlimit := windowArguments_provided "limit" c.limit
  have hoffset := windowArguments_provided "offset" c.offset
  simp only [argumentSites_append, AllProvided, List.forall_mem_append]
  exact ⟨⟨⟨⟨hfs, hos⟩, hds⟩, hlimit⟩, hoffset⟩

end Conditions

theorem UpdateOps.arguments_provided (ops : UpdateOps) :
    Yields (ops.arguments t) fun as => AllProvided (argumentSites as) :=
  (ops.arguments_form t).provided (operatorForms_optional t _)

theorem whereArgument_provided (filter : Json) :
    Yields (whereArgument t filter) fun a => AllProvided a.value.sites :=
  fun a ha => a.provided_of_form (whereArgument_form t filter a ha)
    (keyForms_optional t filter.topKeys)

theorem conflictArguments_provided (conflict : Option Json) :
    Yields (conflictArguments t conflict) fun as => AllProvided (argumentSites as) := by
  cases conflict with
  | none => exact yields_ok nofun
  | some conflict =>
      exact (conflictArguments_form t conflict).provided
        (.bound _ (isRequired_append _ (by decide)))

/-! ### Arguments of required types -/

theorem objectArgument_provided (object : Json) :
    Yields (objectArgument t object) fun a => AllProvided a.value.sites := by
  have hmembers : Yields (membersOf object t.qualified "object") fun _ => object ≠ .null := by
    cases object with
    | null => exact yields_error
    | _ => exact fun _ _ => nofun
  exact hmembers.bind fun _ hobject => yields_ok (Argument.provided_bound _ _ hobject)

theorem objectsArgument_provided (objects : Json) :
    Yields (objectsArgument t objects) fun a => AllProvided a.value.sites := by
  unfold objectsArgument
  split
  · rename_i hlist
    refine yields_ok (Argument.provided_bound _ _ ?_)
    rintro rfl
    cases hlist
  · exact yields_error

theorem functionArgument_provided (function : String) (args : Json) :
    Yields (functionArgument t function args) fun a => AllProvided a.value.sites := by
  have hmembers : ∀ members, Json.object members ≠ .null := fun _ => nofun
  unfold functionArgument
  cases args with
  | null => exact yields_ok (Argument.provided_bound _ _ (hmembers []))
  | _ =>
      exact yields_true.bind fun members _ =>
        yields_ok (Argument.provided_bound _ _ (hmembers members))

theorem updatesArgument_provided (us : DistinctUpdates) :
    Yields (updatesArgument t us) fun a => AllProvided a.value.sites := by
  unfold updatesArgument
  split
  · exact yields_error
  · exact yields_true.bind fun _ _ => yields_ok (Argument.provided_bound _ _ nofun)

end

/-! ### Keys -/

/-- The key is not an object with null for a column of it. -/
def Table.KeyProvided (t : Table) (key : Json) : Prop :=
  ∀ column ∈ t.primaryKey, key.member? column ≠ some .null

/-- A bare value is the value of the only column of a key. -/
theorem bareKey_provided_iff (t : Table) {value : Json} (hvalue : value ≠ .null)
    (hmember : ∀ column, value.member? column = none) :
    Yields (match t.primaryKey with
      | [column] => .ok [(column, value)]
      | _ => .error (BuildError.primaryKeyMismatch t.qualified t.primaryKey []))
      fun values => (∀ v ∈ values, v.2 ≠ .null) ↔ t.KeyProvided value := by
  split
  · refine yields_ok (iff_of_true (List.forall_mem_singleton.mpr hvalue) ?_)
    intro column _
    rw [hmember]
    exact (Option.some_ne_none _).symm
  · exact yields_error

theorem keyValues_provided_iff (t : Table) (key : Json) :
    Yields (keyValues t key) fun values => (∀ v ∈ values, v.2 ≠ .null) ↔ t.KeyProvided key := by
  unfold keyValues
  cases key with
  | object members =>
      simp only
      split
      · rename_i hcolumns
        refine yields_ok ?_
        rw [List.forall_mem_map]
        refine forall₂_congr fun column hcolumn => not_congr ?_
        have hsome := List.all_eq_true.mp hcolumns.2 column hcolumn
        obtain ⟨value, hvalue⟩ := Option.isSome_iff_exists.mp hsome
        simp only [Json.member?, hvalue, Option.getD_some, Option.some.injEq]
      · exact yields_error
  | null => exact yields_error
  | _ => exact bareKey_provided_iff t (fun h => by cases h) fun _ => rfl

theorem keyBindingsOf_provided_iff (t : Table) (values : List (String × Json)) :
    Yields (keyBindingsOf t values) fun bs =>
      AllProvided (bs.map Prod.snd) ↔ ∀ v ∈ values, v.2 ≠ .null := by
  induction values with
  | nil => exact yields_ok (iff_of_true nofun nofun)
  | cons v rest ih =>
      obtain ⟨column, value⟩ := v
      have hbinding : Yields (keyBinding t column value) fun b =>
          b.2.Provided ↔ value ≠ .null := by
        unfold keyBinding
        split
        · have hrequired : ∀ scalar, isRequired (scalar ++ "!") = true :=
            fun scalar => isRequired_append scalar (by decide)
          exact yields_ok ⟨fun h => h (hrequired _), fun h _ => h⟩
        · exact yields_error
      refine hbinding.bind fun b hb => ih.bind fun bs hbs => yields_ok ?_
      unfold AllProvided at hbs ⊢
      rw [List.map_cons, List.forall_mem_cons, List.forall_mem_cons, hb, hbs]

/-- The columns of a key have their values, unless the key has null for one. -/
theorem primaryKeyBindings_provided_iff (t : Table) (key : Json) :
    Yields (primaryKeyBindings t key) fun bs =>
      AllProvided (bs.map Prod.snd) ↔ t.KeyProvided key := by
  unfold primaryKeyBindings
  split
  · exact yields_error
  · refine (keyValues_provided_iff t key).bind fun values hvalues => ?_
    exact fun bs hbs => (keyBindingsOf_provided_iff t values bs hbs).trans hvalues

theorem keyArguments_provided_iff (t : Table) (key : Json) :
    Yields (keyArguments t key) fun as =>
      AllProvided (argumentSites as) ↔ t.KeyProvided key := by
  refine (primaryKeyBindings_provided_iff t key).bind fun bs hbs => yields_ok ?_
  have hsites : argumentSites (bs.map fun b => ⟨b.1, .variable b.2⟩) = bs.map Prod.snd := by
    unfold argumentSites
    rw [List.flatMap_map]
    exact (List.map_eq_flatMap ..).symm
  rw [hsites]
  exact hbs

theorem keyColumnsArgument_provided_iff (t : Table) (key : Json) :
    Yields (keyColumnsArgument t key) fun a =>
      AllProvided a.value.sites ↔ t.KeyProvided key := by
  refine (primaryKeyBindings_provided_iff t key).bind fun bs hbs => yields_ok ?_
  have hsites : memberSites (bs.map fun b => (b.1, .variable b.2)) = bs.map Prod.snd :=
    memberSites_variables Prod.fst Prod.snd bs
  simp only [ArgumentValue.sites]
  rw [hsites]
  exact hbs

/-! ### Arguments of operations -/

/-- The key of an operation by key. -/
def RecordOperation.key? : RecordOperation → Option Json
  | .selectByKey key => some key
  | .insert _ _ => none
  | .updateByKey key _ => some key
  | .deleteByKey key => some key
  | .call _ _ _ => none

/-- The key that a request asks for a row by. -/
def Invocation.key? : Invocation → Option Json
  | .record op _ => op.key?
  | _ => none

section
variable (t : Table)

theorem RecordOperation.arguments_provided_iff (op : RecordOperation) :
    Yields (op.arguments t) fun as =>
      AllProvided (argumentSites as) ↔ ∀ key ∈ op.key?, t.KeyProvided key := by
  have hkey : ∀ key, (∀ k ∈ some key, t.KeyProvided k) ↔ t.KeyProvided key := by simp
  cases op with
  | selectByKey key =>
      simp only [key?, hkey]
      exact keyArguments_provided_iff t key
  | insert object conflict =>
      have hprovided := arguments_cons_provided (objectArgument_provided t object)
        (conflictArguments_provided t conflict)
      exact fun as has => iff_of_true (hprovided as has) nofun
  | updateByKey key ops =>
      simp only [key?, hkey]
      refine (keyColumnsArgument_provided_iff t key).bind fun a ha => ?_
      refine (ops.arguments_provided t).bind fun as has => yields_ok ?_
      rw [argumentSites_cons, ← ha]
      exact List.forall_mem_append.trans (and_iff_left has)
  | deleteByKey key =>
      simp only [key?, hkey]
      exact keyArguments_provided_iff t key
  | call type function args =>
      have hprovided := arguments_singleton_provided (functionArgument_provided t function args)
      exact fun as has => iff_of_true (hprovided as has) nofun

theorem ListOperation.arguments_provided (op : ListOperation) :
    Yields (op.arguments t) fun as => AllProvided (argumentSites as) := by
  cases op with
  | select c => exact c.arguments_provided t
  | call type function args c =>
      exact arguments_cons_provided (functionArgument_provided t function args)
        (c.arguments_provided t)

theorem BulkOperation.arguments_provided (op : BulkOperation) :
    Yields (op.arguments t) fun as => AllProvided (argumentSites as) := by
  cases op with
  | insert objects conflict =>
      exact arguments_cons_provided (objectsArgument_provided t objects)
        (conflictArguments_provided t conflict)
  | update filter ops =>
      exact arguments_cons_provided (whereArgument_provided t filter) (ops.arguments_provided t)
  | delete filter => exact arguments_singleton_provided (whereArgument_provided t filter)

theorem DistinctUpdates.arguments_provided (us : DistinctUpdates) :
    Yields (us.arguments t) fun as => AllProvided (argumentSites as) :=
  arguments_singleton_provided (updatesArgument_provided t us)

theorem AggregateOperation.arguments_provided (op : AggregateOperation) :
    Yields (op.arguments t) fun as => AllProvided (argumentSites as) := by
  cases op with
  | select c => exact c.arguments_provided t
  | call function args c =>
      exact arguments_cons_provided (functionArgument_provided t function args)
        (c.arguments_provided t)

end

/-! ### Selections -/

/-- The selection from a table has all required values. -/
def ProvidedSelection (t : TableName) (entries : List Entry) : Prop :=
  AllProvided (selectionSites t entries)

theorem ProvidedSelection.related {t : TableName} {n : Node} {entries : List Entry}
    (hn : AllProvided n.sites) (h : ProvidedSelection t entries) :
    ProvidedSelection t (.related n :: entries) := List.forall_mem_append.mpr ⟨hn, h⟩

theorem ProvidedSelection.columns {t : TableName} (names : List String) {entries : List Entry}
    (h : ProvidedSelection t entries) : ProvidedSelection t (names.map .column ++ entries) := by
  induction names with
  | nil => exact h
  | cons name rest ih => exact ih

theorem checkSelection_provided {t : Table} {entries : List Entry}
    (h : ProvidedSelection t.place entries) :
    Yields (checkSelection t entries) (ProvidedSelection t.place) := by
  intro es hes
  rw [checkSelection_self t entries es hes]
  exact h

theorem Aggregates.sites_provided (t : TableName) (a : Aggregates) : AllProvided (a.sites t) := by
  unfold Aggregates.sites
  split
  · exact nofun
  · rename_i c _
    refine List.forall_mem_append.mpr ⟨?_, ?_⟩
    · split
      · exact List.forall_mem_singleton.mpr fun _ => nofun
      · exact nofun
    · split
      · exact List.forall_mem_singleton.mpr fun _ => nofun
      · exact nofun

theorem aggregateSelection_provided {t : Table} (requested : Aggregates)
    {nodes : Option (Except BuildError (List Entry))}
    (h : ∀ selection ∈ nodes, Yields selection (ProvidedSelection t.place)) :
    Yields (aggregateSelection t requested nodes) (ProvidedSelection t.place) := by
  have haggregate := requested.sites_provided t.place
  refine yields_true.bind fun _ _ => ?_
  cases nodes with
  | none => exact yields_ok (List.forall_mem_append.mpr ⟨haggregate, nofun⟩)
  | some selection =>
      refine (h selection rfl).bind fun es hes => yields_ok ?_
      exact List.forall_mem_append.mpr ⟨haggregate, List.forall_mem_append.mpr ⟨hes, nofun⟩⟩

theorem relatedNode_provided {kind : NodeKind} {t : Table} {ending : String} {key : Option String}
    {relation : Except BuildError Relation} {arguments : Except BuildError (List Argument)}
    {selection : Except BuildError (List Entry)}
    (harguments : Yields arguments fun as => AllProvided (argumentSites as))
    (hselection : Yields selection (ProvidedSelection t.place)) :
    Yields (relatedNode kind t ending key relation arguments selection) fun n =>
      AllProvided n.sites := by
  intro n hn
  obtain ⟨r, as, es, -, has, hes, rfl⟩ := relatedNode_eq_ok hn
  exact List.forall_mem_append.mpr ⟨harguments as has, hselection es hes⟩

mutual

theorem Columns.resolve_provided : ∀ (columns : Columns) (t : Table),
    Yields (columns.resolve t) (ProvidedSelection t.place)
  | .listed [], t => by
      have hkey : ProvidedSelection t.place (t.primaryKey.map .column ++ []) :=
        .columns t.primaryKey nofun
      rw [List.append_nil] at hkey
      exact checkSelection_provided hkey
  | .listed (item :: rest), t =>
      (resolveItems_provided (item :: rest) t).bind fun _ hes => checkSelection_provided hes
  | .allExcept items, t => by
      unfold Columns.resolve
      split
      · exact (resolveRelated_provided items t).bind fun es hes =>
          checkSelection_provided (hes.columns _)
      · exact yields_error

theorem resolveItems_provided : ∀ (items : List Column) (t : Table),
    Yields (resolveItems t items) (ProvidedSelection t.place)
  | [], _ => yields_ok nofun
  | .field name :: rest, t => by
      unfold resolveItems
      split
      · exact yields_error
      · exact (resolveItems_provided rest t).bind fun es hes => yields_ok (hes.columns [name])
  | .related target name key reach :: rest, t => by
      refine (reach.resolve_provided t target name key).bind fun n hn => ?_
      exact (resolveItems_provided rest t).bind fun es hes => yields_ok (.related hn hes)

theorem resolveRelated_provided : ∀ (items : List Column) (t : Table),
    Yields (resolveRelated t items) (ProvidedSelection t.place)
  | [], _ => yields_ok nofun
  | .field _ :: rest, t => resolveRelated_provided rest t
  | .related target name key reach :: rest, t => by
      refine (reach.resolve_provided t target name key).bind fun n hn => ?_
      exact (resolveRelated_provided rest t).bind fun es hes => yields_ok (.related hn hes)

theorem Reach.resolve_provided : ∀ (reach : Reach) (parent target : Table)
    (name key : Option String),
    Yields (reach.resolve parent target name key) fun n => AllProvided n.sites
  | .one columns, _, target, _, _ =>
      relatedNode_provided (yields_ok nofun) (columns.resolve_provided target)
  | .many conditions columns, _, target, _, _ =>
      relatedNode_provided (conditions.arguments_provided target) (columns.resolve_provided target)
  | .aggregate conditions requested, _, target, _, _ =>
      relatedNode_provided (conditions.arguments_provided target)
        (aggregateSelection_provided requested nofun)
  | .aggregateWithNodes conditions requested columns, _, target, _, _ =>
      relatedNode_provided (conditions.arguments_provided target)
        (aggregateSelection_provided requested fun selection hselection => by
          cases hselection
          exact columns.resolve_provided target)

end

/-! ### Nodes -/

theorem MutationOutput.selection_provided (output : MutationOutput) (t : Table) :
    Yields (output.selection t) (ProvidedSelection t.place) := by
  cases output with
  | returning columns =>
      refine (columns.resolve_provided t).bind fun es hes => yields_ok ?_
      exact List.forall_mem_append.mpr ⟨hes, nofun⟩
  | affectedRows => exact yields_ok nofun
  | returningWithRows columns =>
      refine (columns.resolve_provided t).bind fun es hes => yields_ok ?_
      exact List.forall_mem_append.mpr ⟨hes, nofun⟩

section
variable {kind : NodeKind} {t : Table} {field : String} {P : Prop}
  {arguments : Except BuildError (List Argument)} {selection : Except BuildError (List Entry)}
  (hselection : Yields selection (ProvidedSelection t.place))
include hselection

theorem rootNode_provided_iff
    (harguments : Yields arguments fun as => AllProvided (argumentSites as) ↔ P) :
    Yields (rootNode kind t field arguments selection) fun n => AllProvided n.sites ↔ P := by
  intro n hn
  obtain ⟨as, es, has, hes, rfl⟩ := rootNode_eq_ok hn
  have hall : AllProvided (argumentSites as ++ selectionSites t.place es) ↔
      AllProvided (argumentSites as) :=
    List.forall_mem_append.trans (and_iff_left (hselection es hes))
  exact hall.trans (harguments as has)

theorem rootNode_provided
    (harguments : Yields arguments fun as => AllProvided (argumentSites as)) (hP : P) :
    Yields (rootNode kind t field arguments selection) fun n => AllProvided n.sites ↔ P :=
  rootNode_provided_iff hselection fun as has => iff_of_true (harguments as has) hP

end

/-- A node that is built has all required values, unless it was asked for by a key with null for a
column of it. -/
theorem Invocation.node_provided_iff (i : Invocation) (t : Table) :
    Yields (i.node t) fun n => AllProvided n.sites ↔ ∀ key ∈ i.key?, t.KeyProvided key := by
  cases i with
  | record op columns =>
      exact rootNode_provided_iff (columns.resolve_provided t) (op.arguments_provided_iff t)
  | list op columns =>
      exact rootNode_provided (columns.resolve_provided t) (op.arguments_provided t) nofun
  | bulk op output =>
      exact rootNode_provided (output.selection_provided t) (op.arguments_provided t) nofun
  | perUpdate updates output =>
      exact rootNode_provided (output.selection_provided t) (updates.arguments_provided t) nofun
  | aggregate op requested nodes =>
      refine rootNode_provided (aggregateSelection_provided requested ?_)
        (op.arguments_provided t) nofun
      intro selection hselection
      obtain ⟨columns, -, rfl⟩ := Option.map_eq_some_iff.mp hselection
      exact columns.resolve_provided t
  | count op =>
      exact rootNode_provided (aggregateSelection_provided .justCount nofun)
        (op.arguments_provided t) nofun
  | function op f columns =>
      exact rootNode_provided (aggregateSelection_provided _ nofun) (op.arguments_provided t) nofun

end TableGraph
