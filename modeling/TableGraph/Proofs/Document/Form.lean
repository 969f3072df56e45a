import TableGraph.Document.Form
import TableGraph.Proofs.Document.Filling
import TableGraph.Proofs.Document.TwoPhase
import TableGraph.Proofs.GraphQL.Renaming

/-! # Documents of one form

Documents that differ in their values alone have the same text and the same names of variables.

* The outlines of a node and of its form differ in the values at their sites only
  (`Node.map_outline_form`);
* the name of a site depends on the bases of the sites up to it, and on no value
  (`Variables.namesOf_congr`), so the whole syntax with its names depends on the form alone
  (`Document.operation_form`);
* nodes of one form get the same aliases (`Document.form_attemptAll`). -/

namespace TableGraph

open GraphQL

/-! ### Outlines -/

mutual

theorem ArgumentValue.map_outline_form : ∀ v : ArgumentValue,
    v.form.outline.map Binding.form = v.outline.map Binding.form
  | .variable _ => rfl
  | .object entries => by
      simp only [ArgumentValue.form, ArgumentValue.outline, Value.map]
      rw [mapValues_outlineMembers_form entries]

theorem mapValues_outlineMembers_form : ∀ entries : List (String × ArgumentValue),
    mapValues Binding.form (outlineMembers (formMembers entries)) =
      mapValues Binding.form (outlineMembers entries)
  | [] => rfl
  | (name, v) :: rest => by
      simp only [formMembers, outlineMembers, mapValues]
      rw [v.map_outline_form, mapValues_outlineMembers_form rest]

end

theorem mapValues_outlineArguments_form (arguments : List Argument) :
    mapValues Binding.form (outlineArguments (arguments.map Argument.form)) =
      mapValues Binding.form (outlineArguments arguments) := by
  induction arguments with
  | nil => rfl
  | cons a rest ih =>
      simp only [List.map_cons, outlineArguments, mapValues, Argument.form]
      rw [a.value.map_outline_form, ih]

theorem mapFields_outlineCount_form (t : TableName) (a : Aggregates) :
    mapFields Binding.form (outlineCount t a.form.count) =
      mapFields Binding.form (outlineCount t a.count) := by
  unfold Aggregates.form
  cases a.count with
  | none => rfl
  | some c =>
      cases c with
      | mk columns distinct => cases columns <;> cases distinct <;> rfl

theorem mapFields_append {ν μ : Type} (r : ν → μ) (first second : List (QueryField ν)) :
    mapFields r (first ++ second) = mapFields r first ++ mapFields r second := by
  simp only [mapFields_eq_map, List.map_append]

mutual

theorem Node.map_outline_form : ∀ n : Node,
    n.form.outline.map Binding.form = n.outline.map Binding.form
  | ⟨_, table, _, _, arguments, selection⟩ => by
      simp only [Node.form, Node.outline, QueryField.map]
      rw [mapValues_outlineArguments_form, mapFields_outlineSelection_form table.place selection]

theorem Entry.map_outline_form : ∀ (t : TableName) (e : Entry),
    (e.form.outline t).map Binding.form = (e.outline t).map Binding.form
  | _, .column _ => rfl
  | _, .related n => n.map_outline_form
  | t, .returning selection => by
      simp only [Entry.form, Entry.outline, QueryField.map]
      rw [mapFields_outlineSelection_form t selection]
  | _, .affectedRows => rfl
  | t, .aggregate requested => by
      simp only [Entry.form, Entry.outline, QueryField.map, mapFields_append]
      rw [mapFields_outlineCount_form]
      rfl
  | t, .nodes selection => by
      simp only [Entry.form, Entry.outline, QueryField.map]
      rw [mapFields_outlineSelection_form t selection]

theorem mapFields_outlineSelection_form : ∀ (t : TableName) (entries : List Entry),
    mapFields Binding.form (outlineSelection t (formSelection entries)) =
      mapFields Binding.form (outlineSelection t entries)
  | _, [] => rfl
  | t, e :: rest => by
      simp only [formSelection, outlineSelection, mapFields]
      rw [e.map_outline_form t, mapFields_outlineSelection_form t rest]

end

/-! ### Names and aliases -/

theorem Node.kind_form (n : Node) : n.form.kind = n.kind := by
  cases n
  rfl

theorem Node.alias_form (n : Node) : n.form.alias = n.alias := by
  cases n
  rfl

theorem Node.form_aliased (n : Node) (key : Option String) :
    ({ n with «alias» := key } : Node).form = { n.form with «alias» := key } := by
  cases n
  rfl

/-- The names of sites depend on what their names are made from, on the names in use and on the
numbers that were tried. -/
theorem Variables.namesOf_congr {vs vs' : Variables} (hnames : vs.names = vs'.names)
    (hnext : vs.next = vs'.next) {sites sites' : List Binding}
    (h : sites.map Binding.base = sites'.map Binding.base) :
    vs.namesOf sites = vs'.namesOf sites' := by
  induction sites generalizing vs vs' sites' with
  | nil =>
      cases sites' with
      | nil => rfl
      | cons _ _ => cases h
  | cons b rest ih =>
      cases sites' with
      | nil => cases h
      | cons b' rest' =>
          obtain ⟨hbase, hrest⟩ := List.cons.inj h
          have hname :
              (vs.bind b.base b.type b.value).1 = (vs'.bind b'.base b'.type b'.value).1 := by
            simp only [bind, nextNumber, hbase, hnames, hnext]
          simp only [namesOf]
          rw [hname, ih _ _ hrest]
          · rw [names_bind, names_bind, hname, hnames]
          · simp only [bind, nextNumber, hbase, hnames, hnext]

namespace Document

theorem mapFields_roots_form (d : Document) :
    mapFields Binding.form (d.form.roots.map Node.outline) =
      mapFields Binding.form (d.roots.map Node.outline) := by
  simp only [form, mapFields_eq_map, List.map_map]
  exact List.map_congr_left fun n _ => n.map_outline_form

theorem sites_form (d : Document) : d.form.sites.map Binding.form = d.sites.map Binding.form := by
  rw [← d.form.fieldSites_outline, ← d.fieldSites_outline, ← fieldSites_mapFields,
    ← fieldSites_mapFields, d.mapFields_roots_form]

theorem siteNames_form (d : Document) : d.form.siteNames = d.siteNames := by
  have hbases := congrArg (List.map Binding.base) d.sites_form
  rw [List.map_map, List.map_map] at hbases
  exact Variables.namesOf_congr rfl rfl hbases

/-- The syntax of a document with its names depends on no value. -/
theorem operation_form (d : Document) : d.form.operation = d.operation := by
  have htypes := congrArg (List.map Binding.type) d.sites_form
  rw [List.map_map, List.map_map] at htypes
  have hdeclared : ∀ sites : List Binding,
      List.zipWith (fun name b => Declaration.mk name b.type) d.siteNames sites =
        List.zipWith Declaration.mk d.siteNames (sites.map (Binding.type ∘ Binding.form)) :=
    fun sites => List.zipWith_map_right.symm
  have hfilled : ∀ fields : List (QueryField Binding),
      fillFields (fun i => d.siteNames.getD i "") 0 fields =
        fillFields (fun i => d.siteNames.getD i "") 0 (mapFields Binding.form fields) :=
    fun fields => (fillFields_mapFields _ _ 0 fields).symm
  unfold operation
  rw [d.siteNames_form, hdeclared d.form.sites, hdeclared d.sites, htypes,
    hfilled (d.form.roots.map _), hfilled (d.roots.map _), d.mapFields_roots_form]
  rfl

/-- The text of a document and the names of its variables depend on its form alone. -/
theorem compile_form (d : Document) :
    d.form.compile.withoutValues = d.compile.withoutValues := by
  unfold Compiled.withoutValues
  rw [query_eq, query_eq, keys_variables, keys_variables, d.operation_form, d.siteNames_form]

/-! ### Filling -/

theorem aliases_form (d : Document) : d.form.aliases = d.aliases := by
  unfold aliases form
  rw [List.filterMap_map]
  exact congrArg (List.filterMap · d.roots) (funext Node.alias_form)

theorem form_concat (d : Document) (n : Node) :
    ({ d with roots := d.roots ++ [n] } : Document).form =
      { d.form with roots := d.form.roots ++ [n.form] } := by
  simp only [form, List.map_append, List.map_singleton]

theorem push_form (d : Document) (n : Node) :
    d.form.push n.form = (d.push n).map fun added => (added.1, added.2.form) := by
  have hfree : d.form.freeAlias = d.freeAlias := by
    unfold freeAlias
    rw [d.aliases_form, show d.form.roots.length = d.roots.length from List.length_map _]
  unfold push
  rw [d.aliases_form, hfree, n.kind_form, n.alias_form, show d.form.type = d.type from rfl]
  split
  · cases n.alias with
    | none =>
        have haliased := n.form_aliased (some d.freeAlias)
        unfold Node.withAlias
        rw [← haliased]
        exact congrArg Except.ok (congrArg _ (d.form_concat (n.withAlias d.freeAlias)).symm)
    | some key =>
        simp only
        split
        · rfl
        · exact congrArg Except.ok (congrArg _ (d.form_concat n).symm)
  · rfl

theorem single_form (n : Node) :
    single n.form = (single n).map fun added => (added.1, added.2.form) := by
  unfold single
  rw [n.kind_form]
  cases n.kind.type? with
  | none => rfl
  | some type => exact push_form (empty type) n

theorem attempt_form (d : Document) (n : Node) :
    (d.form.attempt n.form).2 = (d.attempt n).2.form := by
  unfold attempt
  rw [d.push_form]
  cases d.push n <;> rfl

theorem attemptAll_form (d : Document) (nodes : List Node) :
    d.form.attemptAll (nodes.map Node.form) = (d.attemptAll nodes).form := by
  induction nodes generalizing d with
  | nil => rfl
  | cons n rest ih =>
      rw [List.map_cons, attemptAll, d.attempt_form, ih]
      rfl

end Document

end TableGraph
