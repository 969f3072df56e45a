import TableGraph.Proofs.Document.Writing

/-! # Compiling in one pass and in two phases

Compiling binds the variables while it writes. The two phases bind all sites first, one after
another, and then print the tree with their names.

* Both give the same text (`query_eq`) and the same variables (`variables_eq`);
* the header declares the names of the sites, and the body has each of them once
  (`fieldSites_operation`). -/

namespace TableGraph

open GraphQL

namespace Document

theorem fieldSites_outline (d : Document) :
    fieldSites (d.roots.map Node.outline) = d.sites := by
  unfold sites
  induction d.roots with
  | nil => rfl
  | cons n rest ih =>
      simp only [List.map_cons, fieldSites, List.flatMap_cons]
      rw [n.sites_outline, ih]

theorem length_siteNames (d : Document) : d.siteNames.length = d.sites.length :=
  Variables.length_namesOf _ _

/-! ### One pass -/

/-- The draft of all roots: the tree printed with the names of the sites, and the variables of all
sites bound one after another. -/
theorem roots_draft (d : Document) :
    Draft.empty.roots "" d.roots =
      ⟨" ".intercalate (d.operation.roots.map QueryField.text),
        Variables.empty.bindAll d.sites⟩ := by
  have hnames : (Variables.empty.bindAll d.sites).names = d.siteNames := by
    rw [Variables.names_bindAll]
    rfl
  have hagree := agrees_names (Variables.empty.bindAll d.sites)
  rw [hnames, ← d.fieldSites_outline] at hagree
  rw [Draft.roots_eq Draft.empty "" d.roots hagree, chained_empty, d.fieldSites_outline]
  simp only [Draft.after, Draft.empty, String.empty_append]
  rfl

theorem entries_draft (d : Document) :
    (Variables.empty.bindAll d.sites).entries =
      List.zipWith (fun name b => ⟨name, b.type, b.value⟩) d.siteNames d.sites := by
  rw [Variables.entries_bindAll]
  rfl

theorem declarationsText_zipWith {names : List String} {sites : List Binding}
    (h : names.length = sites.length) :
    declarationsText (List.zipWith (fun name b => ⟨name, b.type⟩) names sites) =
      if sites = [] then ""
      else "(" ++ ", ".intercalate
        (List.zipWith (fun name b => "$" ++ name ++ ": " ++ b.type) names sites) ++ ")" := by
  cases sites with
  | nil => simp [declarationsText]
  | cons b rest =>
      cases names with
      | nil => exact absurd h (by simp)
      | cons name names =>
          rw [if_neg (List.cons_ne_nil b rest)]
          simp only [List.zipWith_cons_cons, declarationsText, List.map_cons, List.map_zipWith]
          rfl

theorem header_eq (d : Document) :
    (Variables.empty.bindAll d.sites).header = declarationsText d.operation.declarations := by
  have hempty : (Variables.empty.bindAll d.sites).isEmpty = true ↔ d.sites = [] := by
    unfold Variables.isEmpty
    rw [List.isEmpty_iff, ← List.length_eq_zero_iff, ← List.length_eq_zero_iff]
    have hsize := Variables.empty.size_bindAll d.sites
    unfold Variables.size at hsize
    rw [hsize]
    exact Eq.to_iff (congrArg (· = 0) (Nat.zero_add _))
  unfold operation Variables.header Variables.declarations
  rw [declarationsText_zipWith d.length_siteNames, d.entries_draft, List.map_zipWith]
  simp only [hempty]

/-- The text of a document is that of its syntax. -/
theorem query_eq (d : Document) : d.compile.query = d.operation.text := by
  unfold compile Operation.text
  simp only [d.roots_draft, d.header_eq]
  rfl

theorem variables_eq (d : Document) :
    d.compile.variables = List.zipWith (fun name b => (name, b.value)) d.siteNames d.sites := by
  unfold compile
  simp only [d.roots_draft, Variables.values]
  rw [d.entries_draft, List.map_zipWith]

theorem keys_variables (d : Document) : OrderedMap.keys d.compile.variables = d.siteNames := by
  unfold OrderedMap.keys
  rw [d.variables_eq, List.map_zipWith]
  exact List.map_zip_eq_zipWith.symm.trans (List.map_fst_zip (Nat.le_of_eq d.length_siteNames))

theorem fieldSites_operation (d : Document) : fieldSites d.operation.roots = d.siteNames := by
  unfold operation
  simp only
  rw [fieldSites_fillFields, d.fieldSites_outline, ← d.length_siteNames]
  exact map_getD_range' _ _

/-- Compiling in one pass is binding all sites of the document one after another, and printing the
tree with their names: one entry of the variables and one declaration for each site, in order and
under different names, and each name is referenced once. -/
theorem compile_two_phases (d : Document) :
    let names := Variables.empty.namesOf d.sites
    let body := fillFields (fun i => names.getD i "") 0 (d.roots.map Node.outline)
    names.length = d.sites.length ∧
    names.Nodup ∧
    d.compile.variables = List.zipWith (fun name b => (name, b.value)) names d.sites ∧
    d.compile.query =
      d.type.keyword ++ " " ++ d.type.name ++
        (if d.sites = [] then ""
          else "(" ++ ", ".intercalate
            (List.zipWith (fun name b => "$" ++ name ++ ": " ++ b.type) names d.sites) ++ ")") ++
        " \x7b " ++ " ".intercalate (body.map QueryField.text) ++ " \x7d" ∧
    fieldSites (d.roots.map Node.outline) = d.sites ∧
    fieldSites body = names ∧
    (∀ name ∈ d.compile.variables.map Prod.fst, (fieldSites body).count name = 1) ∧
    ∀ name ∈ fieldSites body, name ∈ d.compile.variables.map Prod.fst := by
  intro names body
  have hlength : names.length = d.sites.length := d.length_siteNames
  have hnodup : names.Nodup := Variables.nodup_namesOf_empty d.sites
  have hbody : fieldSites body = names := d.fieldSites_operation
  have hfst : d.compile.variables.map Prod.fst = names := by
    rw [d.variables_eq, List.map_zipWith]
    exact List.map_zip_eq_zipWith.symm.trans (List.map_fst_zip (Nat.le_of_eq hlength))
  refine ⟨hlength, hnodup, d.variables_eq, ?_, d.fieldSites_outline, hbody, ?_, ?_⟩
  · rw [d.query_eq, ← declarationsText_zipWith hlength]
    rfl
  · intro name hname
    rw [hbody]
    rw [hnodup.count, if_pos (hfst ▸ hname)]
  · intro name hname
    rwa [hfst, ← hbody]

end Document

end TableGraph
