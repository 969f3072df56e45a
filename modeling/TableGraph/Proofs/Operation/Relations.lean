import Mathlib.Data.List.Perm.Basic
import TableGraph.Proofs.Operation.Building
import TableGraph.Proofs.Table.Lookups
import TableGraph.Sample.Tables

/-! # Relations that are followed

Which relation of a table is followed when another table is asked for.

* A relation fits if it has the cardinality that is asked for and leads to the table
  (`Relation.Fits`).  The search for one goes by rules (`SearchEnds`): without a name the only
  relation that fits is found, with a name that relation or none, whatever else fits;
* if no two relations of a table share a name, the search ends by these rules, and by no others
  (`findRelation_eq_iff`);
* the node of a relation depends on the name only through the search (`Reach.resolve_eq`).  So a
  name may be left out where one relation fits (`Reach.resolve_by_search`). -/

namespace TableGraph

/-! ### Rules -/

/-- The relation has the cardinality and leads to the table. -/
def Relation.Fits (r : Relation) (cardinality : Cardinality) (target : Table) : Prop :=
  r.cardinality = cardinality ∧ r.target = target.place

instance (r : Relation) (cardinality : Cardinality) (target : Table) :
    Decidable (r.Fits cardinality target) :=
  inferInstanceAs (Decidable (_ ∧ _))

/-- How the search for a relation of `parent` to `target` ends, with a name for it or without. -/
inductive SearchEnds (parent target : Table) (cardinality : Cardinality) :
    Option String → Except BuildError Relation → Prop where
  /-- Without a name, the only relation that fits is found. -/
  | only {r : Relation} (hr : r ∈ parent.relations) (hfits : r.Fits cardinality target)
      (honly : ∀ s ∈ parent.relations, s.Fits cardinality target → s = r) :
    SearchEnds parent target cardinality none (.ok r)
  /-- No relation fits. -/
  | missing (h : ∀ r ∈ parent.relations, ¬ r.Fits cardinality target) :
    SearchEnds parent target cardinality none
      (.error (.relationNotFound parent.qualified target.qualified))
  /-- More than one relation fits; their names are reported in the order of the table. -/
  | several {r s : Relation} (hr : r ∈ parent.relations) (hs : s ∈ parent.relations) (hne : r ≠ s)
      (hfits : r.Fits cardinality target) (hfits' : s.Fits cardinality target) :
    SearchEnds parent target cardinality none
      (.error (.ambiguousRelation parent.qualified target.qualified
        ((parent.relations.filter (·.Fits cardinality target)).map Relation.name)))
  /-- The relation of the name fits. -/
  | named {r : Relation} (hr : r ∈ parent.relations) (hfits : r.Fits cardinality target) :
    SearchEnds parent target cardinality (some r.name) (.ok r)
  /-- No relation has the name. -/
  | unknown {name : String} (h : ∀ r ∈ parent.relations, r.name ≠ name) :
    SearchEnds parent target cardinality (some name)
      (.error (.relationNotFound parent.qualified target.qualified))
  /-- The relation of the name does not fit. -/
  | mismatched {r : Relation} (hr : r ∈ parent.relations) (hfits : ¬ r.Fits cardinality target) :
    SearchEnds parent target cardinality (some r.name)
      (.error (.relationMismatch parent.qualified r.name target.qualified))

/-! ### Searches -/

section
variable {parent target : Table} {cardinality : Cardinality} {r : Relation}

theorem findRelation_none :
    findRelation parent target none cardinality =
      match parent.relations.filter (·.Fits cardinality target) with
      | [r] => .ok r
      | [] => .error (.relationNotFound parent.qualified target.qualified)
      | candidates => .error (.ambiguousRelation parent.qualified target.qualified
          (candidates.map Relation.name)) := by
  have hfits : (fun r : Relation => r.cardinality == cardinality && r.target == target.place) =
      fun r => decide (r.Fits cardinality target) := by
    funext r
    rw [Bool.eq_iff_iff, Bool.and_eq_true, beq_iff_eq, beq_iff_eq, decide_eq_true_iff]
    rfl
  rewrite [← hfits]
  rfl

theorem findRelation_some (name : String) :
    findRelation parent target (some name) cardinality =
      match parent.relation? name with
      | none => .error (.relationNotFound parent.qualified target.qualified)
      | some r =>
        if r.Fits cardinality target then .ok r
        else .error (.relationMismatch parent.qualified name target.qualified) := by
  unfold findRelation Relation.Fits
  simp only [Bool.and_eq_true, beq_iff_eq]
  rfl

/-- Among relations of different names, one is the only one that fits if nothing else is left when
those that do not fit are taken away. -/
theorem filter_eq_singleton_iff (hnames : (parent.relations.map Relation.name).Nodup) :
    parent.relations.filter (·.Fits cardinality target) = [r] ↔
      r ∈ parent.relations ∧ r.Fits cardinality target ∧
        ∀ s ∈ parent.relations, s.Fits cardinality target → s = r := by
  have hnodup : (parent.relations.filter (·.Fits cardinality target)).Nodup :=
    hnames.of_map.filter _
  rw [← List.perm_singleton, List.perm_ext_iff_of_nodup hnodup (List.nodup_singleton r)]
  simp only [List.mem_filter, decide_eq_true_iff, List.mem_singleton]
  constructor
  · intro h
    obtain ⟨hr, hfits⟩ := (h r).mpr rfl
    exact ⟨hr, hfits, fun s hs hs' => (h s).mp ⟨hs, hs'⟩⟩
  · rintro ⟨hr, hfits, honly⟩ s
    constructor
    · rintro ⟨hs, hs'⟩
      exact honly s hs hs'
    · rintro rfl
      exact ⟨hr, hfits⟩

/-- A search ends by the rules. -/
theorem searchEnds_findRelation (hnames : (parent.relations.map Relation.name).Nodup)
    (name : Option String) :
    SearchEnds parent target cardinality name (findRelation parent target name cardinality) := by
  cases name with
  | none =>
      have hmem : ∀ s ∈ parent.relations.filter (·.Fits cardinality target),
          s ∈ parent.relations ∧ s.Fits cardinality target := by simp
      rw [findRelation_none]
      cases hfilter : parent.relations.filter (·.Fits cardinality target) with
      | nil =>
          exact .missing fun r hr hfits =>
            List.filter_eq_nil_iff.mp hfilter r hr (decide_eq_true hfits)
      | cons r rest =>
          rw [hfilter, List.forall_mem_cons] at hmem
          cases rest with
          | nil =>
              obtain ⟨hr, hfits, honly⟩ := (filter_eq_singleton_iff hnames).mp hfilter
              exact .only hr hfits honly
          | cons s more =>
              rw [List.forall_mem_cons] at hmem
              obtain ⟨⟨hr, hfits⟩, ⟨hs, hfits'⟩, -⟩ := hmem
              -- No relation is there twice, so the first two that fit are different.
              have hnodup : (r :: s :: more).Nodup := hfilter ▸ hnames.of_map.filter _
              have hne : r ≠ s := fun h => (List.nodup_cons.mp hnodup).1 (h ▸ List.mem_cons_self)
              have hends := SearchEnds.several hr hs hne hfits hfits'
              rwa [hfilter] at hends
  | some name =>
      rw [findRelation_some]
      cases hrelation : parent.relation? name with
      | none => exact .unknown (Table.relation?_eq_none_iff.mp hrelation)
      | some r =>
          obtain ⟨hr, rfl⟩ := (isFirst_iff_mem hnames).mp (Table.relation?_eq_some_iff.mp hrelation)
          by_cases hfits : r.Fits cardinality target
          · simp only [if_pos hfits]
            exact .named hr hfits
          · simp only [if_neg hfits]
            exact .mismatched hr hfits

theorem findRelation_eq_iff (hnames : (parent.relations.map Relation.name).Nodup)
    (name : Option String) (result : Except BuildError Relation) :
    findRelation parent target name cardinality = result ↔
      SearchEnds parent target cardinality name result := by
  have hfound : ∀ r ∈ parent.relations, parent.relation? r.name = some r := fun r hr =>
    Table.relation?_eq_some_iff.mpr ((isFirst_iff_mem hnames).mpr ⟨hr, rfl⟩)
  constructor
  · rintro rfl
    exact searchEnds_findRelation hnames name
  · intro h
    cases h with
    | only hr hfits honly =>
        rw [findRelation_none, (filter_eq_singleton_iff hnames).mpr ⟨hr, hfits, honly⟩]
    | missing h =>
        have hfilter := List.filter_eq_nil_iff.mpr fun r hr hfits => h r hr (of_decide_eq_true hfits)
        rw [findRelation_none, hfilter]
    | several hr hs hne hfits hfits' =>
        have hmem : ∀ s ∈ parent.relations, s.Fits cardinality target →
            s ∈ parent.relations.filter (·.Fits cardinality target) := fun s hs hfits =>
          List.mem_filter.mpr ⟨hs, decide_eq_true hfits⟩
        have hr' := hmem _ hr hfits
        have hs' := hmem _ hs hfits'
        rw [findRelation_none]
        split
        · rename_i hfilter
          rw [hfilter, List.mem_singleton] at hr' hs'
          exact absurd (hr'.trans hs'.symm) hne
        · rename_i hfilter
          exact absurd (hfilter ▸ hr') List.not_mem_nil
        · rfl
    | named hr hfits =>
        rw [findRelation_some, hfound _ hr]
        exact if_pos hfits
    | unknown h => rw [findRelation_some, Table.relation?_eq_none_iff.mpr h]
    | mismatched hr hfits =>
        rw [findRelation_some, hfound _ hr]
        exact if_neg hfits

end

/-! ### Nodes -/

namespace Reach

/-- The kind of the node. -/
def kind : Reach → NodeKind
  | .one _ => .relatedOne
  | .many _ _ => .relatedMany
  | .aggregate _ _ => .relatedAggregate
  | .aggregateWithNodes _ _ _ => .relatedAggregate

/-- What the field of the node has behind the name of the relation. -/
def ending : Reach → String
  | .one _ => ""
  | .many _ _ => ""
  | .aggregate _ _ => "_aggregate"
  | .aggregateWithNodes _ _ _ => "_aggregate"

/-- The arguments of the node. -/
def arguments (target : Table) : Reach → Except BuildError (List Argument)
  | .one _ => .ok []
  | .many conditions _ => conditions.arguments target
  | .aggregate conditions _ => conditions.arguments target
  | .aggregateWithNodes conditions _ _ => conditions.arguments target

/-- The selection of the node. -/
def selection (target : Table) : Reach → Except BuildError (List Entry)
  | .one columns => columns.resolve target
  | .many _ columns => columns.resolve target
  | .aggregate _ requested => aggregateSelection target requested none
  | .aggregateWithNodes _ requested columns =>
    aggregateSelection target requested (some (columns.resolve target))

/-- The name of a relation counts in the search alone. -/
theorem resolve_eq (parent target : Table) (name key : Option String) (reach : Reach) :
    reach.resolve parent target name key =
      relatedNode reach.kind target reach.ending key
        (findRelation parent target name reach.cardinality) (reach.arguments target)
        (reach.selection target) := by
  cases reach <;> simp only [resolve] <;> rfl

/-- Without a name, exactly the only relation of the parent with the cardinality and the target is
followed, and the result, a node or an error, is that of its name; where none or several would do,
the search fails, and reports the names of the several in the order of the parent. With a name
exactly the relation of that name is followed if it has the cardinality and the target, whatever
others have. A search that fails is the result, and a relation that is found gives the node its
field. -/
theorem resolve_by_search {parent : Table} (hnames : (parent.relations.map Relation.name).Nodup)
    (target : Table) (key : Option String) (reach : Reach) :
    (∀ name result, findRelation parent target name reach.cardinality = result ↔
      SearchEnds parent target reach.cardinality name result) ∧
    (∀ r, SearchEnds parent target reach.cardinality none (.ok r) →
      reach.resolve parent target none key = reach.resolve parent target (some r.name) key) ∧
    (∀ name e, SearchEnds parent target reach.cardinality name (.error e) →
      reach.resolve parent target name key = .error e) ∧
    ∀ name r, SearchEnds parent target reach.cardinality name (.ok r) →
      reach.resolve parent target name key = (do
        let arguments ← reach.arguments target
        let selection ← reach.selection target
        pure ⟨reach.kind, target, r.name ++ reach.ending, key, arguments, selection⟩) := by
  have hiff : ∀ name result, findRelation parent target name reach.cardinality = result ↔
      SearchEnds parent target reach.cardinality name result := findRelation_eq_iff hnames
  refine ⟨hiff, ?_, ?_, ?_⟩
  · intro r h
    have hnamed : SearchEnds parent target reach.cardinality (some r.name) (.ok r) := by
      cases h with
      | only hr hfits => exact .named hr hfits
    rw [resolve_eq, resolve_eq, (hiff _ _).mpr h, (hiff _ _).mpr hnamed]
  · intro name e h
    rw [resolve_eq, (hiff _ _).mpr h]
    rfl
  · intro name r h
    rw [resolve_eq, (hiff _ _).mpr h]
    rfl

/-- Reviewers have one boss among the authors, who is followed with or without a name, and two
relations to many articles, of which one has to be named. -/
theorem resolve_by_search_of_reviewers :
    let boss : Reach := .one (.listed [.field "name"])
    let articles : Reach := .aggregate .none .justCount
    let node : Node := ⟨.relatedOne, Sample.authors, "boss", some "chief", [], [.column "name"]⟩
    (Sample.reviewers.relations.map Relation.name).Nodup ∧
    boss.resolve Sample.reviewers Sample.authors none (some "chief") = .ok node ∧
    boss.resolve Sample.reviewers Sample.authors none (some "chief") =
      boss.resolve Sample.reviewers Sample.authors (some "boss") (some "chief") ∧
    articles.resolve Sample.reviewers Sample.articles none none =
      .error (.ambiguousRelation "reviewers" "articles" ["articles", "reviewed_articles"]) := by
  intro boss articles node
  have hnames : (Sample.reviewers.relations.map Relation.name).Nodup := by decide
  have hboss : SearchEnds Sample.reviewers Sample.authors .one none
      (.ok ⟨"boss", .one, Sample.authorsPlace⟩) := .only (by decide) (by decide) (by decide)
  have hseveral : SearchEnds Sample.reviewers Sample.articles .many none
      (.error (.ambiguousRelation "reviewers" "articles" ["articles", "reviewed_articles"])) :=
    .several (r := ⟨"articles", .many, Sample.articlesPlace⟩)
      (s := ⟨"reviewed_articles", .many, Sample.articlesPlace⟩)
      (by decide) (by decide) (by decide) (by decide) (by decide)
  obtain ⟨-, hone, -, hnode⟩ :=
    resolve_by_search hnames Sample.authors (some "chief") boss
  obtain ⟨-, -, hfailed, -⟩ := resolve_by_search hnames Sample.articles none articles
  exact ⟨hnames, hnode none _ hboss, hone _ hboss, hfailed none _ hseveral⟩

end Reach

end TableGraph
