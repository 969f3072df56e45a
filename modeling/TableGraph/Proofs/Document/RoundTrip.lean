import TableGraph.Proofs.Document.Push
import TableGraph.Proofs.Document.TwoPhase
import TableGraph.Proofs.GraphQL.Reading
import TableGraph.Proofs.Operation.SoundNodes
import TableGraph.Sample.Tables

/-! # Reading compiled documents

A compiled document is read back as the tree that was compiled, if all names that tables and
requests bring with them are names of the query language (`round_trip`).

* A document is filled root by root with nodes that were built, under aliases that are names
  (`Document.Built`); hence its syntax is well-formed (`wellFormed_operation`);
* well-formed syntax is derivable from its text, and nothing else is derivable from it. -/

namespace TableGraph

open GraphQL

/-- A node that was built from a table and a request of names, perhaps under a name of its own. -/
inductive Node.Built : Node → Prop where
  | node {t : Table} {i : Invocation} {n : Node} (ht : t.Named) (hi : i.Named)
      (h : i.node t = .ok n) : Node.Built n
  | withAlias {n : Node} {key : String} (hn : Node.Built n) (hkey : isName key = true) :
    Node.Built (n.withAlias key)

theorem Node.Built.sound {n : Node} (h : n.Built) : n.outline.Sound := by
  induction h with
  | node ht hi h => exact Invocation.node_sound ht hi _ h
  | withAlias _ hkey ih => exact Node.withAlias_sound ih hkey

namespace Document

/-- A document whose roots were built and added one after another. -/
inductive Built : Document → Prop where
  | empty (type : OperationType) : Built (.empty type)
  | push {d d' : Document} {n : Node} {key : String} (hd : Built d) (hn : n.Built)
      (h : d.push n = .ok (key, d')) : Built d'

variable {d d' : Document}

theorem isName_push {n : Node} {key : String} (hn : n.outline.Sound)
    (h : d.push n = .ok (key, d')) : isName key = true := by
  have hown := Node.isName_alias hn
  unfold push at h
  split at h
  · cases halias : n.alias with
    | some own =>
        rw [halias] at h
        simp only at h
        split at h
        · cases h
        · cases h
          exact hown key halias
    | none =>
        rw [halias] at h
        cases h
        exact isName_numberedAlias _
  · cases h

theorem Built.sound (h : d.Built) : ∀ n ∈ d.roots, n.outline.Sound := by
  induction h with
  | empty type => exact nofun
  | push _ hn h ih =>
      have hkey := isName_push hn.sound h
      obtain ⟨-, -, -, rfl⟩ := push_eq_ok h
      refine List.forall_mem_append.mpr ⟨ih, ?_⟩
      exact List.forall_mem_singleton.mpr (Node.withAlias_sound hn.sound hkey)

theorem isName_name (type : OperationType) : isName type.name = true := by
  cases type <;> decide

theorem isName_of_mem_siteNames (d : Document) : ∀ name ∈ d.siteNames, isName name = true :=
  isName_of_mem_namesOf _ _

theorem Built.types (h : d.Built) : ∀ b ∈ d.sites, IsTypeText b.type := by
  intro b hb
  obtain ⟨n, hn, hb⟩ := List.mem_flatMap.mp hb
  rw [← n.sites_outline] at hb
  exact (h.sound n hn).types b hb

theorem Built.wellFormed_operation (h : d.Built) (hne : d.roots ≠ []) :
    d.operation.WellFormed := by
  constructor
  · exact isName_name d.type
  · intro x hx
    have hzip : d.operation.declarations =
        (d.siteNames.zip d.sites).map fun p => ⟨p.1, p.2.type⟩ :=
      List.map_uncurry_zip_eq_zipWith.symm
    rw [hzip] at hx
    obtain ⟨⟨name, b⟩, hmem, rfl⟩ := List.mem_map.mp hx
    obtain ⟨hname, hb⟩ := List.of_mem_zip hmem
    exact ⟨d.isName_of_mem_siteNames name hname, h.types b hb⟩
  · apply fieldsWellFormed_fill
    rw [fieldsWellFormed_iff]
    intro f hf
    obtain ⟨n, hn, rfl⟩ := List.mem_map.mp hf
    exact (h.sound n hn).wellFormed
  · rw [d.fieldSites_operation]
    exact d.isName_of_mem_siteNames
  · exact mt (fillFields_eq_nil _).mp (mt List.map_eq_nil_iff.mp hne)

/-- A document that was built is read back: its text is derivable as one operation and as no other,
which has the type of the document, its declared variables and the outlines of its roots with their
names. So documents that print to the same text agree in all of this. -/
theorem round_trip (hd : d.Built) (hne : d.roots ≠ []) :
    (∃ ts, lex? d.compile.query = some ts ∧ ∀ o, IsOperation ts o ↔ o = d.operation) ∧
    read? d.compile.query = some
      { type := d.type
        name := d.type.name
        declarations := List.zipWith (fun name b => ⟨name, b.type⟩) d.siteNames d.sites
        roots := fillFields (fun i => d.siteNames.getD i "") 0 (d.roots.map Node.outline) } ∧
    ∀ d' : Document, d'.Built → d'.roots ≠ [] → d'.compile.query = d.compile.query →
      d'.operation = d.operation := by
  have hread : ∀ d : Document, d.Built → d.roots ≠ [] → ∃ ts,
      lex? d.compile.query = some ts ∧ IsOperation ts d.operation := by
    intro d hd hne
    rw [d.query_eq]
    exact Operation.derives (hd.wellFormed_operation hne)
  obtain ⟨ts, hlex, hderives⟩ := hread d hd hne
  refine ⟨⟨ts, hlex, ?_⟩, ?_, ?_⟩
  · intro o
    constructor
    · intro ho
      exact ho.unique hderives
    · rintro rfl
      exact hderives
  · have hoperation : read? d.compile.query = some d.operation := by
      simp only [read?, hlex, Option.bind_eq_bind, Option.bind_some]
      exact readOperation_eq hderives
    exact hoperation
  · intro d' hd' hne' hquery
    obtain ⟨ts', hlex', hderives'⟩ := hread d' hd' hne'
    rw [hquery, hlex] at hlex'
    cases hlex'
    exact hderives'.unique hderives

/-- Five authors with their articles under an alias: the document was built, so it is read back. -/
theorem round_trip_of_authors :
    let columns : Columns :=
      .listed [.field "name", .related Sample.articles none (some "works") (.many .none .key)]
    let works : Node := ⟨.relatedMany, Sample.articles, "articles", some "works", [],
      [.column "uuid"]⟩
    let root : Node := ⟨.selectMany, Sample.authors, "authors", some "op0",
      [.bound "limit" "Int" (.ofNat 5)], [.column "name", .related works]⟩
    let d : Document := ⟨.query, [root]⟩
    let i : Invocation := .list (.select { Conditions.none with limit := some 5 }) columns
    i.Named ∧ d.Built ∧ d.roots ≠ [] ∧ read? d.compile.query = some d.operation := by
  intro columns works root d i
  have harticles : Sample.articles.Named := by decide
  have hcolumns : columns.Named := ⟨trivial, ⟨harticles, by decide, trivial⟩, trivial⟩
  have hi : i.Named := ⟨trivial, hcolumns⟩
  have hnode : i.node Sample.authors = .ok { root with «alias» := none } := rfl
  have hd : d.Built := .push (.empty .query) (.node (by decide) hi hnode) rfl
  have hne : d.roots ≠ [] := List.cons_ne_nil _ _
  exact ⟨hi, hd, hne, (round_trip hd hne).2.1⟩

end Document

end TableGraph
