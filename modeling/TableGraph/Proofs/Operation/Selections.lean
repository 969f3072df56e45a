import Mathlib.Data.List.Nodup
import TableGraph.Invocation
import TableGraph.Node.Parts
import TableGraph.Proofs.Operation.Building

/-! # Selections that are built

What every selection set of a built node satisfies, at every depth.

* A selection set is valid if it is not empty, answers under different keys, and has entries that
  fit its table (`SelectionSet.Valid`, `Entry.Fits`);
* columns are resolved to valid selections only: repeated keys are refused where they can occur
  (`checkSelection_valid`), and a relation is one that the table declares (`findRelation_eq_ok`);
* what a mutation reports and what an aggregate selects have fixed keys, so these selections are
  valid without a check (`Invocation.node_valid`). -/

namespace TableGraph

/-! ### Valid selections -/

/-- The node follows a relation of the table to a table of its own, under the relation's name. -/
def Node.Follows (n : Node) (t : Table) : Prop :=
  ∃ r ∈ t.relations, r.target = n.table.place ∧
    ((n.kind = .relatedOne ∧ r.cardinality = .one ∧ n.field = r.name) ∨
      (n.kind = .relatedMany ∧ r.cardinality = .many ∧ n.field = r.name) ∨
      (n.kind = .relatedAggregate ∧ r.cardinality = .many ∧ n.field = r.name ++ "_aggregate"))

/-- A count or a function is requested, no function twice, each function of some columns, and all of
columns of the table. -/
structure Aggregates.Fits (a : Aggregates) (t : Table) : Prop where
  requested : a.count.isSome = true ∨ a.functions ≠ []
  nodup : (a.functions.map Prod.fst).Nodup
  columns_ne_nil : ∀ f ∈ a.functions, f.2 ≠ []
  columns : ∀ column ∈ a.namedColumns, column ∈ t.fieldNames

/-- What the entry names is known of the table. -/
def Entry.Fits (t : Table) : Entry → Prop
  | .column name => name ∈ t.fieldNames ∨ name ∈ t.primaryKey
  | .related node => node.Follows t
  | .aggregate requested => requested.Fits t
  | .returning _ => True
  | .affectedRows => True
  | .nodes _ => True

/-- A selection with entries that fit the table and answer under different keys. -/
structure SelectionSet.Valid (s : SelectionSet) : Prop where
  ne_nil : s.entries ≠ []
  nodup : (s.entries.map Entry.responseKey).Nodup
  fits : ∀ e ∈ s.entries, e.Fits s.table

/-- An entry that fits the table and has valid selections. -/
structure Entry.Valid (t : Table) (e : Entry) : Prop where
  fits : e.Fits t
  within : ∀ s ∈ e.selectionSets t, s.Valid

/-- A valid selection from a table with valid selections in it. -/
def ValidSelection (t : Table) (entries : List Entry) : Prop :=
  ∀ s ∈ SelectionSet.mk t entries :: selectionSetsIn t entries, s.Valid

theorem mem_selectionSetsIn {t : Table} {entries : List Entry} {s : SelectionSet} :
    s ∈ selectionSetsIn t entries ↔ ∃ e ∈ entries, s ∈ e.selectionSets t := by
  induction entries with
  | nil => simp [selectionSetsIn]
  | cons e rest ih => simp [selectionSetsIn, ih]

theorem ValidSelection.of_entries {t : Table} {entries : List Entry} (hne : entries ≠ [])
    (hnodup : (entries.map Entry.responseKey).Nodup) (h : ∀ e ∈ entries, e.Valid t) :
    ValidSelection t entries := by
  refine List.forall_mem_cons.mpr ⟨⟨hne, hnodup, fun e he => (h e he).fits⟩, ?_⟩
  intro s hs
  obtain ⟨e, he, hs⟩ := mem_selectionSetsIn.mp hs
  exact (h e he).within s hs

theorem Entry.Valid.related {t : Table} {n : Node} (hfollows : n.Follows t)
    (h : ValidSelection n.table n.selection) : (Entry.related n).Valid t := by
  cases n
  exact ⟨hfollows, h⟩

theorem Entry.Valid.returning {t : Table} {selection : List Entry}
    (h : ValidSelection t selection) : (Entry.returning selection).Valid t := ⟨trivial, h⟩

theorem Entry.Valid.nodes {t : Table} {selection : List Entry}
    (h : ValidSelection t selection) : (Entry.nodes selection).Valid t := ⟨trivial, h⟩

theorem Entry.Valid.column {t : Table} {name : String}
    (h : name ∈ t.fieldNames ∨ name ∈ t.primaryKey) : (Entry.column name).Valid t := ⟨h, nofun⟩

/-! ### Checks -/

theorem firstRepeated_eq_none_iff {seen keys : List String} :
    firstRepeated seen keys = none ↔ keys.Nodup ∧ ∀ key ∈ keys, key ∉ seen := by
  induction keys generalizing seen with
  | nil => simp [firstRepeated]
  | cons key rest ih =>
      unfold firstRepeated
      by_cases hkey : key ∈ seen
      · simp [hkey]
      · simp only [if_neg hkey, ih, List.nodup_cons, List.mem_cons, not_or, forall_eq_or_imp]
        constructor
        · rintro ⟨hnodup, hrest⟩
          exact ⟨⟨fun hmem => (hrest key hmem).1 rfl, hnodup⟩, hkey, fun k hk => (hrest k hk).2⟩
        · rintro ⟨⟨hmem, hnodup⟩, -, hrest⟩
          exact ⟨hnodup, fun k hk => ⟨fun he => hmem (he ▸ hk), hrest k hk⟩⟩

/-- A key that was seen, or repeats one before it, is found behind keys that do not. -/
theorem firstRepeated_append {seen before : List String} {key : String} (hnodup : before.Nodup)
    (hbefore : ∀ k ∈ before, k ∉ seen) (hkey : key ∈ seen ∨ key ∈ before) (after : List String) :
    firstRepeated seen (before ++ key :: after) = some key := by
  induction before generalizing seen with
  | nil =>
      have hseen : key ∈ seen := hkey.resolve_right List.not_mem_nil
      rw [List.nil_append, firstRepeated, if_pos hseen]
  | cons k before ih =>
      obtain ⟨hnot, hnodup⟩ := List.nodup_cons.mp hnodup
      rw [List.forall_mem_cons] at hbefore
      rw [List.cons_append, firstRepeated, if_neg hbefore.1]
      refine ih hnodup ?_ ?_
      · intro b hb hseen
        obtain rfl | hseen := List.mem_cons.mp hseen
        · exact hnot hb
        · exact hbefore.2 b hb hseen
      · rw [List.mem_cons] at hkey ⊢
        tauto

/-- A key that is found was seen, or repeats one before it, and is the first such key. -/
theorem exists_of_firstRepeated {seen keys : List String} {key : String}
    (h : firstRepeated seen keys = some key) :
    ∃ before after, keys = before ++ key :: after ∧ before.Nodup ∧ (∀ k ∈ before, k ∉ seen) ∧
      (key ∈ seen ∨ key ∈ before) := by
  induction keys generalizing seen with
  | nil => cases h
  | cons first rest ih =>
      unfold firstRepeated at h
      split at h
      · rename_i hfirst
        cases h
        exact ⟨[], rest, rfl, List.nodup_nil, nofun, .inl hfirst⟩
      · rename_i hfirst
        obtain ⟨before, after, rfl, hnodup, hbefore, hkey⟩ := ih h
        have hnot : first ∉ before := fun hmem => hbefore first hmem List.mem_cons_self
        refine ⟨first :: before, after, rfl, List.nodup_cons.mpr ⟨hnot, hnodup⟩, ?_, ?_⟩
        · exact List.forall_mem_cons.mpr ⟨hfirst, fun k hk hseen =>
            hbefore k hk (List.mem_cons_of_mem _ hseen)⟩
        · rw [List.mem_cons] at hkey ⊢
          tauto

/-- Entries that are valid make a valid selection, if they pass the check. -/
theorem checkSelection_valid {t : Table} {entries : List Entry} (h : ∀ e ∈ entries, e.Valid t) :
    Yields (checkSelection t entries) (ValidSelection t) := by
  unfold checkSelection
  split
  · exact yields_error
  · rename_i hempty
    split
    · exact yields_error
    · rename_i hrepeated
      refine yields_ok (.of_entries ?_ (firstRepeated_eq_none_iff.mp hrepeated).1 h)
      rintro rfl
      exact hempty rfl

theorem checkColumns_mem {t : Table} {columns : List String} :
    Yields (checkColumns t columns) fun _ => ∀ c ∈ columns, c ∈ t.fieldNames := by
  intro u hu c hc
  unfold checkColumns at hu
  split at hu
  · cases hu
  · rename_i hnone
    have hfield := List.find?_eq_none.mp hnone c hc
    rw [Bool.not_eq_true, Option.isNone_eq_false_iff] at hfield
    exact Table.field?_isSome_iff.mp hfield

/-- A relation that is found is declared, and leads to the target with the cardinality. -/
theorem findRelation_eq_ok {parent target : Table} {name : Option String}
    {cardinality : Cardinality} {r : Relation} (h : findRelation parent target name cardinality = .ok r) :
    r ∈ parent.relations ∧ r.cardinality = cardinality ∧ r.target = target.place := by
  unfold findRelation at h
  cases name with
  | some name =>
      simp only at h
      split at h
      · cases h
      · rename_i hrelation
        split at h
        · rename_i hfits
          cases h
          simp only [Bool.and_eq_true, beq_iff_eq] at hfits
          exact ⟨List.mem_of_find?_eq_some hrelation, hfits⟩
        · cases h
  | none =>
      simp only at h
      split at h
      · rename_i hfilter
        cases h
        have hmem := hfilter ▸ List.mem_singleton_self r
        simpa using List.mem_filter.mp hmem
      · cases h
      · cases h

/-! ### Aggregates -/

theorem Aggregates.validate_fits {t : Table} (requested : Aggregates) :
    Yields (requested.validate t) fun _ => requested.Fits t := by
  intro u hu
  unfold Aggregates.validate at hu
  split at hu
  · cases hu
  · rename_i hempty
    refine ⟨?_, requested.nodup_functions, fun f hf => requested.columns_ne_nil hf,
      checkColumns_mem u hu⟩
    unfold Aggregates.isEmpty at hempty
    cases hcount : requested.count with
    | some c => exact .inl rfl
    | none =>
        rw [hcount] at hempty
        refine .inr fun hnil => hempty ?_
        rw [hnil]
        rfl

theorem aggregateSelection_valid {t : Table} (requested : Aggregates)
    {nodes : Option (Except BuildError (List Entry))}
    (h : ∀ selection ∈ nodes, Yields selection (ValidSelection t)) :
    Yields (aggregateSelection t requested nodes) (ValidSelection t) := by
  refine requested.validate_fits.bind fun _ hfits => ?_
  have haggregate : (Entry.aggregate requested).Valid t := ⟨hfits, nofun⟩
  cases nodes with
  | none =>
      refine yields_ok (.of_entries (List.cons_ne_nil _ _) (List.nodup_singleton _) ?_)
      exact List.forall_mem_singleton.mpr haggregate
  | some selection =>
      refine (h selection rfl).bind fun es hes => ?_
      refine yields_ok (.of_entries (List.cons_ne_nil _ _) ?_ ?_)
      · simp [Entry.responseKey]
      · exact List.forall_mem_cons.mpr ⟨haggregate, List.forall_mem_singleton.mpr (.nodes hes)⟩

/-! ### Columns -/

theorem relatedNode_valid {parent target : Table} {kind : NodeKind} {cardinality : Cardinality}
    {ending : String} {name key : Option String}
    {arguments : Except BuildError (List Argument)} {selection : Except BuildError (List Entry)}
    (hkind : (kind = .relatedOne ∧ cardinality = .one ∧ ending = "") ∨
      (kind = .relatedMany ∧ cardinality = .many ∧ ending = "") ∨
      (kind = .relatedAggregate ∧ cardinality = .many ∧ ending = "_aggregate"))
    (hselection : Yields selection (ValidSelection target)) :
    Yields (relatedNode kind target ending key (findRelation parent target name cardinality)
      arguments selection) fun n => (Entry.related n).Valid parent := by
  intro n hn
  obtain ⟨r, as, es, hr, -, hes, rfl⟩ := relatedNode_eq_ok hn
  obtain ⟨hmem, hcardinality, htarget⟩ := findRelation_eq_ok hr
  refine .related ⟨r, hmem, htarget, ?_⟩ (hselection es hes)
  rw [hcardinality]
  rcases hkind with ⟨rfl, rfl, rfl⟩ | ⟨rfl, rfl, rfl⟩ | ⟨rfl, rfl, rfl⟩
  · exact .inl ⟨rfl, rfl, String.append_empty⟩
  · exact .inr (.inl ⟨rfl, rfl, String.append_empty⟩)
  · exact .inr (.inr ⟨rfl, rfl, rfl⟩)

mutual

theorem Columns.resolve_valid : ∀ (columns : Columns) (t : Table),
    Yields (columns.resolve t) (ValidSelection t)
  | .listed [], t => checkSelection_valid fun e he => by
      obtain ⟨c, hc, rfl⟩ := List.mem_map.mp he
      exact .column (.inr hc)
  | .listed (item :: rest), t =>
      (resolveItems_valid (item :: rest) t).bind fun _ hes => checkSelection_valid hes
  | .allExcept items, t => by
      unfold Columns.resolve
      split
      · refine (resolveRelated_valid items t).bind fun es hes => checkSelection_valid ?_
        refine List.forall_mem_append.mpr ⟨?_, hes⟩
        intro e he
        obtain ⟨name, hname, rfl⟩ := List.mem_map.mp he
        exact .column (.inl (List.mem_filter.mp hname).1)
      · exact yields_error

theorem resolveItems_valid : ∀ (items : List Column) (t : Table),
    Yields (resolveItems t items) fun es => ∀ e ∈ es, e.Valid t
  | [], _ => yields_ok nofun
  | .field name :: rest, t => by
      unfold resolveItems
      cases hname : (t.field? name).isNone with
      | true => exact yields_error
      | false =>
          have hfield := Table.field?_isSome_iff.mp (Option.isNone_eq_false_iff.mp hname)
          refine (resolveItems_valid rest t).bind fun es hes => ?_
          exact yields_ok (List.forall_mem_cons.mpr ⟨.column (.inl hfield), hes⟩)
  | .related target name key reach :: rest, t => by
      refine (reach.resolve_valid t target name key).bind fun n hn => ?_
      refine (resolveItems_valid rest t).bind fun es hes => ?_
      exact yields_ok (List.forall_mem_cons.mpr ⟨hn, hes⟩)

theorem resolveRelated_valid : ∀ (items : List Column) (t : Table),
    Yields (resolveRelated t items) fun es => ∀ e ∈ es, e.Valid t
  | [], _ => yields_ok nofun
  | .field _ :: rest, t => resolveRelated_valid rest t
  | .related target name key reach :: rest, t => by
      refine (reach.resolve_valid t target name key).bind fun n hn => ?_
      refine (resolveRelated_valid rest t).bind fun es hes => ?_
      exact yields_ok (List.forall_mem_cons.mpr ⟨hn, hes⟩)

theorem Reach.resolve_valid : ∀ (reach : Reach) (parent target : Table) (name key : Option String),
    Yields (reach.resolve parent target name key) fun n => (Entry.related n).Valid parent
  | .one columns, _, target, _, _ =>
      relatedNode_valid (.inl ⟨rfl, rfl, rfl⟩) (columns.resolve_valid target)
  | .many _ columns, _, target, _, _ =>
      relatedNode_valid (.inr (.inl ⟨rfl, rfl, rfl⟩)) (columns.resolve_valid target)
  | .aggregate _ requested, _, _, _, _ =>
      relatedNode_valid (.inr (.inr ⟨rfl, rfl, rfl⟩)) (aggregateSelection_valid requested nofun)
  | .aggregateWithNodes _ requested columns, _, target, _, _ =>
      relatedNode_valid (.inr (.inr ⟨rfl, rfl, rfl⟩))
        (aggregateSelection_valid requested fun selection hselection => by
          cases hselection
          exact columns.resolve_valid target)

end

/-! ### Operations -/

theorem MutationOutput.selection_valid (output : MutationOutput) (t : Table) :
    Yields (output.selection t) (ValidSelection t) := by
  have hrows : Entry.affectedRows.Valid t := ⟨trivial, nofun⟩
  cases output with
  | returning columns =>
      refine (columns.resolve_valid t).bind fun es hes => ?_
      refine yields_ok (.of_entries (List.cons_ne_nil _ _) (List.nodup_singleton _) ?_)
      exact List.forall_mem_singleton.mpr (.returning hes)
  | affectedRows =>
      refine yields_ok (.of_entries (List.cons_ne_nil _ _) (List.nodup_singleton _) ?_)
      exact List.forall_mem_singleton.mpr hrows
  | returningWithRows columns =>
      refine (columns.resolve_valid t).bind fun es hes => ?_
      refine yields_ok (.of_entries (List.cons_ne_nil _ _) ?_ ?_)
      · simp [Entry.responseKey]
      · exact List.forall_mem_cons.mpr ⟨.returning hes, List.forall_mem_singleton.mpr hrows⟩

theorem rootNode_valid {kind : NodeKind} {t : Table} {field : String}
    {arguments : Except BuildError (List Argument)} {selection : Except BuildError (List Entry)}
    (hselection : Yields selection (ValidSelection t)) :
    Yields (rootNode kind t field arguments selection) fun n =>
      ∀ s ∈ n.selectionSets, s.Valid := by
  intro n hn
  obtain ⟨as, es, -, hes, rfl⟩ := rootNode_eq_ok hn
  exact hselection es hes

/-- All selection sets of a node that is built are valid. -/
theorem Invocation.node_valid (i : Invocation) (t : Table) :
    Yields (i.node t) fun n => ∀ s ∈ n.selectionSets, s.Valid := by
  cases i with
  | record op columns => exact rootNode_valid (columns.resolve_valid t)
  | list op columns => exact rootNode_valid (columns.resolve_valid t)
  | bulk op output => exact rootNode_valid (output.selection_valid t)
  | perUpdate updates output => exact rootNode_valid (output.selection_valid t)
  | aggregate op requested nodes =>
      refine rootNode_valid (aggregateSelection_valid requested ?_)
      intro selection hselection
      obtain ⟨columns, -, rfl⟩ := Option.map_eq_some_iff.mp hselection
      exact columns.resolve_valid t
  | count op => exact rootNode_valid (aggregateSelection_valid .justCount nofun)
  | function op f columns => exact rootNode_valid (aggregateSelection_valid _ nofun)

end TableGraph
