import TableGraph.Proofs.Operation.SoundArguments

/-! # Built nodes are sound

Every node that is built from a table and a request of names has a sound outline
(`Invocation.node_sound`).

* No selection is empty (`checkSelection_sound`), and no function in an aggregate is without
  columns (`aggregate_sound`);
* the nodes of relations are sound by induction on the columns that are asked for
  (`Columns.resolve_sound`). -/

namespace TableGraph

open GraphQL

/-! ### Aggregates -/

theorem countArguments_sound {t : TableName} (ht : t.Named) (c : CountSpec) :
    ∀ a ∈ Aggregates.countArguments t c, a.Sound := by
  obtain ⟨columns, distinct⟩ := c
  refine List.forall_mem_append.mpr ⟨?_, ?_⟩
  · cases columns with
    | none => exact nofun
    | some columns =>
        exact List.forall_mem_singleton.mpr (.bound (by decide) (selectColumnsType ht) _)
  · cases distinct with
    | none => exact nofun
    | some distinct =>
        have htype : IsTypeText "Boolean" := isTypeText_name (by decide)
        exact List.forall_mem_singleton.mpr (.bound (by decide) htype _)

theorem column_sound {name : String} (h : isName name = true) :
    (QueryField.leaf none name [] : QueryField Binding).Sound :=
  ⟨⟨nofun, h, trivial⟩, nofun⟩

theorem isName_function (f : AggregateFunction) : isName f.name = true := by
  cases f <;> decide

theorem outlineFunctions_sound {functions : List (AggregateFunction × List String)}
    (hne : ∀ f ∈ functions, f.2 ≠ []) (h : ∀ c ∈ functions.flatMap (·.2), isName c = true) :
    ∀ f ∈ outlineFunctions functions, f.Sound := by
  intro field hfield
  obtain ⟨⟨f, columns⟩, hf, rfl⟩ := List.mem_map.mp hfield
  have hcolumns : outlineColumns columns ≠ [] := mt List.map_eq_nil_iff.mp (hne _ hf)
  refine .branch [] nofun (isName_function f) nofun hcolumns ?_
  intro column hcolumn
  obtain ⟨c, hc, rfl⟩ := List.mem_map.mp hcolumn
  exact column_sound (h c (List.mem_flatMap.mpr ⟨_, hf, hc⟩))

/-- An aggregate that asks for something has fields. -/
theorem outlineAggregate_ne_nil (t : TableName) {requested : Aggregates}
    (h : requested.isEmpty = false) :
    outlineCount t requested.count ++ outlineFunctions requested.functions ≠ [] := by
  intro hnil
  obtain ⟨hcount, hfunctions⟩ := List.append_eq_nil_iff.mp hnil
  unfold Aggregates.isEmpty at h
  rw [List.map_eq_nil_iff.mp hfunctions] at h
  cases hc : requested.count with
  | none =>
      rw [hc] at h
      cases h
  | some c =>
      rw [hc] at hcount
      cases hcount

/-- An aggregate that is valid asks for something, and only for columns. -/
theorem aggregate_sound {t : Table} (ht : t.Named) (requested : Aggregates) :
    Yields (requested.validate t) fun _ => ((Entry.aggregate requested).outline t.place).Sound := by
  unfold Aggregates.validate
  split
  · exact yields_error
  · rename_i hempty
    intro u hu
    have hnames := checkColumns_named ht requested.namedColumns u hu
    unfold Aggregates.namedColumns at hnames
    have hcount : ∀ f ∈ outlineCount t.place requested.count, f.Sound := by
      cases requested.count with
      | none => exact nofun
      | some c =>
          exact List.forall_mem_singleton.mpr
            (.leaf _ nofun (by decide) (countArguments_sound ht.place c))
    have hfunctions := outlineFunctions_sound (fun _ hf => requested.columns_ne_nil hf)
      fun c hc => hnames c (List.mem_append_right _ hc)
    have hne := outlineAggregate_ne_nil t.place (Bool.eq_false_iff.mpr hempty)
    exact .branch [] nofun (by decide) nofun hne
      (List.forall_mem_append.mpr ⟨hcount, hfunctions⟩)

/-! ### Selections -/

theorem checkSelection_sound {t : Table} {entries : List Entry}
    (h : ∀ e ∈ entries, (e.outline t.place).Sound) :
    Yields (checkSelection t entries) (SoundSelection t.place) := by
  unfold checkSelection
  split
  · exact yields_error
  · rename_i hne
    split
    · exact yields_error
    · exact yields_ok ⟨fun hnil => hne (List.isEmpty_iff.mpr hnil), h⟩

theorem aggregateSelection_sound {t : Table} (ht : t.Named) (requested : Aggregates)
    {nodes : Option (Except BuildError (List Entry))}
    (hnodes : ∀ selection ∈ nodes, Yields selection (SoundSelection t.place)) :
    Yields (aggregateSelection t requested nodes) (SoundSelection t.place) := by
  refine (aggregate_sound ht requested).bind fun _ haggregate => ?_
  cases nodes with
  | none => exact yields_ok ⟨by simp, List.forall_mem_singleton.mpr haggregate⟩
  | some selection =>
      refine (hnodes selection rfl).bind fun es hes => ?_
      have hentry : ((Entry.nodes es).outline t.place).Sound :=
        hes.branch [] nofun (by decide) nofun
      exact yields_ok ⟨by simp, List.forall_mem_cons.mpr
        ⟨haggregate, List.forall_mem_singleton.mpr hentry⟩⟩

/-! ### Relations -/

theorem findRelation_mem {parent target : Table} {name : Option String} {c : Cardinality} :
    Yields (findRelation parent target name c) (· ∈ parent.relations) := by
  intro r hr
  unfold findRelation at hr
  simp only at hr
  split at hr
  · split at hr
    · cases hr
    · rename_i hfound
      split at hr
      · cases hr
        exact List.mem_of_find?_eq_some hfound
      · cases hr
  · split at hr
    · rename_i hfilter
      cases hr
      exact (List.mem_filter.mp (hfilter ▸ List.mem_singleton_self r)).1
    · cases hr
    · cases hr

theorem relatedNode_sound {kind : NodeKind} {parent target : Table} (hparent : parent.Named)
    {ending : String} (hending : IsPart ending) {key : Option String}
    (hkey : ∀ k ∈ key, isName k = true) (name : Option String) (c : Cardinality)
    {arguments : Except BuildError (List Argument)} {selection : Except BuildError (List Entry)}
    (harguments : Yields arguments fun as => ∀ a ∈ as, a.Sound)
    (hselection : Yields selection (SoundSelection target.place)) :
    Yields (relatedNode kind target ending key (findRelation parent target name c) arguments
      selection) fun n => n.outline.Sound := by
  intro n hn
  obtain ⟨r, as, es, hr, has, hes, rfl⟩ := relatedNode_eq_ok hn
  have hname : isName r.name = true := (hparent.relations r (findRelation_mem r hr)).1
  exact (hselection es hes).branch as hkey (isName_append hname hending) (harguments as has)

mutual

theorem Columns.resolve_sound : ∀ (columns : Columns) {t : Table}, t.Named → columns.Named →
    Yields (columns.resolve t) (SoundSelection t.place)
  | .listed [], t, ht, _ => checkSelection_sound fun e he => by
      obtain ⟨c, hc, rfl⟩ := List.mem_map.mp he
      exact column_sound (ht.primaryKey c hc)
  | .listed (item :: rest), t, ht, h =>
      (resolveItems_sound (item :: rest) ht h).bind fun _ hes => checkSelection_sound hes
  | .allExcept items, t, ht, h => by
      unfold Columns.resolve
      split
      · refine (resolveRelated_sound items ht h).bind fun es hes => checkSelection_sound ?_
        refine List.forall_mem_append.mpr ⟨?_, hes⟩
        intro e he
        obtain ⟨name, hname, rfl⟩ := List.mem_map.mp he
        obtain ⟨f, hf, rfl⟩ := List.mem_map.mp (List.mem_filter.mp hname).1
        exact column_sound (ht.fields f hf).1
      · exact yields_error

theorem resolveItems_sound : ∀ (items : List Column) {t : Table}, t.Named → columnsNamed items →
    Yields (resolveItems t items) fun es => ∀ e ∈ es, (e.outline t.place).Sound
  | [], _, _, _ => yields_ok nofun
  | .field name :: rest, t, ht, h => by
      unfold resolveItems
      cases hname : (t.field? name).isNone with
      | true => exact yields_error
      | false =>
          refine (resolveItems_sound rest ht h.2).bind fun es hes => ?_
          exact yields_ok (List.forall_mem_cons.mpr ⟨column_sound (ht.fieldName hname), hes⟩)
  | .related target name key reach :: rest, t, ht, ⟨⟨htarget, hkey, hreach⟩, hrest⟩ => by
      refine (reach.resolve_sound ht htarget name hkey hreach).bind fun n hn => ?_
      refine (resolveItems_sound rest ht hrest).bind fun es hes => ?_
      exact yields_ok (List.forall_mem_cons.mpr ⟨hn, hes⟩)

theorem resolveRelated_sound : ∀ (items : List Column) {t : Table}, t.Named → columnsNamed items →
    Yields (resolveRelated t items) fun es => ∀ e ∈ es, (e.outline t.place).Sound
  | [], _, _, _ => yields_ok nofun
  | .field _ :: rest, t, ht, h => resolveRelated_sound rest ht h.2
  | .related target name key reach :: rest, t, ht, ⟨⟨htarget, hkey, hreach⟩, hrest⟩ => by
      refine (reach.resolve_sound ht htarget name hkey hreach).bind fun n hn => ?_
      refine (resolveRelated_sound rest ht hrest).bind fun es hes => ?_
      exact yields_ok (List.forall_mem_cons.mpr ⟨hn, hes⟩)

theorem Reach.resolve_sound : ∀ (reach : Reach) {parent target : Table}, parent.Named →
    target.Named → ∀ (name : Option String) {key : Option String}, (∀ k ∈ key, isName k = true) →
      reach.Named → Yields (reach.resolve parent target name key) fun n => n.outline.Sound
  | .one columns, _, _, hparent, htarget, name, _, hkey, h =>
      relatedNode_sound hparent (by decide) hkey name .one (yields_ok nofun)
        (columns.resolve_sound htarget h)
  | .many conditions columns, _, _, hparent, htarget, name, _, hkey, h =>
      relatedNode_sound hparent (by decide) hkey name .many (conditions.arguments_sound htarget)
        (columns.resolve_sound htarget h)
  | .aggregate conditions requested, _, _, hparent, htarget, name, _, hkey, _ =>
      relatedNode_sound hparent (by decide) hkey name .many (conditions.arguments_sound htarget)
        (aggregateSelection_sound htarget requested nofun)
  | .aggregateWithNodes conditions requested columns, _, _, hparent, htarget, name, _, hkey, h =>
      relatedNode_sound hparent (by decide) hkey name .many (conditions.arguments_sound htarget)
        (aggregateSelection_sound htarget requested fun selection hselection => by
          cases hselection
          exact columns.resolve_sound htarget h)

end

/-! ### Operations -/

theorem MutationOutput.selection_sound {t : Table} (ht : t.Named) {output : MutationOutput}
    (h : output.Named) : Yields (output.selection t) (SoundSelection t.place) := by
  have hreturning : ∀ es, SoundSelection t.place es →
      ((Entry.returning es).outline t.place).Sound :=
    fun es hes => hes.branch [] nofun (by decide) nofun
  have hrows : (Entry.affectedRows.outline t.place).Sound := column_sound (by decide)
  cases output with
  | returning columns =>
      refine (columns.resolve_sound ht h).bind fun es hes => ?_
      exact yields_ok ⟨by simp, List.forall_mem_singleton.mpr (hreturning es hes)⟩
  | affectedRows => exact yields_ok ⟨by simp, List.forall_mem_singleton.mpr hrows⟩
  | returningWithRows columns =>
      refine (columns.resolve_sound ht h).bind fun es hes => ?_
      exact yields_ok ⟨by simp, List.forall_mem_cons.mpr
        ⟨hreturning es hes, List.forall_mem_singleton.mpr hrows⟩⟩

theorem rootNode_sound {kind : NodeKind} {t : Table} {field : String}
    (hfield : isName field = true) {arguments : Except BuildError (List Argument)}
    {selection : Except BuildError (List Entry)}
    (harguments : Yields arguments fun as => ∀ a ∈ as, a.Sound)
    (hselection : Yields selection (SoundSelection t.place)) :
    Yields (rootNode kind t field arguments selection) fun n => n.outline.Sound := by
  intro n hn
  obtain ⟨as, es, has, hes, rfl⟩ := rootNode_eq_ok hn
  exact (hselection es hes).branch as nofun hfield (harguments as has)

section
variable {t : Table} (ht : t.Named)
include ht

theorem isName_around {lead ending : String} (hlead : isName lead = true)
    (hending : IsPart ending) : isName (lead ++ t.qualified ++ ending) = true :=
  isName_append (isName_append hlead (isPart_of_isName ht.qualified)) hending

theorem RecordOperation.isName_field {op : RecordOperation} (h : op.Named) :
    isName (op.field t) = true := by
  cases op with
  | selectByKey key => exact isName_append ht.qualified (by decide)
  | insert object conflict => exact isName_around ht (by decide) (by decide)
  | updateByKey key ops => exact isName_around ht (by decide) (by decide)
  | deleteByKey key => exact isName_around ht (by decide) (by decide)
  | call type function args => exact ht.place.labelled h

theorem ListOperation.isName_field {op : ListOperation} (h : op.Named) :
    isName (op.field t) = true := by
  cases op with
  | select conditions => exact ht.qualified
  | call type function args conditions => exact ht.place.labelled h

theorem BulkOperation.isName_field (op : BulkOperation) : isName (op.field t) = true := by
  have hname := isPart_of_isName ht.qualified
  cases op <;> exact isName_append (by decide) hname

theorem AggregateOperation.isName_field {op : AggregateOperation} (h : op.Named) :
    isName (op.field t) = true := by
  cases op with
  | select conditions => exact isName_append ht.qualified (by decide)
  | call function args conditions => exact isName_append (ht.place.labelled h) (by decide)

theorem AggregateOperation.node_sound {op : AggregateOperation} (hop : op.Named)
    (requested : Aggregates) {nodes : Option Columns} (hnodes : ∀ columns ∈ nodes, columns.Named) :
    Yields (op.node t requested nodes) fun n => n.outline.Sound := by
  refine rootNode_sound (op.isName_field ht hop) (op.arguments_sound ht hop)
    (aggregateSelection_sound ht requested ?_)
  intro selection hselection
  obtain ⟨columns, hcolumns, rfl⟩ := Option.map_eq_some_iff.mp hselection
  exact columns.resolve_sound ht (hnodes columns hcolumns)

/-- Every node that is built has a sound outline. -/
theorem Invocation.node_sound {i : Invocation} (h : i.Named) :
    Yields (i.node t) fun n => n.outline.Sound := by
  cases i with
  | record op columns =>
      exact rootNode_sound (op.isName_field ht h.1) (op.arguments_sound ht h.1)
        (columns.resolve_sound ht h.2)
  | list op columns =>
      exact rootNode_sound (op.isName_field ht h.1) (op.arguments_sound ht h.1)
        (columns.resolve_sound ht h.2)
  | bulk op output =>
      exact rootNode_sound (op.isName_field ht) (op.arguments_sound ht)
        (output.selection_sound ht h)
  | perUpdate updates output =>
      exact rootNode_sound (isName_around ht (by decide) (by decide)) (updates.arguments_sound ht)
        (output.selection_sound ht h)
  | aggregate op requested nodes => exact op.node_sound ht h.1 requested h.2
  | count op => exact op.node_sound ht h .justCount nofun
  | function op f columns => exact op.node_sound ht h _ nofun

end

/-! ### Aliases -/

theorem Node.isName_alias {n : Node} (h : n.outline.Sound) : ∀ k ∈ n.alias, isName k = true := by
  obtain ⟨kind, table, field, key, arguments, selection⟩ := n
  exact h.wellFormed.1

theorem Node.withAlias_sound {n : Node} (h : n.outline.Sound) {key : String}
    (hkey : isName key = true) : (n.withAlias key).outline.Sound := by
  obtain ⟨kind, table, field, key', arguments, selection⟩ := n
  obtain ⟨⟨-, hwf⟩, htypes⟩ := h
  refine ⟨⟨?_, hwf⟩, htypes⟩
  intro k hk
  cases hk
  exact hkey

end TableGraph
