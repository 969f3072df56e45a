import TableGraph.Proofs.Operation.Sound

/-! # Built arguments are sound

All arguments that are built for a table of names are sound.

* A filter is looked up key by key, so each of its keys is a name (`filterType?_named`);
* key columns are looked up too, and operators of an update have names of their own;
* every other argument has a fixed name and a type named after the table. -/

namespace TableGraph

open GraphQL

/-! ### Columns -/

theorem checkColumns_named {t : Table} (ht : t.Named) (columns : List String) :
    Yields (checkColumns t columns) fun _ => ∀ c ∈ columns, isName c = true := by
  intro u hu c hc
  unfold checkColumns at hu
  split at hu
  · cases hu
  · rename_i hnone
    exact ht.fieldName (Bool.eq_false_iff.mpr (List.find?_eq_none.mp hnone c hc))

/-! ### Filters -/

/-- A key of a filter with a role is a name, and so is its type. -/
theorem filterType?_named {t : Table} (ht : t.Named) {key type : String}
    (h : filterType? t key = some type) : isName key = true ∧ IsTypeText type := by
  unfold filterType? at h
  split at h
  · rename_i hkey
    cases h
    refine ⟨?_, isTypeText_list ht.qualified "_bool_exp" (by decide) rfl⟩
    rcases hkey with rfl | rfl <;> decide
  · split at h
    · rename_i hkey
      cases h
      exact ⟨hkey ▸ by decide, isTypeText_name (isName_append ht.qualified (by decide))⟩
    · split at h
      · rename_i f hf
        cases h
        obtain ⟨hkey, hscalar⟩ := ht.field hf
        exact ⟨hkey, isTypeText_name (isName_append hscalar (by decide))⟩
      · split at h
        · rename_i r hr
          cases h
          obtain ⟨hkey, htarget⟩ := ht.relation hr
          exact ⟨hkey, isTypeText_name (isName_append htarget.qualified (by decide))⟩
        · split at h
          · rename_i r hr
            split at h
            · cases h
              obtain ⟨base, hbase, hr⟩ := Option.bind_eq_some_iff.mp hr
              obtain ⟨hname, htarget⟩ := ht.relation hr
              rw [eq_of_aggregateBase? hbase]
              exact ⟨isName_append hname (by decide),
                isTypeText_name (isName_append htarget.qualified (by decide))⟩
            · cases h
          · cases h

theorem filterEntry_sound {t : Table} (ht : t.Named) (key : String) (value : Json) :
    Yields (filterEntry t key value) fun e => (Argument.mk e.1 e.2).Sound := by
  intro e he
  unfold filterEntry at he
  split at he
  · rename_i type htype
    cases he
    obtain ⟨hkey, htext⟩ := filterType?_named ht htype
    exact .bound hkey htext value
  · cases he

theorem filterEntries_sound {t : Table} (ht : t.Named) : ∀ members : OrderedMap Json,
    Yields (filterEntries t members) fun es => ∀ e ∈ es, (Argument.mk e.1 e.2).Sound
  | [] => yields_ok nofun
  | (key, value) :: rest => by
      refine (filterEntry_sound ht key value).bind fun e he => ?_
      refine (filterEntries_sound ht rest).bind fun es hes => ?_
      exact yields_ok (List.forall_mem_cons.mpr ⟨he, hes⟩)

theorem compileFilter_sound {t : Table} (ht : t.Named) (filter : Json) :
    Yields (compileFilter t filter) fun es => ∀ e ∈ es, (Argument.mk e.1 e.2).Sound :=
  yields_true.bind fun members _ => filterEntries_sound ht members

/-! ### Conditions -/

theorem filterArguments_sound {t : Table} (ht : t.Named) (filter : Option Json) :
    Yields (Conditions.filterArguments t filter) fun as => ∀ a ∈ as, a.Sound := by
  cases filter with
  | none => exact yields_ok nofun
  | some filter =>
      refine (compileFilter_sound ht filter).bind fun entries hentries => ?_
      cases entries with
      | nil => exact yields_ok nofun
      | cons e rest =>
          have hname : isName "where" = true := by decide
          exact yields_ok (List.forall_mem_singleton.mpr (.object hname hentries))

theorem orderArguments_sound {t : Table} (ht : t.Named) (order : Option Json) :
    Yields (Conditions.orderArguments t order) fun as => ∀ a ∈ as, a.Sound := by
  cases order with
  | none => exact yields_ok nofun
  | some order =>
      unfold Conditions.orderArguments
      simp only
      split
      · have htype := isTypeText_list ht.qualified "_order_by" (by decide) rfl
        exact yields_ok (List.forall_mem_singleton.mpr (.bound (by decide) htype order))
      · exact yields_error

theorem selectColumnsType {t : TableName} (ht : t.Named) :
    IsTypeText ("[" ++ t.qualified ++ "_select_column!]") :=
  isTypeText_list ht.qualified "_select_column" (by decide) rfl

theorem distinctArguments_sound {t : Table} (ht : t.Named) (columns : Option (List String)) :
    Yields (Conditions.distinctArguments t columns) fun as => ∀ a ∈ as, a.Sound := by
  cases columns with
  | none => exact yields_ok nofun
  | some columns =>
      refine (checkColumns_named ht columns).bind fun _ _ => ?_
      exact yields_ok (List.forall_mem_singleton.mpr
        (.bound (by decide) (selectColumnsType ht.place) _))

theorem windowArguments_sound (name : String) (hname : isName name = true) (n : Option Nat) :
    ∀ a ∈ Conditions.windowArguments name n, a.Sound := by
  cases n with
  | none => exact nofun
  | some n =>
      have htype : IsTypeText "Int" := isTypeText_name (by decide)
      exact List.forall_mem_singleton.mpr (.bound hname htype _)

theorem Conditions.arguments_sound {t : Table} (ht : t.Named) (c : Conditions) :
    Yields (c.arguments t) fun as => ∀ a ∈ as, a.Sound := by
  refine (filterArguments_sound ht c.filter).bind fun filter hfilter => ?_
  refine (orderArguments_sound ht c.orderBy).bind fun order horder => ?_
  refine (distinctArguments_sound ht c.distinctOn).bind fun distinct hdistinct => ?_
  have hlimit := windowArguments_sound "limit" (by decide) c.limit
  have hoffset := windowArguments_sound "offset" (by decide) c.offset
  refine yields_ok ?_
  simp only [List.forall_mem_append]
  exact ⟨⟨⟨⟨hfilter, horder⟩, hdistinct⟩, hlimit⟩, hoffset⟩

/-! ### Keys -/

theorem keyBindingsOf_sound {t : Table} (ht : t.Named) : ∀ values : List (String × Json),
    Yields (keyBindingsOf t values) fun bs => ∀ b ∈ bs, (Argument.mk b.1 (.variable b.2)).Sound
  | [] => yields_ok nofun
  | (column, value) :: rest => by
      have hbinding : Yields (keyBinding t column value) fun b =>
          (Argument.mk b.1 (.variable b.2)).Sound := by
        intro b hb
        unfold keyBinding at hb
        split at hb
        · rename_i f hf
          cases hb
          obtain ⟨hcolumn, hscalar⟩ := ht.field hf
          exact .bound hcolumn (isTypeText_required hscalar "" (by decide) rfl) value
        · cases hb
      refine hbinding.bind fun b hb => ?_
      refine (keyBindingsOf_sound ht rest).bind fun bs hbs => ?_
      exact yields_ok (List.forall_mem_cons.mpr ⟨hb, hbs⟩)

theorem primaryKeyBindings_sound {t : Table} (ht : t.Named) (key : Json) :
    Yields (primaryKeyBindings t key) fun bs =>
      ∀ b ∈ bs, (Argument.mk b.1 (.variable b.2)).Sound := by
  unfold primaryKeyBindings
  split
  · exact yields_error
  · exact yields_true.bind fun values _ => keyBindingsOf_sound ht values

theorem keyArguments_sound {t : Table} (ht : t.Named) (key : Json) :
    Yields (keyArguments t key) fun as => ∀ a ∈ as, a.Sound :=
  (primaryKeyBindings_sound ht key).bind fun _ hbs => yields_ok (List.forall_mem_map.mpr hbs)

theorem keyColumnsArgument_sound {t : Table} (ht : t.Named) (key : Json) :
    Yields (keyColumnsArgument t key) Argument.Sound :=
  (primaryKeyBindings_sound ht key).bind fun _ hbs =>
    yields_ok (.object (by decide) (List.forall_mem_map.mpr hbs))

/-! ### Changes -/

theorem isName_operator (o : UpdateOperator) : isName o.argument = true := by
  cases o <;> decide

theorem entryArguments_sound {t : Table} (ht : t.Named) : ∀ entries : List (String × Json),
    (∀ e ∈ entries, isName e.1 = true) →
      Yields (UpdateOps.entryArguments t entries) fun as => ∀ a ∈ as, a.Sound
  | [], _ => yields_ok nofun
  | (name, value) :: rest, h => by
      obtain ⟨hname, hrest⟩ := List.forall_mem_cons.mp h
      refine yields_true.bind fun _ _ => ?_
      refine (entryArguments_sound ht rest hrest).bind fun as has => ?_
      have htype : IsTypeText (t.qualified ++ name ++ "_input") :=
        isTypeText_name (isName_append (isName_append ht.qualified (isPart_of_isName hname))
          (by decide))
      exact yields_ok (List.forall_mem_cons.mpr ⟨.bound hname htype value, has⟩)

theorem UpdateOps.arguments_sound {t : Table} (ht : t.Named) (ops : UpdateOps) :
    Yields (ops.arguments t) fun as => ∀ a ∈ as, a.Sound := by
  unfold UpdateOps.arguments
  split
  · exact yields_error
  · refine entryArguments_sound ht ops.entries ?_
    intro e he
    obtain ⟨o, -, ho⟩ := List.mem_filterMap.mp he
    obtain ⟨value, -, rfl⟩ := Option.map_eq_some_iff.mp ho
    exact isName_operator o

theorem whereArgument_sound {t : Table} (ht : t.Named) (filter : Json) :
    Yields (whereArgument t filter) Argument.Sound :=
  (compileFilter_sound ht filter).bind fun _ hentries => yields_ok (.object (by decide) hentries)

/-! ### Inserted objects -/

theorem objectArgument_sound {t : Table} (ht : t.Named) (object : Json) :
    Yields (objectArgument t object) Argument.Sound := by
  have htype := isTypeText_required ht.qualified "_insert_input" (by decide) rfl
  exact yields_true.bind fun _ _ => yields_ok (.bound (by decide) htype object)

theorem objectsArgument_sound {t : Table} (ht : t.Named) (objects : Json) :
    Yields (objectsArgument t objects) Argument.Sound := by
  unfold objectsArgument
  split
  · have htype := isTypeText_requiredList ht.qualified "_insert_input" (by decide) rfl
    exact yields_ok (.bound (by decide) htype objects)
  · exact yields_error

theorem conflictArguments_sound {t : Table} (ht : t.Named) (conflict : Option Json) :
    Yields (conflictArguments t conflict) fun as => ∀ a ∈ as, a.Sound := by
  cases conflict with
  | none => exact yields_ok nofun
  | some conflict =>
      have htype : IsTypeText (t.qualified ++ "_on_conflict") :=
        isTypeText_name (isName_append ht.qualified (by decide))
      exact yields_true.bind fun _ _ =>
        yields_ok (List.forall_mem_singleton.mpr (.bound (by decide) htype conflict))

/-! ### Several updates and functions -/

theorem updatesArgument_sound {t : Table} (ht : t.Named) (us : DistinctUpdates) :
    Yields (updatesArgument t us) Argument.Sound := by
  unfold updatesArgument
  split
  · exact yields_error
  · have htype := isTypeText_requiredList ht.qualified "_updates" (by decide) rfl
    exact yields_true.bind fun values _ => yields_ok (.bound (by decide) htype (.array values))

theorem functionArgument_sound {t : Table} (ht : t.Named) {function : String}
    (hfunction : isName function = true) (args : Json) :
    Yields (functionArgument t function args) Argument.Sound := by
  have htype := isTypeText_required (ht.place.labelled hfunction) "_args" (by decide) rfl
  unfold functionArgument
  cases args with
  | null => exact yields_ok (.bound (by decide) htype (.object []))
  | _ =>
      exact yields_true.bind fun members _ => yields_ok (.bound (by decide) htype (.object members))

/-! ### Operations -/

section
variable {t : Table} (ht : t.Named)
include ht

theorem RecordOperation.arguments_sound {op : RecordOperation} (hop : op.Named) :
    Yields (op.arguments t) fun as => ∀ a ∈ as, a.Sound := by
  cases op with
  | selectByKey key => exact keyArguments_sound ht key
  | insert object conflict =>
      refine (objectArgument_sound ht object).bind fun a ha => ?_
      refine (conflictArguments_sound ht conflict).bind fun as has => ?_
      exact yields_ok (List.forall_mem_cons.mpr ⟨ha, has⟩)
  | updateByKey key ops =>
      refine (keyColumnsArgument_sound ht key).bind fun a ha => ?_
      refine (ops.arguments_sound ht).bind fun as has => ?_
      exact yields_ok (List.forall_mem_cons.mpr ⟨ha, has⟩)
  | deleteByKey key => exact keyArguments_sound ht key
  | call type function args =>
      refine (functionArgument_sound ht hop args).bind fun a ha => ?_
      exact yields_ok (List.forall_mem_singleton.mpr ha)

theorem functionArguments_sound {function : String} (hfunction : isName function = true)
    (args : Json) (conditions : Conditions) :
    Yields (do pure ((← functionArgument t function args) :: (← conditions.arguments t)))
      fun as => ∀ a ∈ as, a.Sound := by
  refine (functionArgument_sound ht hfunction args).bind fun a ha => ?_
  refine (conditions.arguments_sound ht).bind fun as has => ?_
  exact yields_ok (List.forall_mem_cons.mpr ⟨ha, has⟩)

theorem ListOperation.arguments_sound {op : ListOperation} (hop : op.Named) :
    Yields (op.arguments t) fun as => ∀ a ∈ as, a.Sound := by
  cases op with
  | select conditions => exact conditions.arguments_sound ht
  | call type function args conditions => exact functionArguments_sound ht hop args conditions

theorem AggregateOperation.arguments_sound {op : AggregateOperation} (hop : op.Named) :
    Yields (op.arguments t) fun as => ∀ a ∈ as, a.Sound := by
  cases op with
  | select conditions => exact conditions.arguments_sound ht
  | call function args conditions => exact functionArguments_sound ht hop args conditions

theorem BulkOperation.arguments_sound (op : BulkOperation) :
    Yields (op.arguments t) fun as => ∀ a ∈ as, a.Sound := by
  cases op with
  | insert objects conflict =>
      refine (objectsArgument_sound ht objects).bind fun a ha => ?_
      refine (conflictArguments_sound ht conflict).bind fun as has => ?_
      exact yields_ok (List.forall_mem_cons.mpr ⟨ha, has⟩)
  | update filter ops =>
      refine (whereArgument_sound ht filter).bind fun a ha => ?_
      refine (ops.arguments_sound ht).bind fun as has => ?_
      exact yields_ok (List.forall_mem_cons.mpr ⟨ha, has⟩)
  | delete filter =>
      refine (whereArgument_sound ht filter).bind fun a ha => ?_
      exact yields_ok (List.forall_mem_singleton.mpr ha)

theorem DistinctUpdates.arguments_sound (us : DistinctUpdates) :
    Yields (us.arguments t) fun as => ∀ a ∈ as, a.Sound := by
  refine (updatesArgument_sound ht us).bind fun a ha => ?_
  exact yields_ok (List.forall_mem_singleton.mpr ha)

end

end TableGraph
