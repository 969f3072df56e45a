import Mathlib.Data.List.Basic
import TableGraph.Proofs.Operation.Alike
import TableGraph.Proofs.Operation.ArgumentForms

/-! # Alike requests give nodes of one form

Two requests that differ in their values alone give nodes of one form, if they give nodes.

* Arguments are of one form where their forms do not depend on the values, or only on the keys of
  filters that are alike (`RecordOperation.Alike.arguments`, `Conditions.Alike.arguments`);
* selections that are put together from parts of one form are of one form, and so, by recursion
  over the columns, are nodes (`Columns.Alike.resolve`, `Invocation.Alike.node`). -/

namespace TableGraph

theorem formSelection_eq_map (entries : List Entry) :
    formSelection entries = entries.map Entry.form := by
  induction entries with
  | nil => rfl
  | cons e rest ih => rw [formSelection, ih, List.map_cons]

/-! ### Arguments -/

section
variable {t : Table}

theorem UpdateOps.Alike.names {ops ops' : UpdateOps} (h : ops.Alike ops') :
    ops.entries.map Prod.fst = ops'.entries.map Prod.fst := by
  unfold UpdateOps.entries
  rw [List.map_filterMap, List.map_filterMap]
  refine List.filterMap_congr fun o _ => ?_
  have ho := h o
  cases hget : ops.get? o <;> cases hget' : ops'.get? o <;> simp [hget, hget'] at ho ⊢

theorem UpdateOps.Alike.arguments {ops ops' : UpdateOps} (h : ops.Alike ops') :
    AgreeBy (List.map Argument.form) (ops.arguments t) (ops'.arguments t) :=
  agreeBy_of_yields (ops.arguments_form t) (h.names ▸ ops'.arguments_form t)

theorem whereArgument_alike {filter filter' : Json} (h : filter.topKeys = filter'.topKeys) :
    AgreeBy Argument.form (whereArgument t filter) (whereArgument t filter') :=
  agreeBy_of_yields (whereArgument_form t filter) (h ▸ whereArgument_form t filter')

theorem conflictArguments_alike {conflict conflict' : Option Json}
    (h : conflict.isSome = conflict'.isSome) :
    AgreeBy (List.map Argument.form) (conflictArguments t conflict)
      (conflictArguments t conflict') :=
  agreeBy_of_isSome h (conflictArguments_form t)

end

/-! ### Conditions -/

namespace Conditions
variable {t : Table} {c c' : Conditions}

theorem filterArguments_alike {filter filter' : Option Json}
    (h : filter.map Json.topKeys = filter'.map Json.topKeys) :
    AgreeBy (List.map Argument.form) (filterArguments t filter) (filterArguments t filter') := by
  cases filter with
  | none =>
      cases filter' with
      | none => exact .refl _
      | some f' => cases h
  | some f =>
      cases filter' with
      | none => cases h
      | some f' =>
          have hkeys : f.topKeys = f'.topKeys := Option.some.inj h
          exact agreeBy_of_yields (filterArguments_form t f) (hkeys ▸ filterArguments_form t f')

theorem orderArguments_alike {order order' : Option Json} (h : order.isSome = order'.isSome) :
    AgreeBy (List.map Argument.form) (orderArguments t order) (orderArguments t order') :=
  agreeBy_of_isSome h (orderArguments_form t)

theorem distinctArguments_alike {columns columns' : Option (List String)}
    (h : columns.isSome = columns'.isSome) :
    AgreeBy (List.map Argument.form) (distinctArguments t columns)
      (distinctArguments t columns') :=
  agreeBy_of_isSome h (distinctArguments_form t)

theorem windowArguments_alike (name : String) {bound bound' : Option Nat}
    (h : bound.isSome = bound'.isSome) :
    (windowArguments name bound).map Argument.form =
      (windowArguments name bound').map Argument.form := by
  cases bound <;> cases bound' <;> simp at h <;> rfl

theorem Alike.arguments (h : c.Alike c') :
    AgreeBy (List.map Argument.form) (c.arguments t) (c'.arguments t) := by
  refine (filterArguments_alike h.filter).bind fun fs fs' hfs => ?_
  refine (orderArguments_alike h.orderBy).bind fun os os' hos => ?_
  refine (distinctArguments_alike h.distinctOn).bind fun ds ds' hds => agreeBy_ok ?_
  simp only [List.map_append]
  rw [hfs, hos, hds, windowArguments_alike "limit" h.limit, windowArguments_alike "offset" h.offset]

end Conditions

/-! ### Columns -/

section
variable {t : Table}

theorem checkSelection_alike {es es' : List Entry} (h : formSelection es = formSelection es') :
    AgreeBy formSelection (checkSelection t es) (checkSelection t es') := by
  intro c d hc hd
  rw [checkSelection_self t es c hc, checkSelection_self t es' d hd, h]

theorem aggregateSelection_alike {requested requested' : Aggregates}
    (h : requested.form = requested'.form) :
    AgreeBy formSelection (aggregateSelection t requested none)
      (aggregateSelection t requested' none) := by
  have hform : ∀ r : Aggregates, Yields (aggregateSelection t r none) fun es =>
      formSelection es = [.aggregate r.form] :=
    fun r => yields_true.bind fun _ _ => yields_ok rfl
  refine agreeBy_of_yields (hform requested) ?_
  rw [h]
  exact hform requested'

theorem aggregateSelection_nodes_alike {requested requested' : Aggregates}
    (h : requested.form = requested'.form) {nodes nodes' : Except BuildError (List Entry)}
    (hnodes : AgreeBy formSelection nodes nodes') :
    AgreeBy formSelection (aggregateSelection t requested (some nodes))
      (aggregateSelection t requested' (some nodes')) := by
  refine AgreeBy.bind (f := fun _ => ()) (fun _ _ _ _ => rfl) fun _ _ _ => ?_
  refine hnodes.bind fun es es' hes => agreeBy_ok ?_
  simp only [formSelection, Entry.form]
  rw [h, hes]

section
variable {kind : NodeKind} {arguments arguments' : Except BuildError (List Argument)}
  {selection selection' : Except BuildError (List Entry)}
  (harguments : AgreeBy (List.map Argument.form) arguments arguments')
  (hselection : AgreeBy formSelection selection selection')
include harguments hselection

theorem relatedNode_alike (ending : String) (key : Option String)
    (relation : Except BuildError Relation) :
    AgreeBy Node.form (relatedNode kind t ending key relation arguments selection)
      (relatedNode kind t ending key relation arguments' selection') := by
  refine (AgreeBy.refl (f := id) relation).bind fun r r' hr => ?_
  refine harguments.bind fun as as' has => hselection.bind fun es es' hes => agreeBy_ok ?_
  simp only [Node.form]
  rw [show r = r' from hr, has, hes]

theorem rootNode_alike {kind' : NodeKind} {field field' : String} (hkind : kind = kind')
    (hfield : field = field') :
    AgreeBy Node.form (rootNode kind t field arguments selection)
      (rootNode kind' t field' arguments' selection') := by
  subst hkind hfield
  refine harguments.bind fun as as' has => hselection.bind fun es es' hes => agreeBy_ok ?_
  simp only [Node.form]
  rw [has, hes]

end

end

theorem AlikeItems.namesAmong : ∀ {items items' : List Column}, AlikeItems items items' →
    namesAmong items = namesAmong items'
  | _, _, .nil => rfl
  | _, _, .field name h => congrArg (name :: ·) h.namesAmong
  | _, _, .related _ _ _ _ h => h.namesAmong

-- By recursion on the proof that the requests are alike. An empty list of items is resolved in its
-- own way, so the cases of `listed` are split by the items too.
mutual

theorem Columns.Alike.resolve : ∀ {cs cs' : Columns}, cs.Alike cs' → ∀ t : Table,
    AgreeBy formSelection (cs.resolve t) (cs'.resolve t)
  | _, _, .listed .nil, _ => .refl _
  | _, _, .listed (.field name h), t =>
      (AlikeItems.resolveItems (.field name h) t).bind fun _ _ hes => checkSelection_alike hes
  | _, _, .listed (.related target name key hreach h), t =>
      (AlikeItems.resolveItems (.related target name key hreach h) t).bind
        fun _ _ hes => checkSelection_alike hes
  | _, _, .allExcept h, t => by
      unfold Columns.resolve
      rw [h.namesAmong]
      split
      · refine (AlikeItems.resolveRelated h t).bind fun es es' hes => checkSelection_alike ?_
        simp only [formSelection_eq_map, List.map_append] at hes ⊢
        rw [hes]
      · exact agreeBy_error

theorem AlikeItems.resolveItems : ∀ {items items' : List Column}, AlikeItems items items' →
    ∀ t : Table, AgreeBy formSelection (resolveItems t items) (resolveItems t items')
  | _, _, .nil, _ => .refl _
  | _, _, .field name h, t => by
      unfold TableGraph.resolveItems
      split
      · exact agreeBy_error
      · refine (AlikeItems.resolveItems h t).bind fun es es' hes => agreeBy_ok ?_
        rw [formSelection, formSelection, hes]
  | _, _, .related target name key hreach h, t => by
      refine (Reach.Alike.resolve hreach t target name key).bind fun n n' hn => ?_
      refine (AlikeItems.resolveItems h t).bind fun es es' hes => agreeBy_ok ?_
      simp only [formSelection, Entry.form]
      rw [hn, hes]

theorem AlikeItems.resolveRelated : ∀ {items items' : List Column}, AlikeItems items items' →
    ∀ t : Table, AgreeBy formSelection (resolveRelated t items) (resolveRelated t items')
  | _, _, .nil, _ => .refl _
  | _, _, .field _ h, t => AlikeItems.resolveRelated h t
  | _, _, .related target name key hreach h, t => by
      refine (Reach.Alike.resolve hreach t target name key).bind fun n n' hn => ?_
      refine (AlikeItems.resolveRelated h t).bind fun es es' hes => agreeBy_ok ?_
      simp only [formSelection, Entry.form]
      rw [hn, hes]

theorem Reach.Alike.resolve : ∀ {reach reach' : Reach}, reach.Alike reach' →
    ∀ (parent target : Table) (name key : Option String),
      AgreeBy Node.form (reach.resolve parent target name key)
        (reach'.resolve parent target name key)
  | _, _, .one h, _, target, _, key =>
      relatedNode_alike (.refl _) (h.resolve target) "" key _
  | _, _, .many hc h, _, target, _, key =>
      relatedNode_alike hc.arguments (h.resolve target) "" key _
  | _, _, .aggregate hc h, _, _, _, key =>
      relatedNode_alike hc.arguments (aggregateSelection_alike h) "_aggregate" key _
  | _, _, .aggregateWithNodes hc h hcolumns, _, target, _, key =>
      relatedNode_alike hc.arguments
        (aggregateSelection_nodes_alike h (hcolumns.resolve target)) "_aggregate" key _

end

theorem MutationOutput.Alike.selection {output output' : MutationOutput} (h : output.Alike output')
    (t : Table) : AgreeBy formSelection (output.selection t) (output'.selection t) := by
  cases h with
  | returning h =>
      refine (h.resolve t).bind fun es es' hes => agreeBy_ok ?_
      simp only [formSelection, Entry.form, hes]
  | affectedRows => exact .refl _
  | returningWithRows h =>
      refine (h.resolve t).bind fun es es' hes => agreeBy_ok ?_
      simp only [formSelection, Entry.form, hes]

/-! ### Operations -/

section
variable {t : Table}

theorem arguments_cons_alike {x x' : Except BuildError Argument}
    {xs xs' : Except BuildError (List Argument)} (hx : AgreeBy Argument.form x x')
    (hxs : AgreeBy (List.map Argument.form) xs xs') :
    AgreeBy (List.map Argument.form) (do pure ((← x) :: (← xs)))
      (do pure ((← x') :: (← xs'))) := by
  refine hx.bind fun a a' ha => hxs.bind fun as as' has => agreeBy_ok ?_
  rw [List.map_cons, List.map_cons, ha, has]

theorem arguments_singleton_alike {x x' : Except BuildError Argument}
    (hx : AgreeBy Argument.form x x') :
    AgreeBy (List.map Argument.form) (do pure [← x]) (do pure [← x']) := by
  refine hx.bind fun a a' ha => agreeBy_ok ?_
  rw [List.map_singleton, List.map_singleton, ha]

theorem functionArgument_alike (function : String) (args args' : Json) :
    AgreeBy Argument.form (functionArgument t function args) (functionArgument t function args') :=
  agreeBy_of_constant (functionArgument_form t function) args args'

theorem RecordOperation.Alike.arguments {op op' : RecordOperation} (h : op.Alike op') :
    AgreeBy (List.map Argument.form) (op.arguments t) (op'.arguments t) := by
  cases h with
  | selectByKey key key' => exact agreeBy_of_constant (keyArguments_form t) key key'
  | insert object object' h =>
      have hobject := agreeBy_of_constant (objectArgument_form t) object object'
      exact arguments_cons_alike hobject (conflictArguments_alike h)
  | updateByKey key key' h =>
      have hkey := agreeBy_of_constant (keyColumnsArgument_form t) key key'
      exact arguments_cons_alike hkey h.arguments
  | deleteByKey key key' => exact agreeBy_of_constant (keyArguments_form t) key key'
  | call type function args args' =>
      exact arguments_singleton_alike (functionArgument_alike function args args')

theorem ListOperation.Alike.arguments {op op' : ListOperation} (h : op.Alike op') :
    AgreeBy (List.map Argument.form) (op.arguments t) (op'.arguments t) := by
  cases h with
  | select h => exact h.arguments
  | call type function args args' h =>
      exact arguments_cons_alike (functionArgument_alike function args args') h.arguments

theorem BulkOperation.Alike.arguments {op op' : BulkOperation} (h : op.Alike op') :
    AgreeBy (List.map Argument.form) (op.arguments t) (op'.arguments t) := by
  cases h with
  | insert objects objects' h =>
      have hobjects := agreeBy_of_constant (objectsArgument_form t) objects objects'
      exact arguments_cons_alike hobjects (conflictArguments_alike h)
  | update hfilter h => exact arguments_cons_alike (whereArgument_alike hfilter) h.arguments
  | delete h => exact arguments_singleton_alike (whereArgument_alike h)

theorem DistinctUpdates.arguments_alike (us us' : DistinctUpdates) :
    AgreeBy (List.map Argument.form) (us.arguments t) (us'.arguments t) :=
  arguments_singleton_alike (agreeBy_of_constant (updatesArgument_form t) us us')

theorem AggregateOperation.Alike.arguments {op op' : AggregateOperation} (h : op.Alike op') :
    AgreeBy (List.map Argument.form) (op.arguments t) (op'.arguments t) := by
  cases h with
  | select h => exact h.arguments
  | call function args args' h =>
      exact arguments_cons_alike (functionArgument_alike function args args') h.arguments

theorem AggregateOperation.Alike.node {op op' : AggregateOperation} (h : op.Alike op')
    {requested requested' : Aggregates} {nodes nodes' : Option Columns}
    (hselection : AgreeBy formSelection
      (aggregateSelection t requested (nodes.map (·.resolve t)))
      (aggregateSelection t requested' (nodes'.map (·.resolve t)))) :
    AgreeBy Node.form (op.node t requested nodes) (op'.node t requested' nodes') :=
  rootNode_alike h.arguments hselection (by cases h <;> rfl) (by cases h <;> rfl)

/-- Alike requests give nodes of one form. -/
theorem Invocation.Alike.node {i i' : Invocation} (h : i.Alike i') :
    AgreeBy Node.form (i.node t) (i'.node t) := by
  cases h with
  | record hop h =>
      exact rootNode_alike hop.arguments (h.resolve t) (by cases hop <;> rfl) (by cases hop <;> rfl)
  | list hop h =>
      exact rootNode_alike hop.arguments (h.resolve t) (by cases hop <;> rfl) (by cases hop <;> rfl)
  | bulk hop h =>
      exact rootNode_alike hop.arguments (h.selection t) (by cases hop <;> rfl)
        (by cases hop <;> rfl)
  | perUpdate updates updates' h =>
      exact rootNode_alike (updates.arguments_alike updates') (h.selection t) rfl rfl
  | aggregate hop h => exact hop.node (aggregateSelection_alike h)
  | aggregateWithNodes hop h hcolumns =>
      exact hop.node (aggregateSelection_nodes_alike h (hcolumns.resolve t))
  | count hop => exact hop.node (aggregateSelection_alike rfl)
  | function f columns hop => exact hop.node (aggregateSelection_alike rfl)

end

end TableGraph
