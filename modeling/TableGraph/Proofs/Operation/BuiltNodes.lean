import TableGraph.Proofs.Operation.KeyedArguments
import TableGraph.Proofs.Operation.Selections
import TableGraph.Sample.Tables

/-! # Nodes that are built

What every node and every selection set in a built node satisfies, at every depth.

* Selections are valid (`Invocation.node_valid`); the arguments of the root and of each relation in
  it have different names, and no object literal in them has a key twice (`Invocation.node_keyed`);
* the arguments of a relation come from conditions alone, so that nothing is asked of the key of
  its table. -/

namespace TableGraph

/-- The node and the nodes in it have arguments of different names and keys. -/
def Node.Keyed (n : Node) : Prop := ∀ m ∈ n.subnodes, KeyedArguments m.arguments

/-- The nodes in the selection have arguments of different names and keys. -/
def KeyedSelection (entries : List Entry) : Prop :=
  ∀ m ∈ subnodesIn entries, KeyedArguments m.arguments

theorem KeyedSelection.node {n : Node} (hselection : KeyedSelection n.selection)
    (harguments : KeyedArguments n.arguments) : n.Keyed := by
  cases n
  exact List.forall_mem_cons.mpr ⟨harguments, hselection⟩

theorem KeyedSelection.related {n : Node} {entries : List Entry} (hn : n.Keyed)
    (h : KeyedSelection entries) : KeyedSelection (.related n :: entries) :=
  List.forall_mem_append.mpr ⟨hn, h⟩

theorem KeyedSelection.columns (names : List String) {entries : List Entry}
    (h : KeyedSelection entries) : KeyedSelection (names.map .column ++ entries) := by
  induction names with
  | nil => exact h
  | cons name rest ih => exact ih

/-! ### Columns -/

theorem checkSelection_keyed {t : Table} {entries : List Entry} (h : KeyedSelection entries) :
    Yields (checkSelection t entries) KeyedSelection := by
  intro es hes
  rw [checkSelection_self t entries es hes]
  exact h

theorem aggregateSelection_keyed {t : Table} (requested : Aggregates)
    {nodes : Option (Except BuildError (List Entry))}
    (h : ∀ selection ∈ nodes, Yields selection KeyedSelection) :
    Yields (aggregateSelection t requested nodes) KeyedSelection := by
  refine yields_true.bind fun _ _ => ?_
  cases nodes with
  | none => exact yields_ok nofun
  | some selection =>
      refine (h selection rfl).bind fun es hes => yields_ok ?_
      exact List.forall_mem_append.mpr ⟨nofun, List.forall_mem_append.mpr ⟨hes, nofun⟩⟩

theorem relatedNode_keyed {kind : NodeKind} {t : Table} {ending : String} {key : Option String}
    {relation : Except BuildError Relation} {arguments : Except BuildError (List Argument)}
    {selection : Except BuildError (List Entry)} (harguments : Yields arguments KeyedArguments)
    (hselection : Yields selection KeyedSelection) :
    Yields (relatedNode kind t ending key relation arguments selection) Node.Keyed := by
  intro n hn
  obtain ⟨r, as, es, -, has, hes, rfl⟩ := relatedNode_eq_ok hn
  exact KeyedSelection.node (hselection es hes) (harguments as has)

mutual

theorem Columns.resolve_keyed : ∀ (columns : Columns) (t : Table), DistinctKeys columns.filters →
    Yields (columns.resolve t) KeyedSelection
  | .listed [], t, _ => by
      have hkey : KeyedSelection (t.primaryKey.map .column ++ []) := .columns t.primaryKey nofun
      rw [List.append_nil] at hkey
      exact checkSelection_keyed hkey
  | .listed (item :: rest), t, h =>
      (resolveItems_keyed (item :: rest) t h).bind fun _ hes => checkSelection_keyed hes
  | .allExcept items, t, h => by
      unfold Columns.resolve
      split
      · exact (resolveRelated_keyed items t h).bind fun es hes =>
          checkSelection_keyed (hes.columns _)
      · exact yields_error

theorem resolveItems_keyed : ∀ (items : List Column) (t : Table),
    DistinctKeys (filtersAmong items) → Yields (resolveItems t items) KeyedSelection
  | [], _, _ => yields_ok nofun
  | .field name :: rest, t, h => by
      unfold resolveItems
      split
      · exact yields_error
      · exact (resolveItems_keyed rest t h).bind fun es hes => yields_ok (hes.columns [name])
  | .related target name key reach :: rest, t, h => by
      refine (reach.resolve_keyed t target name key h.append.1).bind fun n hn => ?_
      exact (resolveItems_keyed rest t h.append.2).bind fun es hes => yields_ok (.related hn hes)

theorem resolveRelated_keyed : ∀ (items : List Column) (t : Table),
    DistinctKeys (filtersAmong items) → Yields (resolveRelated t items) KeyedSelection
  | [], _, _ => yields_ok nofun
  | .field _ :: rest, t, h => resolveRelated_keyed rest t h
  | .related target name key reach :: rest, t, h => by
      refine (reach.resolve_keyed t target name key h.append.1).bind fun n hn => ?_
      exact (resolveRelated_keyed rest t h.append.2).bind fun es hes => yields_ok (.related hn hes)

theorem Reach.resolve_keyed : ∀ (reach : Reach) (parent target : Table) (name key : Option String),
    DistinctKeys reach.filters → Yields (reach.resolve parent target name key) Node.Keyed
  | .one columns, _, target, _, _, h =>
      relatedNode_keyed (yields_ok ⟨List.nodup_nil, nofun⟩) (columns.resolve_keyed target h)
  | .many conditions columns, _, target, _, _, h =>
      relatedNode_keyed (conditions.arguments_keyed target h.append.1)
        (columns.resolve_keyed target h.append.2)
  | .aggregate conditions requested, _, target, _, _, h =>
      relatedNode_keyed (conditions.arguments_keyed target h)
        (aggregateSelection_keyed requested nofun)
  | .aggregateWithNodes conditions requested columns, _, target, _, _, h =>
      relatedNode_keyed (conditions.arguments_keyed target h.append.1)
        (aggregateSelection_keyed requested fun selection hselection => by
          cases hselection
          exact columns.resolve_keyed target h.append.2)

end

/-! ### Operations -/

theorem MutationOutput.selection_keyed (output : MutationOutput) (t : Table)
    (h : DistinctKeys output.filters) : Yields (output.selection t) KeyedSelection := by
  cases output with
  | returning columns =>
      refine (columns.resolve_keyed t h).bind fun es hes => yields_ok ?_
      exact List.forall_mem_append.mpr ⟨hes, nofun⟩
  | affectedRows => exact yields_ok nofun
  | returningWithRows columns =>
      refine (columns.resolve_keyed t h).bind fun es hes => yields_ok ?_
      exact List.forall_mem_append.mpr ⟨hes, nofun⟩

theorem rootNode_keyed {kind : NodeKind} {t : Table} {field : String}
    {arguments : Except BuildError (List Argument)} {selection : Except BuildError (List Entry)}
    (harguments : Yields arguments KeyedArguments) (hselection : Yields selection KeyedSelection) :
    Yields (rootNode kind t field arguments selection) Node.Keyed := by
  intro n hn
  obtain ⟨as, es, has, hes, rfl⟩ := rootNode_eq_ok hn
  exact KeyedSelection.node (hselection es hes) (harguments as has)

/-- All nodes in a node that is built have arguments of different names and keys. -/
theorem Invocation.node_keyed (i : Invocation) {t : Table} (hkey : t.primaryKey.Nodup)
    (h : DistinctKeys i.filters) : Yields (i.node t) Node.Keyed := by
  cases i with
  | record op columns =>
      exact rootNode_keyed (op.arguments_keyed t hkey) (columns.resolve_keyed t h)
  | list op columns =>
      exact rootNode_keyed (op.arguments_keyed t h.append.1) (columns.resolve_keyed t h.append.2)
  | bulk op output =>
      exact rootNode_keyed (op.arguments_keyed t h.append.1) (output.selection_keyed t h.append.2)
  | perUpdate updates output =>
      exact rootNode_keyed (updates.arguments_keyed t) (output.selection_keyed t h)
  | aggregate op requested nodes =>
      refine rootNode_keyed (op.arguments_keyed t h.append.1)
        (aggregateSelection_keyed requested ?_)
      intro selection hselection
      obtain ⟨columns, rfl, rfl⟩ := Option.map_eq_some_iff.mp hselection
      refine columns.resolve_keyed t ?_
      simpa using h.append.2
  | count op => exact rootNode_keyed (op.arguments_keyed t h) (aggregateSelection_keyed _ nofun)
  | function op f columns =>
      exact rootNode_keyed (op.arguments_keyed t h) (aggregateSelection_keyed _ nofun)

/-- What is built can be sent. Every selection set, at every depth, is not empty, answers under
different keys, and has entries that fit its table; and if the primary key of the table has no
column twice, all nodes have arguments of different names, and no object literal has a key twice.
An object of JSON has each key once, which is asked here of the filters. -/
theorem built_nodes_are_valid {t : Table} {i : Invocation} {n : Node} (h : i.node t = .ok n) :
    (∀ s ∈ n.selectionSets,
      s.entries ≠ [] ∧ (s.entries.map Entry.responseKey).Nodup ∧ ∀ e ∈ s.entries, e.Fits s.table) ∧
    (t.primaryKey.Nodup → (∀ f ∈ i.filters, f.topKeys.Nodup) →
      ∀ m ∈ n.subnodes, (m.arguments.map Argument.name).Nodup ∧
        ∀ a ∈ m.arguments, ∀ entries ∈ a.value.literals, (OrderedMap.keys entries).Nodup) := by
  constructor
  · intro s hs
    have hvalid := i.node_valid t n h s hs
    exact ⟨hvalid.ne_nil, hvalid.nodup, hvalid.fits⟩
  · intro hkey hfilters m hm
    have hkeyed := i.node_keyed hkey hfilters n h m hm
    exact ⟨hkeyed.nodup, hkeyed.keyed⟩

/-- An update of authors that reports the rows with the number of articles of each, and three of
these. -/
theorem built_nodes_are_valid_of_authors :
    let filter : Json := .object [("name", .null), ("_not", .null)]
    let i : Invocation := .bulk (.update filter { UpdateOps.none with set := some (.object []) })
      (.returningWithRows (.listed [.field "name", .related Sample.articles none none
        (.aggregateWithNodes { Conditions.none with filter := some (.object [("likes", .null)])
                                                    limit := some 3 } .justCount .key)]))
    let works : Node := ⟨.relatedAggregate, Sample.articles, "articles_aggregate", none,
      [⟨"where", .object [("likes", .variable ⟨"likes", "Int_comparison_exp", .null⟩)]⟩,
        .bound "limit" "Int" (.ofNat 3)],
      [.aggregate .justCount, .nodes [.column "uuid"]]⟩
    let n : Node := ⟨.updateMany, Sample.authors, "update_authors", none,
      [⟨"where", .object [("name", .variable ⟨"name", "String_comparison_exp", .null⟩),
          ("_not", .variable ⟨"_not", "authors_bool_exp", .null⟩)]⟩,
        .bound "_set" "authors_set_input" (.object [])],
      [.returning [.column "name", .related works], .affectedRows]⟩
    i.node Sample.authors = .ok n ∧ n.subnodes = [n, works] ∧
    (∀ s ∈ n.selectionSets, s.entries ≠ [] ∧ (s.entries.map Entry.responseKey).Nodup) ∧
    ∀ m ∈ n.subnodes, (m.arguments.map Argument.name).Nodup := by
  intro filter i works n
  have hnode : i.node Sample.authors = .ok n := rfl
  have hfilters : ∀ f ∈ i.filters, f.topKeys.Nodup := by decide
  obtain ⟨hselections, harguments⟩ := built_nodes_are_valid hnode
  exact ⟨hnode, rfl, fun s hs => ⟨(hselections s hs).1, (hselections s hs).2.1⟩,
    fun m hm => (harguments (by decide) hfilters m hm).1⟩

end TableGraph
