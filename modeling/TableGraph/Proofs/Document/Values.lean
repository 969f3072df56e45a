import TableGraph.Proofs.Document.Form
import TableGraph.Proofs.Operation.AlikeNodes
import TableGraph.Sample.Tables

/-! # Values and the text of a document

No value enters the text of a document. What differs between two documents that are sent for the
same requests with other values are the values of their variables, and nothing else.

* Nodes that alike requests give are of one form (`BuiltAlike.form_eq`);
* documents of one form have the same text and the same names (`Document.compile_form`), whether
  they have one root or were filled with many. -/

namespace TableGraph

/-- Nodes that alike requests on one table give, under one alias or under none. -/
inductive BuiltAlike : Node → Node → Prop where
  | mk {t : Table} {i i' : Invocation} {n n' : Node} (h : i.Alike i') (hn : i.node t = .ok n)
      (hn' : i'.node t = .ok n') (key : Option String) :
    BuiltAlike { n with «alias» := key } { n' with «alias» := key }

theorem BuiltAlike.form_eq {n n' : Node} (h : BuiltAlike n n') : n.form = n'.form := by
  obtain ⟨h, hn, hn', key⟩ := h
  rw [Node.form_aliased, Node.form_aliased, h.node _ _ hn hn']

theorem BuiltAlike.map_form_eq {nodes nodes' : List Node}
    (h : List.Forall₂ BuiltAlike nodes nodes') : nodes.map Node.form = nodes'.map Node.form := by
  induction h with
  | nil => rfl
  | cons h _ ih => rw [List.map_cons, List.map_cons, h.form_eq, ih]

namespace Document

theorem withoutValues_eq {d d' : Document} (h : d.form = d'.form) :
    d.compile.withoutValues = d'.compile.withoutValues := by
  rw [← d.compile_form, h, d'.compile_form]

theorem variables_eq_zip (d : Document) :
    d.compile.variables = (OrderedMap.keys d.compile.variables).zip (d.sites.map Binding.value) := by
  rw [d.keys_variables, d.variables_eq, List.zip, List.zipWith_map_right]

/-- Documents that differ in the values of their bindings alone have the same text and the same
names of variables in order; the values go to the variables, one by one. So it is with the
documents of one root, and with those that are filled with any number of roots, if the roots come
from requests that differ in values alone. -/
theorem values_never_in_text :
    (∀ d d' : Document, d.form = d'.form →
      d.compile.withoutValues = d'.compile.withoutValues) ∧
    (∀ d : Document, d.compile.variables =
      (OrderedMap.keys d.compile.variables).zip (d.sites.map Binding.value)) ∧
    (∀ n n' : Node, BuiltAlike n n' →
      (single n).map (·.2.compile.withoutValues) = (single n').map (·.2.compile.withoutValues)) ∧
    ∀ (type : OperationType) (nodes nodes' : List Node), List.Forall₂ BuiltAlike nodes nodes' →
      ((empty type).attemptAll nodes).compile.withoutValues =
        ((empty type).attemptAll nodes').compile.withoutValues := by
  refine ⟨fun d d' h => withoutValues_eq h, variables_eq_zip, ?_, ?_⟩
  · intro n n' h
    have hsingle : ∀ m : Node, (single m).map (·.2.compile.withoutValues) =
        (single m.form).map (·.2.compile.withoutValues) := by
      intro m
      rw [single_form]
      cases single m with
      | error e => rfl
      | ok added => exact congrArg Except.ok added.2.compile_form.symm
    rw [hsingle n, hsingle n', h.form_eq]
  · intro type nodes nodes' h
    apply withoutValues_eq
    rw [← attemptAll_form, ← attemptAll_form, BuiltAlike.map_form_eq h]

/-- Two searches for authors by name, with their articles by number of likes: other names, bounds
and numbers change nothing but values. -/
theorem values_never_in_text_of_authors :
    let likes : Nat → Json := fun n => .object [("likes", .object [("_gt", .ofNat n)])]
    let search : String → Nat → Nat → Invocation := fun name bound n =>
      .list (.select { Conditions.none with
          filter := some (.object [("name", .object [("_eq", .string name)])])
          limit := some bound })
        (.listed [.field "name", .related Sample.articles none none
          (.many { Conditions.none with filter := some (likes n) } .key)])
    let root : String → Nat → Nat → Node := fun name bound n =>
      ⟨.selectMany, Sample.authors, "authors", none,
        [⟨"where", .object [("name", .variable
          ⟨"name", "String_comparison_exp", .object [("_eq", .string name)]⟩)]⟩,
          .bound "limit" "Int" (.ofNat bound)],
        [.column "name", .related ⟨.relatedMany, Sample.articles, "articles", none,
          [⟨"where", .object [("likes", .variable
            ⟨"likes", "Int_comparison_exp", .object [("_gt", .ofNat n)]⟩)]⟩],
          [.column "uuid"]⟩]⟩
    (search "Ann" 5 100).Alike (search "\x7d drop" 9 0) ∧
    BuiltAlike (root "Ann" 5 100) (root "\x7d drop" 9 0) ∧
    (single (root "Ann" 5 100)).map (·.2.compile.withoutValues) =
      (single (root "\x7d drop" 9 0)).map (·.2.compile.withoutValues) := by
  intro likes search root
  have hnode : ∀ name bound n,
      (search name bound n).node Sample.authors = .ok (root name bound n) :=
    fun name bound n => rfl
  have harticles : ∀ m n, Reach.Alike
      (.many { Conditions.none with filter := some (likes m) } .key)
      (.many { Conditions.none with filter := some (likes n) } .key) :=
    fun m n => .many ⟨rfl, rfl, rfl, rfl, rfl⟩ (.refl .key)
  have halike : (search "Ann" 5 100).Alike (search "\x7d drop" 9 0) :=
    .list (.select ⟨rfl, rfl, rfl, rfl, rfl⟩)
      (.listed (.field "name" (.related Sample.articles none none (harticles 100 0) .nil)))
  have hbuilt : BuiltAlike (root "Ann" 5 100) (root "\x7d drop" 9 0) :=
    .mk halike (hnode "Ann" 5 100) (hnode "\x7d drop" 9 0) none
  exact ⟨halike, hbuilt, values_never_in_text.2.2.1 _ _ hbuilt⟩

end Document

end TableGraph
