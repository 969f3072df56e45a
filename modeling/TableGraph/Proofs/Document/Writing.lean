import TableGraph.Document.Compile
import TableGraph.Proofs.Variables.Names
import TableGraph.Proofs.Document.Outline

/-! # Writing a document in one pass

The draft of a document against its outline.

* `Agrees g vs` says that `g i` is the name of variable number `i`; it is kept by going back to
  fewer variables (`Agrees.of_bindAll`), so one `g` serves the whole document;
* every writer appends the text of an outline whose sites are filled with `g`, and binds its sites
  in order (`value_eq`, `arguments_eq`, `node_eq`, `roots_eq`). -/

namespace TableGraph

open GraphQL

/-- `g i` is the name of variable number `i`. -/
def Agrees (g : Nat → String) (vs : Variables) : Prop :=
  ∀ i name, vs.names[i]? = some name → g i = name

theorem Agrees.of_bindAll {g : Nat → String} {vs : Variables} {sites : List Binding}
    (h : Agrees g (vs.bindAll sites)) : Agrees g vs := by
  intro i name hi
  apply h
  rw [Variables.names_bindAll, List.getElem?_append_left (List.getElem?_eq_some_iff.mp hi).1]
  exact hi

theorem agrees_names (vs : Variables) : Agrees (fun i => vs.names.getD i "") vs := by
  intro i name hi
  show vs.names.getD i "" = name
  rw [List.getD_eq_getElem?_getD, hi, Option.getD_some]

/-! ### Drafts -/

theorem selectionText_append (first second : List (QueryField String)) :
    selectionText (first ++ second) = selectionText first ++ selectionText second := by
  induction first with
  | nil => simp [selectionText]
  | cons f rest ih => simp only [List.cons_append, selectionText, ih, String.append_assoc]

namespace Draft

variable {g : Nat → String}

/-- The draft after a text is written and sites are bound. -/
def after (d : Draft) (text : String) (sites : List Binding) : Draft :=
  ⟨d.text ++ text, d.bound.bindAll sites⟩

@[simp] theorem after_bound (d : Draft) (text : String) (sites : List Binding) :
    (d.after text sites).bound = d.bound.bindAll sites := rfl

theorem write_eq (d : Draft) (text : String) : d.write text = d.after text [] := rfl

theorem after_after (d : Draft) (first second : String) (sites more : List Binding) :
    (d.after first sites).after second more = d.after (first ++ second) (sites ++ more) := by
  simp only [after, Variables.bindAll_append, String.append_assoc]

theorem bind_eq (d : Draft) (b : Binding) (h : Agrees g (d.bound.bindAll [b])) :
    d.bind b = d.after ("$" ++ g d.bound.size) [b] := by
  have hname : g d.bound.size = (d.bound.bind b.base b.type b.value).1 := by
    apply h
    rw [Variables.names_bindAll, ← Variables.length_names]
    simp [Variables.namesOf]
  rw [hname]
  rfl

/-! ### Arguments -/

mutual

theorem value_eq : ∀ (d : Draft) (v : ArgumentValue),
    Agrees g (d.bound.bindAll v.outline.sites) →
    d.value v = d.after (v.outline.fill g d.bound.size).text v.outline.sites
  | d, .variable b, h => by
      simp only [ArgumentValue.outline, Value.sites] at h ⊢
      exact bind_eq d b h
  | d, .object entries, h => by
      simp only [ArgumentValue.outline, Value.sites] at h
      simp only [value, write_eq]
      rw [members_eq (d.after "\x7b" []) "" entries h, chained_empty]
      simp only [after_after, after_bound, ArgumentValue.outline, Value.fill, Value.text,
        Value.sites, List.nil_append, List.append_nil]
      rfl

theorem members_eq : ∀ (d : Draft) (lead : String) (entries : List (String × ArgumentValue)),
    Agrees g (d.bound.bindAll (valueSites (outlineMembers entries))) →
    d.members lead entries = d.after
      (chained ", " lead (fieldTexts (fillValues g d.bound.size (outlineMembers entries))))
      (valueSites (outlineMembers entries))
  | d, lead, [], h => by
      simp [members, outlineMembers, valueSites, fillValues, fieldTexts, chained, after,
        Variables.bindAll]
  | d, lead, (name, v) :: rest, h => by
      simp only [outlineMembers, valueSites, Variables.bindAll_append] at h
      have hv := value_eq (d.after (lead ++ name ++ ": ") []) v h.of_bindAll
      have hrest := members_eq ((d.after (lead ++ name ++ ": ") []).after
        (v.outline.fill g d.bound.size).text v.outline.sites) ", " rest h
      simp only [after_bound, Variables.bindAll] at hv hrest
      simp only [members, write_eq]
      rw [hv, hrest]
      simp only [after_after, outlineMembers, valueSites, fillValues, fieldTexts, chained,
        List.nil_append, Variables.size_bindAll, String.append_assoc]

end

theorem argumentList_eq : ∀ (d : Draft) (lead : String) (arguments : List Argument),
    Agrees g (d.bound.bindAll (valueSites (outlineArguments arguments))) →
    d.argumentList lead arguments = d.after
      (chained ", " lead (fieldTexts (fillValues g d.bound.size (outlineArguments arguments))))
      (valueSites (outlineArguments arguments))
  | d, lead, [], h => by
      simp [argumentList, outlineArguments, valueSites, fillValues, fieldTexts, chained, after,
        Variables.bindAll]
  | d, lead, argument :: rest, h => by
      simp only [outlineArguments, valueSites, Variables.bindAll_append] at h
      have hv := value_eq (d.after (lead ++ argument.name ++ ": ") []) argument.value h.of_bindAll
      have hrest := argumentList_eq ((d.after (lead ++ argument.name ++ ": ") []).after
        (argument.value.outline.fill g d.bound.size).text argument.value.outline.sites) ", "
        rest h
      simp only [after_bound, Variables.bindAll] at hv hrest
      simp only [argumentList, write_eq]
      rw [hv, hrest]
      simp only [after_after, outlineArguments, valueSites, fillValues, fieldTexts, chained,
        List.nil_append, Variables.size_bindAll, String.append_assoc]

theorem arguments_eq (d : Draft) (arguments : List Argument)
    (h : Agrees g (d.bound.bindAll (valueSites (outlineArguments arguments)))) :
    d.arguments arguments = d.after
      (argumentsText (fillValues g d.bound.size (outlineArguments arguments)))
      (valueSites (outlineArguments arguments)) := by
  cases arguments with
  | nil =>
      simp [Draft.arguments, outlineArguments, valueSites, fillValues, argumentsText, after,
        Variables.bindAll]
  | cons argument rest =>
      simp only [Draft.arguments, write_eq]
      rw [argumentList_eq (d.after "(" []) "" (argument :: rest) h, chained_empty]
      simp only [after_after, after_bound, Variables.bindAll, List.nil_append, List.append_nil,
        outlineArguments, fillValues, argumentsText]

/-! ### Aggregates -/

theorem columns_eq (d : Draft) (columns : List String) (k : Nat) :
    d.columns columns = d.after (selectionText (fillFields g k (outlineColumns columns))) [] := by
  induction columns generalizing d k with
  | nil => simp [Draft.columns, outlineColumns, fillFields, selectionText, after, Variables.bindAll]
  | cons column rest ih =>
      simp only [Draft.columns, write_eq]
      rw [ih _ k]
      simp [after_after, outlineColumns, fillFields, QueryField.fill, QueryField.sites, valueSites,
        fillValues, QueryField.text, aliasText, argumentsText, selectionText, String.append_assoc]

theorem functions_eq (d : Draft) (functions : List (AggregateFunction × List String)) (k : Nat) :
    d.functions functions =
      d.after (selectionText (fillFields g k (outlineFunctions functions))) [] := by
  induction functions generalizing d k with
  | nil =>
      simp [Draft.functions, outlineFunctions, fillFields, selectionText, after, Variables.bindAll]
  | cons f rest ih =>
      obtain ⟨f, columns⟩ := f
      simp only [Draft.functions, write_eq]
      rw [columns_eq (g := g) _ columns k, ih _ (k + (fieldSites (outlineColumns columns)).length)]
      simp [after_after, outlineFunctions, fillFields, QueryField.fill, QueryField.sites, valueSites,
        fillValues, QueryField.text, argumentsText, aliasText, selectionText, String.append_assoc]

theorem count_eq (d : Draft) (t : TableName) (count : Option CountSpec)
    (h : Agrees g (d.bound.bindAll (fieldSites (outlineCount t count)))) :
    d.count t count = d.after (selectionText (fillFields g d.bound.size (outlineCount t count)))
      (fieldSites (outlineCount t count)) := by
  cases count with
  | none =>
      simp [Draft.count, outlineCount, fillFields, fieldSites, selectionText, after,
        Variables.bindAll]
  | some c =>
      simp only [outlineCount, fieldSites, QueryField.sites, List.append_nil] at h
      simp only [Draft.count, write_eq]
      rw [arguments_eq ((d.after " " []).after "count" []) _ h]
      simp only [after_after, after_bound, Variables.bindAll, outlineCount, fillFields,
        QueryField.fill, fieldSites, QueryField.sites, QueryField.text, aliasText, selectionText,
        String.empty_append, List.nil_append, List.append_nil, String.append_assoc,
        String.append_empty]

theorem aggregate_eq (d : Draft) (t : TableName) (requested : Aggregates)
    (h : Agrees g (d.bound.bindAll ((Entry.aggregate requested).outline t).sites)) :
    d.aggregate t requested =
      d.after (((Entry.aggregate requested).outline t).fill g d.bound.size).text
        ((Entry.aggregate requested).outline t).sites := by
  simp only [Entry.outline, QueryField.sites, valueSites, List.nil_append, fieldSites_append,
    fieldSites_outlineFunctions, List.append_nil] at h
  have hcount := count_eq ((d.after "aggregate" []).after " \x7b" []) t requested.count h
  simp only [aggregate, write_eq]
  rw [hcount, functions_eq (g := g) _ _ (d.bound.size +
    (fieldSites (outlineCount t requested.count)).length)]
  simp [after_after, Variables.bindAll, Entry.outline, QueryField.fill, QueryField.sites,
    QueryField.text, valueSites, fillValues, fillFields_append, fieldSites_append, fieldSites_outlineFunctions,
    selectionText_append, aliasText, argumentsText, String.append_assoc]

/-! ### Nodes -/

theorem leaf_eq (d : Draft) (name : String) (k : Nat) :
    d.write name =
      d.after ((QueryField.leaf none name [] : QueryField Binding).fill g k).text [] := by
  simp [write_eq, QueryField.fill, fillValues, QueryField.text, aliasText, argumentsText]

theorem branch_eq (d : Draft) (name : String) (t : TableName) (entries : List Entry)
    (h : ((d.after name []).after " \x7b" []).selection t entries =
      ((d.after name []).after " \x7b" []).after
        (selectionText (fillFields g d.bound.size (outlineSelection t entries)))
        (fieldSites (outlineSelection t entries))) :
    (((d.write name).write " \x7b").selection t entries).write " \x7d" =
      d.after ((QueryField.branch none name [] (outlineSelection t entries)).fill g d.bound.size).text
        (fieldSites (outlineSelection t entries)) := by
  simp only [write_eq, h]
  simp [after_after, QueryField.fill, fillValues, valueSites, QueryField.text, aliasText,
    argumentsText, String.append_assoc]

theorem label_eq (d : Draft) (key : Option String) :
    d.label key = d.after (aliasText key) [] := by
  cases key with
  | none => simp [Draft.label, aliasText, after, Variables.bindAll]
  | some key => rfl

mutual

theorem node_eq : ∀ (d : Draft) (n : Node), Agrees g (d.bound.bindAll n.outline.sites) →
    d.node n = d.after (n.outline.fill g d.bound.size).text n.outline.sites
  | d, ⟨_, table, field, key, arguments, selection⟩, h => by
      simp only [Node.outline, QueryField.sites, Variables.bindAll_append] at h
      have hargs := arguments_eq ((d.after (aliasText key) []).after field []) arguments
        h.of_bindAll
      simp only [Draft.node, label_eq, write_eq]
      rw [hargs, selection_eq _ table.place selection h]
      simp [after_after, Variables.bindAll, Variables.size_bindAll, Node.outline, QueryField.fill,
        QueryField.sites, QueryField.text, String.append_assoc]

theorem entry_eq : ∀ (d : Draft) (t : TableName) (e : Entry),
    Agrees g (d.bound.bindAll (e.outline t).sites) →
    d.entry t e = d.after ((e.outline t).fill g d.bound.size).text (e.outline t).sites
  | d, _, .column name, _ => leaf_eq d name d.bound.size
  | d, _, .related n, h => node_eq d n h
  | d, t, .returning selection, h =>
      branch_eq d "returning" t selection
        (selection_eq ((d.after "returning" []).after " \x7b" []) t selection h)
  | d, _, .affectedRows, _ => leaf_eq d "affected_rows" d.bound.size
  | d, t, .aggregate requested, h => aggregate_eq d t requested h
  | d, t, .nodes selection, h =>
      branch_eq d "nodes" t selection
        (selection_eq ((d.after "nodes" []).after " \x7b" []) t selection h)

theorem selection_eq : ∀ (d : Draft) (t : TableName) (entries : List Entry),
    Agrees g (d.bound.bindAll (fieldSites (outlineSelection t entries))) →
    d.selection t entries =
      d.after (selectionText (fillFields g d.bound.size (outlineSelection t entries)))
        (fieldSites (outlineSelection t entries))
  | d, t, [], h => by
      simp [Draft.selection, outlineSelection, fillFields, fieldSites, selectionText, after,
        Variables.bindAll]
  | d, t, e :: rest, h => by
      simp only [outlineSelection, fieldSites, Variables.bindAll_append] at h
      have he := entry_eq (d.after " " []) t e h.of_bindAll
      simp only [Draft.selection, write_eq]
      rw [he, selection_eq _ t rest h]
      simp [after_after, Variables.bindAll, Variables.size_bindAll, outlineSelection, fillFields,
        fieldSites, selectionText, String.append_assoc]

end

theorem roots_eq (d : Draft) (lead : String) (roots : List Node)
    (h : Agrees g (d.bound.bindAll (fieldSites (roots.map Node.outline)))) :
    d.roots lead roots = d.after
      (chained " " lead ((fillFields g d.bound.size (roots.map Node.outline)).map QueryField.text))
      (fieldSites (roots.map Node.outline)) := by
  induction roots generalizing d lead with
  | nil => simp [Draft.roots, fillFields, fieldSites, chained, after, Variables.bindAll]
  | cons n rest ih =>
      simp only [List.map_cons, fieldSites, Variables.bindAll_append] at h
      have hn := node_eq (d.after lead []) n h.of_bindAll
      simp only [Draft.roots, write_eq]
      rw [hn, ih _ " " h]
      simp [after_after, Variables.bindAll, Variables.size_bindAll, fillFields, fieldSites,
        chained, String.append_assoc]

end Draft

end TableGraph
