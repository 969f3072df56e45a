import TableGraph.Document.Outline
import TableGraph.Proofs.GraphQL.Sites

/-! # Sites of outlines

The outline of a tree has a site where the tree has a binding, and in the same order
(`Node.sites_outline`). Columns and functions have none. -/

namespace TableGraph

open GraphQL

/-! ### Arguments -/

mutual

theorem ArgumentValue.sites_outline : ∀ v : ArgumentValue, v.outline.sites = v.sites
  | .variable _ => rfl
  | .object entries => by
      simp only [ArgumentValue.outline, Value.sites, ArgumentValue.sites]
      exact valueSites_outlineMembers entries

theorem valueSites_outlineMembers : ∀ entries : List (String × ArgumentValue),
    valueSites (outlineMembers entries) = memberSites entries
  | [] => rfl
  | (name, v) :: rest => by
      simp only [outlineMembers, valueSites, memberSites]
      rw [v.sites_outline, valueSites_outlineMembers rest]

end

theorem valueSites_outlineArguments (arguments : List Argument) :
    valueSites (outlineArguments arguments) = argumentSites arguments := by
  induction arguments with
  | nil => rfl
  | cons a rest ih =>
      simp only [outlineArguments, valueSites, argumentSites, List.flatMap_cons] at ih ⊢
      rw [a.value.sites_outline, ih]

/-! ### Aggregates -/

theorem fieldSites_outlineColumns (columns : List String) :
    fieldSites (outlineColumns columns) = [] := by
  induction columns with
  | nil => rfl
  | cons column rest ih => exact ih

theorem fieldSites_outlineFunctions (functions : List (AggregateFunction × List String)) :
    fieldSites (outlineFunctions functions) = [] := by
  induction functions with
  | nil => rfl
  | cons f rest ih =>
      show fieldSites (outlineColumns f.2) ++ fieldSites (outlineFunctions rest) = []
      rw [fieldSites_outlineColumns, ih, List.append_nil]

theorem fieldSites_outlineCount (t : TableName) (a : Aggregates) :
    fieldSites (outlineCount t a.count) = a.sites t := by
  unfold Aggregates.sites outlineCount
  cases a.count with
  | none => rfl
  | some c =>
      simp only [fieldSites, QueryField.sites, List.append_nil, valueSites_outlineArguments]
      cases c with
      | mk columns distinct => cases columns <;> cases distinct <;> rfl

/-! ### Nodes -/

mutual

theorem Node.sites_outline : ∀ n : Node, n.outline.sites = n.sites
  | ⟨_, table, _, _, arguments, selection⟩ => by
      simp only [Node.outline, QueryField.sites, Node.sites]
      rw [valueSites_outlineArguments, fieldSites_outlineSelection table.place selection]

theorem Entry.sites_outline : ∀ (t : TableName) (e : Entry), (e.outline t).sites = e.sites t
  | _, .column _ => rfl
  | _, .related n => n.sites_outline
  | t, .returning selection => fieldSites_outlineSelection t selection
  | _, .affectedRows => rfl
  | t, .aggregate requested => by
      simp only [Entry.outline, QueryField.sites, valueSites, List.nil_append, Entry.sites]
      rw [fieldSites_append, fieldSites_outlineFunctions, List.append_nil, fieldSites_outlineCount]
  | t, .nodes selection => fieldSites_outlineSelection t selection

theorem fieldSites_outlineSelection : ∀ (t : TableName) (entries : List Entry),
    fieldSites (outlineSelection t entries) = selectionSites t entries
  | _, [] => rfl
  | t, e :: rest => by
      simp only [outlineSelection, fieldSites, selectionSites]
      rw [e.sites_outline t, fieldSites_outlineSelection t rest]

end

end TableGraph
