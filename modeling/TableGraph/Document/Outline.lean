import TableGraph.Document
import TableGraph.Variables
import TableGraph.GraphQL.Printer

/-!
# Outlines of documents

A document in two phases: first its sites are bound one after another, then the tree is written
with their names.

* `Document.sites` lists the sites depth first: the arguments of a node from left to right, then
  its selection, where an aggregate has the arguments of its count;
* the outline of a node is its syntax with a binding at each site;
* `Document.operation` is the syntax of the document with a name at each site.
-/

namespace TableGraph

open GraphQL

/-! ### Sites -/

mutual

/-- The sites of the value of an argument. -/
def ArgumentValue.sites : ArgumentValue → List Binding
  | .variable b => [b]
  | .object entries => memberSites entries

/-- The sites of the members of an object literal. -/
def memberSites : List (String × ArgumentValue) → List Binding
  | [] => []
  | (_, value) :: rest => value.sites ++ memberSites rest

end

/-- The sites of arguments. -/
def argumentSites (arguments : List Argument) : List Binding :=
  arguments.flatMap (·.value.sites)

/-- The sites of an aggregate: the columns of its count and whether they are distinct. -/
def Aggregates.sites (t : TableName) (a : Aggregates) : List Binding :=
  match a.count with
  | .none => []
  | some c =>
    (match c.columns with
      | some columns =>
        [⟨"columns", "[" ++ t.qualified ++ "_select_column!]", .ofStrings columns⟩]
      | .none => []) ++
    (match c.distinct with
      | some distinct => [⟨"distinct", "Boolean", .bool distinct⟩]
      | .none => [])

mutual

/-- The sites of a node. -/
def Node.sites : Node → List Binding
  | ⟨_, table, _, _, arguments, selection⟩ =>
    argumentSites arguments ++ selectionSites table.place selection

/-- The sites of an entry in the selection of a table. -/
def Entry.sites (t : TableName) : Entry → List Binding
  | .column _ => []
  | .related node => node.sites
  | .returning selection => selectionSites t selection
  | .affectedRows => []
  | .aggregate requested => requested.sites t
  | .nodes selection => selectionSites t selection

/-- The sites of a selection. -/
def selectionSites (t : TableName) : List Entry → List Binding
  | [] => []
  | entry :: rest => entry.sites t ++ selectionSites t rest

end

/-- The sites of a document. -/
def Document.sites (d : Document) : List Binding := d.roots.flatMap Node.sites

/-! ### Outlines -/

mutual

/-- The syntax of the value of an argument. -/
def ArgumentValue.outline : ArgumentValue → Value Binding
  | .variable b => .variable b
  | .object entries => .object (outlineMembers entries)

/-- The syntax of the members of an object literal. -/
def outlineMembers : List (String × ArgumentValue) → List (String × Value Binding)
  | [] => []
  | (name, value) :: rest => (name, value.outline) :: outlineMembers rest

end

/-- The syntax of arguments. -/
def outlineArguments : List Argument → List (String × Value Binding)
  | [] => []
  | argument :: rest => (argument.name, argument.value.outline) :: outlineArguments rest

/-- The syntax of the count of an aggregate. -/
def outlineCount (t : TableName) : Option CountSpec → List (QueryField Binding)
  | none => []
  | some count => [.leaf none "count" (outlineArguments (Aggregates.countArguments t count))]

/-- The syntax of columns. -/
def outlineColumns (columns : List String) : List (QueryField Binding) :=
  columns.map (.leaf none · [])

/-- The syntax of the functions of an aggregate. -/
def outlineFunctions (functions : List (AggregateFunction × List String)) :
    List (QueryField Binding) :=
  functions.map fun f => .branch none f.1.name [] (outlineColumns f.2)

mutual

/-- The syntax of a node. -/
def Node.outline : Node → QueryField Binding
  | ⟨_, table, field, key, arguments, selection⟩ =>
    .branch key field (outlineArguments arguments) (outlineSelection table.place selection)

/-- The syntax of an entry in the selection of a table. -/
def Entry.outline (t : TableName) : Entry → QueryField Binding
  | .column name => .leaf none name []
  | .related node => node.outline
  | .returning selection => .branch none "returning" [] (outlineSelection t selection)
  | .affectedRows => .leaf none "affected_rows" []
  | .aggregate requested =>
    .branch none "aggregate" [] (outlineCount t requested.count ++
      outlineFunctions requested.functions)
  | .nodes selection => .branch none "nodes" [] (outlineSelection t selection)

/-- The syntax of a selection. -/
def outlineSelection (t : TableName) : List Entry → List (QueryField Binding)
  | [] => []
  | entry :: rest => entry.outline t :: outlineSelection t rest

end

/-! ### Binding all sites -/

namespace Variables

/-- The names that sites get when they are bound one after another. -/
def namesOf (vs : Variables) : List Binding → List String
  | [] => []
  | b :: rest =>
    let (name, vs) := vs.bind b.base b.type b.value
    name :: vs.namesOf rest

/-- The variables after sites are bound one after another. -/
def bindAll (vs : Variables) : List Binding → Variables
  | [] => vs
  | b :: rest => (vs.bind b.base b.type b.value).2.bindAll rest

end Variables

namespace Document

/-- The names of the sites of a document. -/
def siteNames (d : Document) : List String := Variables.empty.namesOf d.sites

/-- The syntax of a document, with a name at each site. -/
def operation (d : Document) : Operation where
  type := d.type
  name := d.type.name
  declarations := List.zipWith (fun name b => ⟨name, b.type⟩) d.siteNames d.sites
  roots := fillFields (fun i => d.siteNames.getD i "") 0 (d.roots.map Node.outline)

end Document

end TableGraph
