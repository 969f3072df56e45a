import TableGraph.Node

/-!
# Parts of nodes

What a node is made of, at every depth.

* Selection sets come with the table that they select from: the table of their node, also where
  they list the rows that a mutation touched or that an aggregate covers;
* the nodes in a node are itself and, in its selections, its relations with the nodes in these;
* object literals stand in the values of arguments, and may stand in one another.
-/

namespace TableGraph

/-- A selection and the table that it selects from. -/
structure SelectionSet where
  table : Table
  entries : List Entry

mutual

/-- The selection sets of a node, its own first. -/
def Node.selectionSets : Node → List SelectionSet
  | ⟨_, table, _, _, _, selection⟩ => ⟨table, selection⟩ :: selectionSetsIn table selection

/-- The selection sets of an entry in a selection from a table. -/
def Entry.selectionSets (t : Table) : Entry → List SelectionSet
  | .column _ => []
  | .related node => node.selectionSets
  | .returning selection => ⟨t, selection⟩ :: selectionSetsIn t selection
  | .affectedRows => []
  | .aggregate _ => []
  | .nodes selection => ⟨t, selection⟩ :: selectionSetsIn t selection

/-- The selection sets inside a selection from a table. -/
def selectionSetsIn (t : Table) : List Entry → List SelectionSet
  | [] => []
  | entry :: rest => entry.selectionSets t ++ selectionSetsIn t rest

end

mutual

/-- The node and the nodes in it. -/
def Node.subnodes : Node → List Node
  | ⟨kind, table, field, key, arguments, selection⟩ =>
    ⟨kind, table, field, key, arguments, selection⟩ :: subnodesIn selection

/-- The nodes in an entry. -/
def Entry.subnodes : Entry → List Node
  | .column _ => []
  | .related node => node.subnodes
  | .returning selection => subnodesIn selection
  | .affectedRows => []
  | .aggregate _ => []
  | .nodes selection => subnodesIn selection

/-- The nodes in a selection. -/
def subnodesIn : List Entry → List Node
  | [] => []
  | entry :: rest => entry.subnodes ++ subnodesIn rest

end

mutual

/-- The object literals of the value of an argument, the outer before the inner. -/
def ArgumentValue.literals : ArgumentValue → List (OrderedMap ArgumentValue)
  | .variable _ => []
  | .object entries => entries :: literalsIn entries

/-- The object literals inside an object literal. -/
def literalsIn : List (String × ArgumentValue) → List (OrderedMap ArgumentValue)
  | [] => []
  | (_, value) :: rest => value.literals ++ literalsIn rest

end

end TableGraph
