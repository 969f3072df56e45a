import TableGraph.Fresh
import TableGraph.Node

/-!
# Documents

The roots of one document, all of one type and each under an alias of its own.

* A root without an alias becomes `op<i>` for the least free `i` from the number of earlier roots
  on;
* a root of another type, or with an alias that is in use, is refused, and the document stays as
  it was.
-/

namespace TableGraph

/-- The roots of one document. -/
structure Document where
  type : OperationType
  roots : List Node

namespace Document

/-- A document without roots. -/
def empty (type : OperationType) : Document := ⟨type, []⟩

/-- The aliases in use. -/
def aliases (d : Document) : List String := d.roots.filterMap (·.alias)

/-- The alias of number `i`. -/
def numberedAlias (i : Nat) : String := "op" ++ toString i

/-- The alias that a root gets which has none. -/
def freeAlias (d : Document) : String :=
  numberedAlias (Fresh.index d.aliases numberedAlias d.roots.length)

/-- Appends a root and returns its alias. -/
def push (d : Document) (node : Node) : Except BuildError (String × Document) :=
  if node.kind.type? = some d.type then
    match node.alias with
    | some key =>
      if key ∈ d.aliases then .error (.duplicateAlias key)
      else .ok (key, { d with roots := d.roots ++ [node] })
    | none => .ok (d.freeAlias, { d with roots := d.roots ++ [node.withAlias d.freeAlias] })
  else .error (.mixedOperationTypes d.type.keyword node.kind.name)

/-- The document of one root, and its alias. -/
def single (node : Node) : Except BuildError (String × Document) :=
  match node.kind.type? with
  | some type => (empty type).push node
  | none => .error (.mixedOperationTypes OperationType.query.keyword node.kind.name)

/-- Number of roots. -/
def size (d : Document) : Nat := d.roots.length

/-- There are no roots. -/
def isEmpty (d : Document) : Bool := d.roots.isEmpty

end Document

end TableGraph
