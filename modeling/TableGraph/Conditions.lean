import TableGraph.Filter

/-!
# Conditions

Which rows a list or an aggregate covers: a filter, an ordering, columns whose values count once,
and a window. The arguments come in this order, and a filter without keys gives none.
-/

namespace TableGraph

/-- Conditions on the rows of a table. -/
structure Conditions where
  filter : Option Json
  orderBy : Option Json
  distinctOn : Option (List String)
  limit : Option Nat
  offset : Option Nat
  deriving Repr, Inhabited, BEq

namespace Conditions

/-- No conditions. -/
def none : Conditions := ⟨.none, .none, .none, .none, .none⟩

/-- Nothing is set. -/
def isEmpty (c : Conditions) : Bool :=
  c.filter.isNone && c.orderBy.isNone && c.distinctOn.isNone && c.limit.isNone && c.offset.isNone

/-- The argument of a filter. -/
def filterArguments (t : Table) : Option Json → Except BuildError (List Argument)
  | .none => .ok []
  | some filter => do
    match ← compileFilter t filter with
    | [] => pure []
    | entries => pure [⟨"where", .object entries⟩]

/-- The argument of an ordering, which is an object or an array. -/
def orderArguments (t : Table) : Option Json → Except BuildError (List Argument)
  | .none => .ok []
  | some order =>
    if order.isObject || order.isArray then
      .ok [.bound "order_by" ("[" ++ t.qualified ++ "_order_by!]") order]
    else .error (.invalidArgument t.qualified "order_by" "object or array")

/-- The argument of columns whose values count once. -/
def distinctArguments (t : Table) : Option (List String) → Except BuildError (List Argument)
  | .none => .ok []
  | some columns => do
    checkColumns t columns
    pure [.bound "distinct_on" ("[" ++ t.qualified ++ "_select_column!]") (.ofStrings columns)]

/-- The argument of one bound of the window. -/
def windowArguments (name : String) : Option Nat → List Argument
  | .none => []
  | some n => [.bound name "Int" (.ofNat n)]

/-- The arguments of the conditions in order; the first failure wins. -/
def arguments (t : Table) (c : Conditions) : Except BuildError (List Argument) := do
  let filter ← filterArguments t c.filter
  let order ← orderArguments t c.orderBy
  let distinct ← distinctArguments t c.distinctOn
  pure (filter ++ order ++ distinct ++ windowArguments "limit" c.limit ++
    windowArguments "offset" c.offset)

end Conditions

end TableGraph
