import TableGraph.Document.Compile
import TableGraph.Json.Decode

/-!
# Requests

The text of a query and the values of its variables, as they are sent.
-/

namespace TableGraph

/-- A request to an endpoint. -/
structure Request where
  query : String
  «variables» : OrderedMap Json
  deriving Repr, Inhabited

/-- The request of a compiled document. -/
def Compiled.request (c : Compiled) : Request := ⟨c.query, c.variables⟩

/-- The variables are left out if there are none. -/
instance : Encode Request where
  encode r := .object (("query", .string r.query) ::
    if r.variables.isEmpty then [] else [("variables", .object r.variables)])

end TableGraph
