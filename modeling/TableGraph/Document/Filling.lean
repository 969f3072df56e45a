import TableGraph.Document

/-!
# Filling documents

A caller adds roots to a document one after another and goes on after a root that is refused.

* An attempt answers with the alias of the root or with the reason why there is none, and leaves
  the document that the next attempt finds;
* a document that refuses a root stays as it was.
-/

namespace TableGraph.Document

/-- Tries to add a root. -/
def attempt (d : Document) (n : Node) : Except BuildError String × Document :=
  match d.push n with
  | .error e => (.error e, d)
  | .ok (key, d) => (.ok key, d)

/-- Tries to add roots one after another. -/
def attemptAll (d : Document) : List Node → Document
  | [] => d
  | n :: rest => (d.attempt n).2.attemptAll rest

end TableGraph.Document
