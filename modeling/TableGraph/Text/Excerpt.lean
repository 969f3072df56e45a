/-!
# Excerpts

A text cut to a number of characters; three dots mark the cut.
-/

namespace TableGraph.Text

/-- At most `limit` characters of `s`, with `...` after them if something was cut. -/
def excerpt (limit : Nat) (s : String) : String :=
  if s.length ≤ limit then s else String.ofList (s.toList.take limit) ++ "..."

end TableGraph.Text
