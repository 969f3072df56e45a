import TableGraph.Argument
import TableGraph.Json.Printer

/-!
# Arguments of database functions

Functions take lists as array literals `{a,b}`, in which a string stands for itself and any other
item is written as JSON text, and objects as their JSON text. Other values stay as they are.
-/

namespace TableGraph

/-- One item of an array literal. -/
def arrayItem : Json → String
  | .string s => s
  | item => item.text

/-- The array literal of items. -/
def arrayLiteral (items : List Json) : String :=
  "\x7b" ++ String.intercalate "," (items.map arrayItem) ++ "\x7d"

/-- The form in which a function takes a value. -/
def functionArg : Json → Json
  | .array items => .string (arrayLiteral items)
  | .object members => .string (Json.object members).text
  | value => value

/-- The arguments of a function by name. -/
def functionArgs (args : OrderedMap Json) : OrderedMap Json :=
  args.map fun a => (a.1, functionArg a.2)

end TableGraph
