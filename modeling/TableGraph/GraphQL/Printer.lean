import TableGraph.GraphQL.Syntax

/-!
# Text of query documents

A document is written on one line.

* Declarations, arguments and members are separated by commas, fields by single blanks;
* there are no parentheses without declarations or arguments;
* braces of a selection have blanks inside, braces of a value have none.
-/

namespace TableGraph.GraphQL

mutual

/-- The text of a value. -/
def Value.text : Value String → String
  | .variable name => "$" ++ name
  | .object fields => "\x7b" ++ String.intercalate ", " (fieldTexts fields) ++ "\x7d"

/-- The texts of named values. -/
def fieldTexts : List (String × Value String) → List String
  | [] => []
  | (name, value) :: rest => (name ++ ": " ++ value.text) :: fieldTexts rest

end

/-- Arguments in parentheses. -/
def argumentsText : List (String × Value String) → String
  | [] => ""
  | arguments => "(" ++ String.intercalate ", " (fieldTexts arguments) ++ ")"

/-- An alias before a field. -/
def aliasText : Option String → String
  | none => ""
  | some key => key ++ ": "

mutual

/-- The text of a field. -/
def QueryField.text : QueryField String → String
  | .leaf key name arguments => aliasText key ++ name ++ argumentsText arguments
  | .branch key name arguments selection =>
    aliasText key ++ name ++ argumentsText arguments ++
      " \x7b" ++ selectionText selection ++ " \x7d"

/-- The fields of a selection, with a blank before each. -/
def selectionText : List (QueryField String) → String
  | [] => ""
  | field :: rest => " " ++ field.text ++ selectionText rest

end

/-- The text of a declaration. -/
def Declaration.text (d : Declaration) : String := "$" ++ d.name ++ ": " ++ d.type

/-- Declarations in parentheses. -/
def declarationsText : List Declaration → String
  | [] => ""
  | declarations => "(" ++ String.intercalate ", " (declarations.map Declaration.text) ++ ")"

/-- The text of a document. -/
def Operation.text (o : Operation) : String :=
  o.type.keyword ++ " " ++ o.name ++ declarationsText o.declarations ++ " \x7b " ++
    String.intercalate " " (o.roots.map QueryField.text) ++ " \x7d"

/-! ### Texts in a row -/

/-- Texts in a row, the first after `lead` and the others after `sep`. -/
def chained (sep lead : String) : List String → String
  | [] => ""
  | text :: rest => lead ++ text ++ chained sep sep rest

theorem chained_empty (sep : String) : ∀ texts, chained sep "" texts = sep.intercalate texts
  | [] => by simp [chained]
  | [text] => by simp [chained]
  | text :: next :: rest => by
      rw [String.intercalate_cons_cons, ← chained_empty sep (next :: rest)]
      simp [chained, String.append_assoc]

end TableGraph.GraphQL
