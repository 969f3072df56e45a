import TableGraph.GraphQL.Grammar

/-!
# Reading query documents

The operation of a text, if the text is a document of one operation.

* One token is looked at in advance, and a second one for the colon of an alias;
* the readers of nested parts are given fuel; the number of tokens is enough, since every step takes
  at least one.
-/

namespace TableGraph.GraphQL

/-! ### Types -/

/-- Reads the mark of a type. -/
def readMark : List Token → Bool × List Token
  | .bang :: rest => (true, rest)
  | ts => (false, ts)

/-- Reads a type. -/
def readType : Nat → List Token → Option (TypeRef × List Token)
  | 0, _ => none
  | fuel + 1, ts =>
    match ts with
    | .name name :: rest => some (.named name (readMark rest).1, (readMark rest).2)
    | .bracketLeft :: rest => do
      let (item, rest) ← readType fuel rest
      match rest with
      | .bracketRight :: rest => some (.list item (readMark rest).1, (readMark rest).2)
      | _ => none
    | _ => none

/-- Reads declarations up to the closing parenthesis. -/
def readDeclarations : Nat → List Token → Option (List Declaration × List Token)
  | 0, _ => none
  | fuel + 1, ts =>
    match ts with
    | .parenRight :: rest => some ([], rest)
    | .dollar :: .name name :: .colon :: rest => do
      let (type, rest) ← readType fuel rest
      let (more, rest) ← readDeclarations fuel rest
      some (⟨name, type.text⟩ :: more, rest)
    | _ => none

/-- Reads the header of an operation. -/
def readHeader (fuel : Nat) : List Token → Option (List Declaration × List Token)
  | .parenLeft :: rest =>
    match readDeclarations fuel rest with
    | some (d :: ds, rest) => some (d :: ds, rest)
    | _ => none
  | ts => some ([], ts)

/-! ### Values -/

mutual

/-- Reads a value. -/
def readValue : Nat → List Token → Option (Value String × List Token)
  | 0, _ => none
  | fuel + 1, ts =>
    match ts with
    | .dollar :: .name name :: rest => some (.variable name, rest)
    | .braceLeft :: rest => do
      let (fields, rest) ← readValues .braceRight fuel rest
      some (.object fields, rest)
    | _ => none

/-- Reads named values up to the closing sign. -/
def readValues (closing : Token) : Nat → List Token →
    Option (List (String × Value String) × List Token)
  | 0, _ => none
  | fuel + 1, ts =>
    match ts with
    | .name name :: .colon :: rest => do
      let (v, rest) ← readValue fuel rest
      let (more, rest) ← readValues closing fuel rest
      some ((name, v) :: more, rest)
    | sign :: rest => if sign = closing then some ([], rest) else none
    | [] => none

end

/-- Reads the arguments of a field. -/
def readArguments (fuel : Nat) : List Token → Option (List (String × Value String) × List Token)
  | .parenLeft :: rest =>
    match readValues .parenRight fuel rest with
    | some (a :: as, rest) => some (a :: as, rest)
    | _ => none
  | ts => some ([], ts)

/-! ### Fields -/

/-- Reads an alias. -/
def readAlias : List Token → Option String × List Token
  | .name key :: .colon :: rest => (some key, rest)
  | ts => (none, ts)

mutual

/-- Reads a field. -/
def readField : Nat → List Token → Option (QueryField String × List Token)
  | 0, _ => none
  | fuel + 1, ts =>
    match (readAlias ts).2 with
    | .name name :: rest => do
      let (arguments, rest) ← readArguments fuel rest
      match rest with
      | .braceLeft :: rest =>
        match readFields fuel rest with
        | some (f :: fs, rest) => some (.branch (readAlias ts).1 name arguments (f :: fs), rest)
        | _ => none
      | rest => some (.leaf (readAlias ts).1 name arguments, rest)
    | _ => none

/-- Reads fields up to the closing brace. -/
def readFields : Nat → List Token → Option (List (QueryField String) × List Token)
  | 0, _ => none
  | fuel + 1, ts =>
    match ts with
    | .braceRight :: rest => some ([], rest)
    | ts => do
      let (f, rest) ← readField fuel ts
      let (more, rest) ← readFields fuel rest
      some (f :: more, rest)

end

/-- Reads an operation that all tokens make up. -/
def readOperation : List Token → Option Operation
  | .name keyword :: .name name :: ts => do
    let type ← OperationType.ofKeyword? keyword
    match ← readHeader ts.length ts with
    | (declarations, .braceLeft :: rest) =>
      match ← readFields ts.length rest with
      | (f :: fs, []) => some ⟨type, name, declarations, f :: fs⟩
      | _ => none
    | _ => none
  | _ => none

/-- The operation of a text. -/
def read? (text : String) : Option Operation := do readOperation (← lex? text)

end TableGraph.GraphQL
