/-!
# Tokens of query documents

A document is read as a list of names and signs.

* A name starts with a letter or an underscore and goes on with letters, digits and underscores,
  all of ASCII; the longest run of these characters is one name;
* blanks, tabs, line ends, commas and byte order marks end a name and do not count themselves;
* numbers, texts, comments, spreads and the signs that no part of the grammar here uses are
  refused.
-/

namespace TableGraph.GraphQL

/-- A token. -/
inductive Token where
  | name (text : String)
  | bang
  | dollar
  | parenLeft
  | parenRight
  | colon
  | bracketLeft
  | bracketRight
  | braceLeft
  | braceRight
  deriving DecidableEq, Repr

/-- Names start with these. -/
def isNameStart (c : Char) : Bool := c.isAlpha || c == '_'

/-- Names go on with these. -/
def isNamePart (c : Char) : Bool := c.isAlphanum || c == '_'

/-- The text is a name. -/
def isName (text : String) : Bool :=
  match text.toList with
  | [] => false
  | c :: rest => isNameStart c && rest.all isNamePart

/-- Characters between tokens. -/
def isIgnored (c : Char) : Bool :=
  c == ' ' || c == ',' || c == '\t' || c == '\n' || c == '\r' || c == '\uFEFF'

/-- The token of a sign. -/
def signToken? : Char → Option Token
  | '!' => some .bang
  | '$' => some .dollar
  | '(' => some .parenLeft
  | ')' => some .parenRight
  | ':' => some .colon
  | '[' => some .bracketLeft
  | ']' => some .bracketRight
  | '\x7b' => some .braceLeft
  | '\x7d' => some .braceRight
  | _ => none

/-- The tokens of a character that is no part of a name: at most one. -/
def signTokens? (c : Char) : Option (List Token) :=
  if isIgnored c then some [] else (signToken? c).map ([·])

/-- The tokens of a run of characters of names: at most one, and none if it starts as no name
does. -/
def wordTokens? : List Char → Option (List Token)
  | [] => some []
  | c :: rest => if isNameStart c then some [.name (String.ofList (c :: rest))] else none

/-- The tokens of characters, after the characters of a name under way. -/
def lexFrom (word : List Char) : List Char → Option (List Token)
  | [] => wordTokens? word
  | c :: rest =>
    if isNamePart c then lexFrom (word ++ [c]) rest
    else do
      let first ← wordTokens? word
      let sign ← signTokens? c
      let more ← lexFrom [] rest
      pure (first ++ sign ++ more)

/-- The tokens of a text. -/
def lex? (text : String) : Option (List Token) := lexFrom [] text.toList

end TableGraph.GraphQL
