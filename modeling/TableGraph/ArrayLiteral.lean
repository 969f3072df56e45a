import TableGraph.Text.Blank

/-!
# Reading array literals

The rules by which a database reads the text of a list of texts, such as `{a,"b,c"}`.

* Items stand between braces, with commas between them; without an item the braces are empty;
* blanks around an item are passed over, blanks inside are part of it;
* an item in quotes is any text, in which a backslash takes the next character as it is;
* an item without quotes is not empty, and a comma, a brace or a quote in it has a backslash before
  it. The word NULL, in any case and without a backslash, is the null item.

An inner brace begins an array of arrays, which is no list and is not read.
-/

namespace TableGraph.ArrayLiteral

/-- The blanks that may stand around items: the space, the tab, and the ends of lines and pages. -/
def isBlank (c : Char) : Bool := c = ' ' || (9 ≤ c.toNat && c.toNat ≤ 13)

/-- The characters of the notation itself. -/
def isSign (c : Char) : Bool := c = ',' || c = '\x7b' || c = '\x7d' || c = '"' || c = '\\'

/-- An item that needs no quotes: it is not empty, holds no sign, has no blanks around it and is not
the word NULL. -/
structure IsPlain (item : List Char) : Prop where
  ne_nil : item ≠ []
  no_sign : ∀ c ∈ item, isSign c = false
  head_notBlank : ∀ c ∈ item.head?, isBlank c = false
  last_notBlank : ∀ c ∈ item.getLast?, isBlank c = false
  not_null : Text.equalIgnoringCase item "NULL".toList = false

/-- Reads an item up to the quote that closes it; `escaped` says whether the character before was a
backslash. -/
def quoted (escaped : Bool) : List Char → Option (List Char × List Char)
  | [] => none
  | c :: rest =>
    if escaped then (quoted false rest).map fun p => (c :: p.1, p.2)
    else if c = '\\' then quoted true rest
    else if c = '"' then some ([], rest)
    else (quoted false rest).map fun p => (c :: p.1, p.2)

/-- A character of an item without quotes. -/
structure Mark where
  char : Char
  /-- A backslash stands before it. -/
  escaped : Bool

/-- Reads the characters of an item without quotes up to a comma or a closing brace. -/
def marks (escaped : Bool) : List Char → Option (List Mark × List Char)
  | [] => none
  | c :: rest =>
    if escaped then (marks false rest).map fun p => (⟨c, true⟩ :: p.1, p.2)
    else if c = '\\' then marks true rest
    else if c = ',' ∨ c = '\x7d' then some ([], c :: rest)
    else if isSign c then none
    else (marks false rest).map fun p => (⟨c, false⟩ :: p.1, p.2)

/-- A blank that counts as one. -/
def Mark.isBlank (m : Mark) : Bool := !m.escaped && ArrayLiteral.isBlank m.char

/-- Drops the blanks around an item. -/
def trim (ms : List Mark) : List Mark :=
  ((ms.dropWhile Mark.isBlank).reverse.dropWhile Mark.isBlank).reverse

/-- The item of some characters without quotes, `none` inside for the null item. -/
def bare (ms : List Mark) : Option (Option (List Char)) :=
  let kept := trim ms
  let text := kept.map Mark.char
  if kept.isEmpty then none
  else if (kept.all fun m => !m.escaped) && Text.equalIgnoringCase text "NULL".toList then some none
  else some (some text)

/-- Reads an item and the blanks around it. -/
def readItem (s : List Char) : Option (Option (List Char) × List Char) :=
  match s.dropWhile isBlank with
  | '"' :: rest => (quoted false rest).map fun p => (some p.1, p.2.dropWhile isBlank)
  | rest => (marks false rest).bind fun p => (bare p.1).map fun item => (item, p.2)

/-- Reads at most `fuel` items and the brace behind them. -/
def readItems : Nat → List Char → Option (List (Option (List Char)) × List Char)
  | 0, _ => none
  | fuel + 1, s =>
    match readItem s with
    | none => none
    | some (item, ',' :: rest) => (readItems fuel rest).map fun p => (item :: p.1, p.2)
    | some (item, '\x7d' :: rest) => some ([item], rest)
    | some _ => none

/-- The items of a list behind its opening brace. -/
def readList (s : List Char) : Option (List (Option (List Char)) × List Char) :=
  match s.dropWhile isBlank with
  | '\x7d' :: rest => some ([], rest)
  | _ => readItems s.length s

/-- The items of a literal, `none` inside for the null item; nothing if it is no list. -/
def read? (literal : String) : Option (List (Option String)) :=
  match literal.toList.dropWhile isBlank with
  | '\x7b' :: s =>
    match readList s with
    | some (items, rest) =>
      if rest.all isBlank then some (items.map (·.map String.ofList)) else none
    | none => none
  | _ => none

example : read? "\x7ba, \"b,\\\"c\" ,null,\"\"\x7d" = some [some "a", some "b,\"c", none, some ""] := by
  decide +kernel

end TableGraph.ArrayLiteral
