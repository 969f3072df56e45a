import TableGraph.Json.Basic

/-!
# Reading JSON text

A strict reader: no comments, no trailing commas, no blanks but the four of JSON.

* Arrays and objects nest to a depth of at most 127;
* a repeated key of an object takes the last value and keeps the first place;
* a `Shape` says which parts of a text are records of known fields. There a repeated known field
  is refused, and the value of an unknown one has to be well formed but is not looked into: it
  may nest to any depth and hold lone surrogates or numbers of any size.

The readers recurse on a bound that twice the length of the text exceeds.
-/

namespace TableGraph.Json

/-- Why a text is not JSON. -/
inductive SyntaxError where
  | unexpectedEnd
  | unexpected (c : Char)
  | controlCharacter
  | badEscape
  | loneSurrogate
  | badNumber
  | numberTooLarge
  | tooDeep
  | repeatedField (name : String)
  | tooManyItems
  deriving DecidableEq, Repr

/-- A reader takes a prefix of the text and returns what follows it. -/
abbrev Reader (α : Type) := List Char → Except SyntaxError (α × List Char)

/-- What a reader looks at: the depth left, and whether values are looked into. -/
structure Rules where
  depth : Nat
  checked : Bool

/-- The rules of a whole text. -/
def Rules.strict : Rules := ⟨128, true⟩

/-- One level further in. -/
def Rules.enter (r : Rules) : Except SyntaxError Rules :=
  if r.checked then
    if r.depth ≤ 1 then .error .tooDeep else .ok { r with depth := r.depth - 1 }
  else .ok r

/-- Which parts of a text are records of known fields. -/
inductive Shape where
  | any
  | list (items : Shape)
  | record (fields : List (String × Shape))

namespace Reader

/-- Drops the blanks of JSON. -/
def skipBlanks : List Char → List Char
  | ' ' :: rest => skipBlanks rest
  | '\n' :: rest => skipBlanks rest
  | '\r' :: rest => skipBlanks rest
  | '\t' :: rest => skipBlanks rest
  | s => s

/-- Complains about the next character. -/
def unexpected {α : Type} : List Char → Except SyntaxError α
  | [] => .error .unexpectedEnd
  | c :: _ => .error (.unexpected c)

/-- Reads one given character. -/
def expect (c : Char) : Reader Unit
  | [] => .error .unexpectedEnd
  | d :: rest => if d = c then .ok ((), rest) else .error (.unexpected d)

/-- Reads one given word. -/
def word (w : List Char) : Reader Unit := fun s =>
  if w.isPrefixOf s then .ok ((), s.drop w.length) else unexpected s

/-! ### Strings -/

/-- Value of a hexadecimal digit. -/
def hexValue? (c : Char) : Option Nat :=
  if '0' ≤ c ∧ c ≤ '9' then some (c.toNat - 48)
  else if 'a' ≤ c ∧ c ≤ 'f' then some (c.toNat - 87)
  else if 'A' ≤ c ∧ c ≤ 'F' then some (c.toNat - 55)
  else none

/-- The number of four hexadecimal digits. -/
def codeUnit? (a b c d : Char) : Option Nat := do
  let a ← hexValue? a
  let b ← hexValue? b
  let c ← hexValue? c
  let d ← hexValue? d
  pure (((a * 16 + b) * 16 + c) * 16 + d)

/-- The character of a letter after a backslash. -/
def letterEscape? : Char → Option Char
  | '"' => some '"'
  | '\\' => some '\\'
  | '/' => some '/'
  | 'b' => some '\x08'
  | 'f' => some '\x0c'
  | 'n' => some '\n'
  | 'r' => some '\r'
  | 't' => some '\t'
  | _ => none

/-- The number is a leading surrogate. -/
def isLeading (n : Nat) : Bool := 0xD800 ≤ n && n < 0xDC00

/-- The number is a trailing surrogate. -/
def isTrailing (n : Nat) : Bool := 0xDC00 ≤ n && n < 0xE000

/-- The character of two surrogates. -/
def joinSurrogates (hi lo : Nat) : Char :=
  Char.ofNat (0x10000 + (hi - 0xD800) * 1024 + (lo - 0xDC00))

/-- Puts a character before what a reader returns. -/
def consChar (c : Char) : Except SyntaxError (List Char × List Char) →
    Except SyntaxError (List Char × List Char)
  | .ok (s, rest) => .ok (c :: s, rest)
  | .error e => .error e

/-- Reads the rest of a string behind its opening quote. Unchecked strings may hold lone
surrogates. -/
def stringRest (checked : Bool) : Reader (List Char)
  | [] => .error .unexpectedEnd
  | '"' :: rest => .ok ([], rest)
  | '\\' :: 'u' :: a :: b :: c :: d :: '\\' :: 'u' :: e :: f :: g :: h :: rest =>
    match codeUnit? a b c d with
    | none => .error .badEscape
    | some hi =>
      if isLeading hi && checked then
        match codeUnit? e f g h with
        | none => .error .badEscape
        | some lo =>
          if isTrailing lo then consChar (joinSurrogates hi lo) (stringRest checked rest)
          else .error .loneSurrogate
      else if isTrailing hi && checked then .error .loneSurrogate
      else consChar (Char.ofNat hi) (stringRest checked ('\\' :: 'u' :: e :: f :: g :: h :: rest))
  | '\\' :: 'u' :: a :: b :: c :: d :: rest =>
    match codeUnit? a b c d with
    | none => .error .badEscape
    | some n =>
      if (isLeading n || isTrailing n) && checked then .error .loneSurrogate
      else consChar (Char.ofNat n) (stringRest checked rest)
  | '\\' :: c :: rest =>
    match letterEscape? c with
    | some d => consChar d (stringRest checked rest)
    | none => .error .badEscape
  | c :: rest =>
    if c.toNat < 32 then .error .controlCharacter
    else if c = '\\' then .error .unexpectedEnd
    else consChar c (stringRest checked rest)

/-- Reads a string with its quotes. -/
def string (checked : Bool) : Reader String := fun s => do
  let (_, rest) ← expect '"' s
  let (cs, rest) ← stringRest checked rest
  pure (String.ofList cs, rest)

/-! ### Numbers -/

/-- The digits at the front of the text and what follows them. -/
def digits (s : List Char) : List Char × List Char :=
  (s.takeWhile Char.isDigit, s.dropWhile Char.isDigit)

/-- Reads digits, at least one. -/
def someDigits : Reader (List Char) := fun s =>
  let (ds, rest) := digits s
  if ds.isEmpty then .error .badNumber else .ok (ds, rest)

/-- Reads the exponent of a number, if there is one. -/
def exponent : Reader (Option (Bool × List Char))
  | c :: rest =>
    if c = 'e' ∨ c = 'E' then
      let (negative, rest) := match rest with
        | '+' :: r => (false, r)
        | '-' :: r => (true, r)
        | r => (false, r)
      do
        let (ds, rest) ← someDigits rest
        pure (some (negative, ds), rest)
    else .ok (none, c :: rest)
  | [] => .ok (none, [])

/-- Reads the fraction of a number, if there is one. -/
def fraction : Reader (Option (List Char))
  | '.' :: rest => do
    let (ds, rest) ← someDigits rest
    pure (some ds, rest)
  | s => .ok (none, s)

/-- Reads a number as it is written. The whole part has no needless zeros. -/
def literal : Reader Decimal.Literal := fun s => do
  let (negative, s) := match s with
    | '-' :: rest => (true, rest)
    | rest => (false, rest)
  let (whole, s) ← someDigits s
  if whole.length > 1 && whole.head? = some '0' then .error .badNumber
  else
    let (fraction, s) ← fraction s
    let (exponent, s) ← exponent s
    pure (⟨negative, whole, fraction, exponent⟩, s)

/-- Reads a number. Unchecked numbers may have any size. -/
def number (checked : Bool) : Reader Json := fun s => do
  let (l, rest) ← literal s
  match JsonNumber.ofLiteral? l with
  | some n => pure (.number n, rest)
  | none => if checked then .error .numberTooLarge else pure (.null, rest)

/-! ### Values -/

mutual

/-- Reads a value behind blanks. -/
def value : Nat → Rules → Shape → Reader Json
  | 0, _, _, _ => .error .unexpectedEnd
  | fuel + 1, rules, shape, s =>
    match skipBlanks s with
    | [] => .error .unexpectedEnd
    | 'n' :: rest => do
      let (_, rest) ← word ['u', 'l', 'l'] rest
      pure (.null, rest)
    | 't' :: rest => do
      let (_, rest) ← word ['r', 'u', 'e'] rest
      pure (.bool true, rest)
    | 'f' :: rest => do
      let (_, rest) ← word ['a', 'l', 's', 'e'] rest
      pure (.bool false, rest)
    | '"' :: rest => do
      let (cs, rest) ← stringRest rules.checked rest
      pure (.string (String.ofList cs), rest)
    | '[' :: rest => do
      let inner ← rules.enter
      let (xs, rest) ← match skipBlanks rest with
        | ']' :: after => Except.ok ([], after)
        | _ => items fuel inner shape rest
      pure (.array xs, rest)
    | '\x7b' :: rest => do
      let inner ← rules.enter
      let (ms, rest) ← match skipBlanks rest with
        | '\x7d' :: after => Except.ok ([], after)
        | _ => members fuel inner shape [] rest
      pure (.object ms, rest)
    | c :: rest =>
      if c = '-' ∨ c.isDigit then number rules.checked (c :: rest) else .error (.unexpected c)

/-- Reads the items of an array behind its bracket. The items of a record are its fields in
order. -/
def items : Nat → Rules → Shape → Reader (List Json)
  | 0, _, _, _ => .error .unexpectedEnd
  | fuel + 1, rules, shape, s => do
    let (itemShape, restShape) ← match shape with
      | .any => Except.ok (Shape.any, Shape.any)
      | .list item => Except.ok (item, Shape.list item)
      | .record ((_, field) :: fields) => Except.ok (field, Shape.record fields)
      | .record [] => Except.error SyntaxError.tooManyItems
    let (x, s) ← value fuel rules itemShape s
    match skipBlanks s with
    | ',' :: rest => do
      let (xs, rest) ← items fuel rules restShape rest
      pure (x :: xs, rest)
    | ']' :: rest => pure ([x], rest)
    | s => unexpected s

/-- Reads the members of an object behind its brace; `seen` holds the members before. -/
def members : Nat → Rules → Shape → OrderedMap Json → Reader (OrderedMap Json)
  | 0, _, _, _, _ => .error .unexpectedEnd
  | fuel + 1, rules, shape, seen, s => do
    let (key, s) ← string rules.checked (skipBlanks s)
    let (_, s) ← expect ':' (skipBlanks s)
    let (seen, s) ← match shape with
      | .record fields =>
        match fields.lookup key with
        | some field =>
          if (seen.lookup key).isSome then Except.error (SyntaxError.repeatedField key)
          else do
            let (x, s) ← value fuel rules field s
            pure (OrderedMap.insert key x seen, s)
        | none => do
          let (_, s) ← value fuel { rules with checked := false } .any s
          pure (seen, s)
      | _ => do
        let (x, s) ← value fuel rules .any s
        pure (OrderedMap.insert key x seen, s)
    match skipBlanks s with
    | ',' :: rest => members fuel rules shape seen rest
    | '\x7d' :: rest => pure (seen, rest)
    | s => unexpected s

end

end Reader

/-- Reads a whole text, with blanks around the value. -/
def parseAs (shape : Shape) (text : String) : Except SyntaxError Json := do
  let s := text.toList
  let (x, rest) ← Reader.value (2 * s.length + 2) .strict shape s
  match Reader.skipBlanks rest with
  | [] => pure x
  | rest => Reader.unexpected rest

/-- Reads a whole text without records. -/
def parse (text : String) : Except SyntaxError Json := parseAs .any text

end TableGraph.Json
