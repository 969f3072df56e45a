/-!
# UTF-8

A byte automaton between characters or inside one. Inside a character it knows how many
continuation bytes are owed and which range the next one must lie in, so overlong forms,
surrogates and numbers above U+10FFFF are refused at the first byte that rules them out.

* `scan` yields one item per character and one `none` per maximal ill-formed run;
* `decode?` accepts a text without ill-formed runs;
* `decodeLossy` writes U+FFFD for each of them;
* `stop` tells where the first of them begins, and how long it is.
-/

namespace TableGraph.Text.Utf8

/-- Where the automaton stands: the bits read so far, the continuation bytes owed after the
next one, and the bounds of the next byte. -/
inductive State where
  | start
  | inside (bits : Nat) (owed : Nat) (low high : Nat)

/-- What a byte does between characters: a character, the start of a longer one, or nothing. -/
def lead (b : Nat) : Option Char × State :=
  if b < 0x80 then (some (Char.ofNat b), .start)
  else if b < 0xC2 then (none, .start)
  else if b < 0xE0 then (none, .inside (b - 0xC0) 0 0x80 0xBF)
  else if b = 0xE0 then (none, .inside 0 1 0xA0 0xBF)
  else if b = 0xED then (none, .inside (b - 0xE0) 1 0x80 0x9F)
  else if b < 0xF0 then (none, .inside (b - 0xE0) 1 0x80 0xBF)
  else if b = 0xF0 then (none, .inside 0 2 0x90 0xBF)
  else if b < 0xF4 then (none, .inside (b - 0xF0) 2 0x80 0xBF)
  else if b = 0xF4 then (none, .inside (b - 0xF0) 2 0x80 0x8F)
  else (none, .start)

/-- The items that reading `b` between characters completes. -/
def opened (b : Nat) : List (Option Char) × State :=
  match lead b with
  | (some c, s) => ([some c], s)
  | (none, .start) => ([none], .start)
  | (none, s) => ([], s)

/-- The items that reading `b` completes, and the state after it. A byte that breaks off a
character ends an ill-formed run and is read again between characters. -/
def step : State → Nat → List (Option Char) × State
  | .start, b => opened b
  | .inside bits owed low high, b =>
    if low ≤ b ∧ b ≤ high then
      let bits := bits * 64 + (b - 0x80)
      match owed with
      | 0 => ([some (Char.ofNat bits)], .start)
      | owed + 1 => ([], .inside bits owed 0x80 0xBF)
    else
      let (items, s) := opened b
      (none :: items, s)

/-- Items of a byte sequence from a state on. -/
def scanFrom : State → List UInt8 → List (Option Char)
  | .start, [] => []
  | .inside .., [] => [none]
  | s, b :: rest =>
    let (items, s) := step s b.toNat
    items ++ scanFrom s rest

/-- One item per character, `none` for each ill-formed run. -/
def scan (bytes : List UInt8) : List (Option Char) := scanFrom .start bytes

/-- The text of well-formed bytes. -/
def decode? (bytes : List UInt8) : Option (List Char) := (scan bytes).mapM id

/-- The text of any bytes, with U+FFFD for ill-formed runs. -/
def decodeLossy (bytes : List UInt8) : List Char := (scan bytes).map (·.getD '\uFFFD')

/-- Where well-formed bytes stop: the index of the first byte that belongs to no character, and the
number of bytes in the ill-formed run there, or nothing if the bytes end before the run does. -/
structure Stop where
  index : Nat
  length : Option Nat
  deriving DecidableEq, Repr

/-- Where bytes stop to be well-formed, from a state on. The character that is read begins at
`index`, and `length` bytes of it are read. -/
def stopFrom (index length : Nat) : State → List UInt8 → Stop
  | _, [] => ⟨index, none⟩
  | s, b :: rest =>
    match step s b.toNat with
    | ([], s) => stopFrom index (length + 1) s rest
    | (some _ :: _, s) => stopFrom (index + length + 1) 0 s rest
    -- a byte that cannot begin a character is a run of its own
    | (none :: _, _) => ⟨index, some (max 1 length)⟩

/-- Where bytes stop to be well-formed. -/
def stop (bytes : List UInt8) : Stop := stopFrom 0 0 .start bytes

/-- What is said of bytes that are not well-formed. -/
def Stop.text (s : Stop) : String :=
  match s.length with
  | some length =>
    "invalid utf-8 sequence of " ++ toString length ++ " bytes from index " ++ toString s.index
  | none => "incomplete utf-8 byte sequence from index " ++ toString s.index

/-- A byte that breaks off a character does not belong to the run. -/
example : stop [0x61, 0xE2, 0x82, 0x28] = ⟨1, some 2⟩ ∧ stop [0x61, 0xE2, 0x82] = ⟨1, none⟩ := by
  decide

/-- The bytes of one character. -/
def encodeChar (c : Char) : List UInt8 :=
  let n := c.toNat
  if n < 0x80 then [n.toUInt8]
  else if n < 0x800 then [(0xC0 + n / 64).toUInt8, (0x80 + n % 64).toUInt8]
  else if n < 0x10000 then
    [(0xE0 + n / 4096).toUInt8, (0x80 + n / 64 % 64).toUInt8, (0x80 + n % 64).toUInt8]
  else
    [(0xF0 + n / 262144).toUInt8, (0x80 + n / 4096 % 64).toUInt8, (0x80 + n / 64 % 64).toUInt8,
      (0x80 + n % 64).toUInt8]

/-- The bytes of a text. -/
def encode (s : List Char) : List UInt8 := s.flatMap encodeChar

end TableGraph.Text.Utf8
