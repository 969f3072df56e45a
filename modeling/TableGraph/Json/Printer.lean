import TableGraph.Json.Basic
import TableGraph.Decimal.Notation

/-!
# JSON text

The compact text of a value.

* No blanks; members in their order;
* only the quote, the backslash and the characters below U+0020 are escaped, five of them by a
  letter;
* a binary number is written by its shortest decimal, positionally for powers of ten from -5 to
  15 and with a signed exponent beyond.
-/

namespace TableGraph.Json

/-- Numbers are positional from `0.00001` to `1000000000000000.0`, a whole one ends in `.0`, and a
positive exponent has its sign. -/
def numberNotation : Decimal.Notation := ⟨-5, 15, ".0", "+"⟩

/-- Two lower-case hexadecimal digits. -/
def hexPair (n : Nat) : List Char := [Nat.digitChar (n / 16), Nat.digitChar (n % 16)]

/-- One character of a string. -/
def escape (c : Char) : List Char :=
  if c = '"' then ['\\', '"']
  else if c = '\\' then ['\\', '\\']
  else if c = '\n' then ['\\', 'n']
  else if c = '\r' then ['\\', 'r']
  else if c = '\t' then ['\\', 't']
  else if c = '\x08' then ['\\', 'b']
  else if c = '\x0c' then ['\\', 'f']
  else if c.toNat < 32 then ['\\', 'u', '0', '0'] ++ hexPair c.toNat
  else [c]

/-- A string in quotes. -/
def stringText (s : String) : String := String.ofList ('"' :: s.toList.flatMap escape ++ ['"'])

/-- An integer by its digits, a binary number by its notation. -/
def numberText : JsonNumber → String
  | .int n => toString n
  | .float x => numberNotation.render x

mutual

/-- The compact text of a value. -/
def text : Json → String
  | .null => "null"
  | .bool true => "true"
  | .bool false => "false"
  | .number n => numberText n
  | .string s => stringText s
  | .array items => "[" ++ String.intercalate "," (itemTexts items) ++ "]"
  | .object members => "\x7b" ++ String.intercalate "," (memberTexts members) ++ "\x7d"

/-- The texts of items. -/
def itemTexts : List Json → List String
  | [] => []
  | item :: rest => item.text :: itemTexts rest

/-- The texts of members. -/
def memberTexts : List (String × Json) → List String
  | [] => []
  | (key, value) :: rest => (stringText key ++ ":" ++ value.text) :: memberTexts rest

end

end TableGraph.Json
