import TableGraph.Text.Hidden

/-!
# Quoted lists of names

The form in which messages list names: `["a", "b"]`.

* A quote and a backslash get a backslash before them, and tab, line feed, carriage return and
  NUL have a letter each;
* every other hidden character is written by its number, `\u{7f}`;
* all else, the apostrophe included, stands for itself.
-/

namespace TableGraph.Text

/-- Digits of `n` in lower-case hexadecimal, without leading zeros. -/
def hex (n : Nat) : List Char := Nat.toDigits 16 n

/-- One character inside quotes. -/
def quotedChar (c : Char) : List Char :=
  if c = '"' then ['\\', '"']
  else if c = '\\' then ['\\', '\\']
  else if c = '\t' then ['\\', 't']
  else if c = '\n' then ['\\', 'n']
  else if c = '\r' then ['\\', 'r']
  else if c = '\x00' then ['\\', '0']
  else if isHidden c then ['\\', 'u', '\x7b'] ++ hex c.toNat ++ ['\x7d']
  else [c]

/-- A name in quotes. -/
def quoted (s : String) : String :=
  String.ofList ('"' :: s.toList.flatMap quotedChar ++ ['"'])

/-- Names in quotes, between brackets and with commas. -/
def quotedList (names : List String) : String :=
  "[" ++ String.intercalate ", " (names.map quoted) ++ "]"

end TableGraph.Text
