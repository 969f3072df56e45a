import TableGraph.Decimal.Shortest

/-!
# Notation of decimals

How digits and a power of ten are written: positionally in a range of powers, with an exponent
outside of it.
-/

namespace TableGraph.Decimal

/-- The choices of a decimal notation. -/
structure Notation where
  /-- Least power of ten of the first digit that is written positionally. -/
  leastPower : Int
  /-- Greatest power of ten of the first digit that is written positionally. -/
  greatestPower : Int
  /-- What follows a whole number in positional notation. -/
  wholeEnd : String
  /-- Sign of a positive exponent. -/
  exponentPlus : String

/-- `count` zeros. -/
def zeros (count : Nat) : List Char := List.replicate count '0'

namespace Notation
variable (n : Notation)

/-- Digits at their places, with zeros up to the point. -/
def positional (digits : List Char) (power : Int) : String :=
  if power < 0 then "0." ++ String.ofList (zeros ((-power).toNat - 1) ++ digits)
  else
    let whole := power.toNat + 1
    if digits.length ≤ whole then
      String.ofList (digits ++ zeros (whole - digits.length)) ++ n.wholeEnd
    else String.ofList (digits.take whole ++ '.' :: digits.drop whole)

/-- One digit before the point and the power of ten after the letter. -/
def scientific (digits : List Char) (power : Int) : String :=
  let fraction := digits.drop 1
  let mantissa := digits.take 1 ++ if fraction.isEmpty then [] else '.' :: fraction
  let exponent := if power < 0 then toString power else n.exponentPlus ++ toString power
  String.ofList mantissa ++ "e" ++ exponent

/-- The magnitude of `s`. -/
def magnitude (s : Scaled) : String :=
  let digits := Nat.toDigits 10 s.digits
  let power := s.exponent + (digits.length : Int) - 1
  if n.leastPower ≤ power ∧ power ≤ n.greatestPower then n.positional digits power
  else n.scientific digits power

/-- A finite number by its shortest decimal; zero keeps its sign. -/
def render (x : Float) : String :=
  let sign := if x.toBits.toNat < Nat.pow 2 63 then "" else "-"
  sign ++ if x == 0 then "0" ++ n.wholeEnd else n.magnitude (shortest x)

end Notation

end TableGraph.Decimal
