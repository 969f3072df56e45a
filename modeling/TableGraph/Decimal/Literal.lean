/-!
# Decimal literals

A number as it is written: sign, whole digits, fraction, exponent, and its reading as a 64-bit
number.

* Digits are taken over into a 64-bit significand as long as it has room; whole digits that find
  no room count as powers of ten, digits of the fraction that find none are left out;
* the significand is rounded once, then multiplied or divided by a power of ten, rounding again
  (`Literal.toFloat?`), so the last bit of a long literal may differ from the nearest number;
* a literal beyond the greatest finite number has no value.
-/

namespace TableGraph.Decimal

/-- A number as written. -/
structure Literal where
  negative : Bool
  whole : List Char
  fraction : Option (List Char)
  /-- Whether the exponent is negative, and its digits. -/
  exponent : Option (Bool × List Char)
  deriving DecidableEq, Repr

/-- Value of a decimal digit. -/
def digitValue (c : Char) : Nat := c.toNat - 48

/-- The number written by decimal digits. -/
def ofDigits (digits : List Char) : Nat := digits.foldl (fun n c => n * 10 + digitValue c) 0

/-- The bound of the significand. -/
def maxSignificand : Nat := Nat.pow 2 64 - 1

/-- Takes digits over into the significand until one finds no room; returns the significand and
the digits that are left. -/
def absorb (significand : Nat) : List Char → Nat × List Char
  | [] => (significand, [])
  | c :: rest =>
    let next := significand * 10 + digitValue c
    if next ≤ maxSignificand then absorb next rest else (significand, c :: rest)

/-- The greatest exponent that is carried; larger ones have the same effect. -/
def maxExponent : Int := Nat.pow 2 31 - 1

/-- Divides by `10^308` until the exponent is in the range of the table of powers. -/
def descend : Nat → Float → Int → Float
  | 0, x, _ => x
  | fuel + 1, x, e =>
    if -308 ≤ e then x / Float.ofScientific 1 false (-e).toNat
    else if x == 0 then x
    else descend fuel (x / Float.ofScientific 1 false 308) (e + 308)

/-- `significand · 10^exponent`, in two roundings; nothing if it is infinite. -/
def scale? (significand : Nat) (exponent : Int) : Option Float :=
  let x := significand.toUInt64.toFloat
  if exponent < 0 then
    let e := max exponent (-maxExponent - 1)
    some (descend ((-e).toNat / 308 + 1) x e)
  else if exponent ≤ 308 then
    let y := x * Float.ofScientific 1 false exponent.toNat
    if y.isInf then none else some y
  else if significand = 0 then some x
  else none

namespace Literal

/-- The literal is an integer in notation. -/
def isInteger (l : Literal) : Bool := l.fraction.isNone && l.exponent.isNone

/-- Significand and power of ten of a literal, before its exponent is applied. -/
def significand (l : Literal) : Nat × Int :=
  let (s, beyond) := absorb 0 l.whole
  let (t, omitted) := absorb s (l.fraction.getD [])
  let kept := (l.fraction.getD []).length - omitted.length
  (t, (beyond.length : Int) - kept)

/-- The 64-bit number of a literal; nothing if it is too large. -/
def toFloat? (l : Literal) : Option Float :=
  let (s, power) := l.significand
  let magnitude := match l.exponent with
    | none => scale? s power
    | some (negative, digits) =>
      let e : Int := ofDigits digits
      if maxExponent < e then (if s = 0 ∨ negative then some 0 else none)
      else if negative then scale? s (max (power - e) (-maxExponent - 1))
      else scale? s (min (power + e) maxExponent)
  magnitude.map fun x => if l.negative then -x else x

end Literal

end TableGraph.Decimal
