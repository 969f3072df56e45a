/-!
# Shortest decimal of a binary number

The decimal with the fewest digits that lies inside the rounding interval of a 64-bit binary
number.

* A positive finite number is `m · 2^q`; all reals of its interval round to it, the ends too if
  `m` is even (`Interval`);
* for 1, 2, … 17 digits the two neighbours of the number on that decimal grid are tested, and the
  first grid with a hit wins (`Interval.shortest`);
* of two hits the nearer one wins, and a tie goes to the even digit.

All arithmetic is exact and on natural numbers.
-/

namespace TableGraph.Decimal

/-- The decimal `digits · 10^exponent`. -/
structure Scaled where
  digits : Nat
  exponent : Int
  deriving DecidableEq, Repr

/-- The reals that round to one number: the number and the two ends, over one denominator. -/
structure Interval where
  low : Nat
  value : Nat
  high : Nat
  denominator : Nat
  /-- The ends belong to the interval. -/
  closed : Bool
  deriving DecidableEq, Repr

/-- The interval of `m · 2^q`. At a power of two the gap below is half the gap above. -/
def Interval.ofBinary (m : Nat) (q : Int) (atPower : Bool) : Interval :=
  let scale := Nat.pow 2 q.toNat
  { low := (4 * m - if atPower then 1 else 2) * scale
    value := 4 * m * scale
    high := (4 * m + 2) * scale
    denominator := 4 * Nat.pow 2 (-q).toNat
    closed := m % 2 = 0 }

/-- The interval of the magnitude of a finite number other than zero. -/
def Interval.ofFloat (x : Float) : Interval :=
  let bits := x.toBits.toNat
  let biased : Nat := bits / Nat.pow 2 52 % Nat.pow 2 11
  let fraction : Nat := bits % Nat.pow 2 52
  if biased = 0 then .ofBinary fraction (-1074) false
  else .ofBinary (fraction + Nat.pow 2 52) ((biased : Int) - 1075) (fraction = 0 && 1 < biased)

/-- Number of decimal digits of a positive number. -/
def width (n : Nat) : Nat := (Nat.toDigits 10 n).length

/-- The power of ten of the first digit of `n / d`. -/
def leadingPower (n d : Nat) : Int :=
  if d ≤ n then (width (n / d) : Int) - 1 else -(width ((d - 1) / n) : Int)

namespace Interval

/-- The hit on the grid of `count` digits, if there is one. -/
def hit? (i : Interval) (count : Nat) : Option Scaled :=
  let exponent := leadingPower i.value i.denominator - (count : Int) + 1
  let unit := i.denominator * Nat.pow 10 exponent.toNat
  let scale := Nat.pow 10 (-exponent).toNat
  let below := i.value * scale / unit
  let lowHit := if i.closed then i.low * scale ≤ below * unit else i.low * scale < below * unit
  let above := (below + 1) * unit
  let highHit := if i.closed then above ≤ i.high * scale else above < i.high * scale
  let fromBelow := i.value * scale - below * unit
  let toAbove := above - i.value * scale
  if lowHit ∧ highHit then
    if fromBelow < toAbove ∨ (fromBelow = toAbove ∧ below % 2 = 0) then some ⟨below, exponent⟩
    else some ⟨below + 1, exponent⟩
  else if lowHit then some ⟨below, exponent⟩
  else if highHit then some ⟨below + 1, exponent⟩
  else none

/-- The first hit on the grids of 1 to 17 digits; 17 digits always suffice. -/
def shortest (i : Interval) : Scaled :=
  ((List.range 17).findSome? fun k => i.hit? (k + 1)).getD ⟨0, 0⟩

end Interval

/-- Moves trailing zeros of the digits into the exponent. -/
def Scaled.normalize (s : Scaled) : Scaled := go (width s.digits) s
where
  go : Nat → Scaled → Scaled
    | 0, s => s
    | fuel + 1, s =>
      if s.digits ≠ 0 ∧ s.digits % 10 = 0 then go fuel ⟨s.digits / 10, s.exponent + 1⟩ else s

/-- The shortest decimal of the magnitude of a finite number other than zero. -/
def shortest (x : Float) : Scaled := (Interval.ofFloat x).shortest.normalize

end TableGraph.Decimal
