/-!
# Durations

Spans of time in nanoseconds, their whole milliseconds, and their text in the largest unit that
gives a whole part: `0ns`, `3ms`, `1.5s`.
-/

namespace TableGraph

/-- A span of time. -/
structure Duration where
  nanoseconds : Nat
  deriving DecidableEq, Repr, Inhabited

namespace Duration

/-- Whole seconds and nanoseconds beyond them. -/
def ofParts (seconds nanoseconds : Nat) : Duration := ⟨seconds * 1000000000 + nanoseconds⟩

/-- Whole seconds. -/
def ofSeconds (seconds : Nat) : Duration := ofParts seconds 0

/-- Whole milliseconds. -/
def ofMillis (millis : Nat) : Duration := ⟨millis * 1000000⟩

/-- The whole milliseconds of a span. -/
def toMillis (d : Duration) : Nat := d.nanoseconds / 1000000

/-- Decimal digits of `n`, filled up to `width` places. -/
def padded (width n : Nat) : List Char :=
  let digits := Nat.toDigits 10 n
  List.replicate (width - digits.length) '0' ++ digits

/-- The digits after the point, without zeros at the end. -/
def fractionText (width n : Nat) : String :=
  let digits := ((padded width n).reverse.dropWhile (· == '0')).reverse
  if digits.isEmpty then "" else "." ++ String.ofList digits

/-- The text of a span. -/
def text (d : Duration) : String :=
  let n := d.nanoseconds
  if 1000000000 ≤ n then toString (n / 1000000000) ++ fractionText 9 (n % 1000000000) ++ "s"
  else if 1000000 ≤ n then toString (n / 1000000) ++ fractionText 6 (n % 1000000) ++ "ms"
  else if 1000 ≤ n then toString (n / 1000) ++ fractionText 3 (n % 1000) ++ "µs"
  else toString n ++ "ns"

end Duration

end TableGraph
