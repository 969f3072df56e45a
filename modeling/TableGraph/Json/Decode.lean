import TableGraph.BuildError
import TableGraph.Json.Printer

/-!
# Decoding and encoding

How values become typed ones and back, and what is said of a value that does not.

* Integers are read from integers of their range only; a binary number is read from any number;
* null reads as no value where a value is optional;
* a list is decoded item by item, and the first item that fails is the one that is reported.
-/

namespace TableGraph

/-- Why a value does not decode. What was expected is described in words. -/
inductive DecodeError where
  | wrongType (got : Json) (expected : String)
  | wrongValue (got : Json) (expected : String)
  | wrongLength (length : Nat) (expected : String)
  | missingField (name : String)

namespace DecodeError

/-- What is said of a value that was not expected: all of it, or only the kind of a list and an
object. -/
def described : Json → String
  | .null => "null"
  | .bool b => "boolean " ++ BuildError.ticked (toString b)
  | .number (.int n) => "integer " ++ BuildError.ticked (toString n)
  | .number (.float x) => "floating point " ++ BuildError.ticked (Json.numberText (.float x))
  | .string s => "string " ++ Text.quoted s
  | .array _ => "sequence"
  | .object _ => "map"

/-- The wording of a decoding error. -/
def message : DecodeError → String
  | .wrongType got expected => "invalid type: " ++ described got ++ ", expected " ++ expected
  | .wrongValue got expected => "invalid value: " ++ described got ++ ", expected " ++ expected
  | .wrongLength length expected =>
    "invalid length " ++ toString length ++ ", expected " ++ expected
  | .missingField name => "missing field " ++ BuildError.ticked name

/-- An integer that is out of range has the wrong value, and all else the wrong type. -/
def notInteger (got : Json) (expected : String) : DecodeError :=
  match got with
  | .number (.int _) => .wrongValue got expected
  | _ => .wrongType got expected

end DecodeError

/-- Types that values decode to. -/
class Decode (α : Type) where
  decode : Json → Except DecodeError α

/-- Types that are written as values. -/
class Encode (α : Type) where
  encode : α → Json

export Decode (decode)
export Encode (encode)

/-- A record of unknown fields, kept as it came. -/
structure OpenRecord where
  members : OrderedMap Json
  deriving Inhabited, Repr

/-! ### Plain values -/

instance : Decode Json := ⟨.ok⟩

instance : Encode Json := ⟨id⟩

instance : Decode Unit where
  decode
    | .null => .ok ()
    | got => .error (.wrongType got "unit")

instance : Encode Unit := ⟨fun _ => .null⟩

instance : Decode Bool where
  decode
    | .bool b => .ok b
    | got => .error (.wrongType got "a boolean")

instance : Encode Bool := ⟨.bool⟩

instance : Decode String where
  decode
    | .string s => .ok s
    | got => .error (.wrongType got "a string")

instance : Encode String := ⟨.string⟩

/-- An integer that 64 bits with a sign hold. -/
instance : Decode Int where
  decode
    | .number (.int n) =>
      if -Nat.pow 2 63 ≤ n ∧ n < Nat.pow 2 63 then .ok n
      else .error (.wrongValue (.number (.int n)) "i64")
    | got => .error (.wrongType got "i64")

instance : Encode Int := ⟨fun n => .number (.int n)⟩

/-- An integer that 64 bits without a sign hold. -/
instance : Decode Nat where
  decode got :=
    match got.nat? with
    | some n => .ok n
    | none => .error (.notInteger got "u64")

instance : Encode Nat := ⟨.ofNat⟩

/-- The nearest binary number of an integer of 64 bits. -/
def nearestFloat (n : Int) : Float :=
  let magnitude := n.natAbs.toUInt64.toFloat
  if n < 0 then -magnitude else magnitude

instance : Decode Float where
  decode
    | .number (.float x) => .ok x
    | .number (.int n) => .ok (nearestFloat n)
    | got => .error (.wrongType got "f64")

instance : Encode Float := ⟨fun x => .number (.float x)⟩

instance : Decode OpenRecord where
  decode
    | .object members => .ok ⟨members⟩
    | got => .error (.wrongType got "a map")

instance : Encode OpenRecord := ⟨fun r => .object r.members⟩

/-! ### Lists, options and pairs -/

/-- Decodes each item; the first failure wins. -/
def decodeItems {α : Type} [Decode α] : List Json → Except DecodeError (List α)
  | [] => .ok []
  | x :: rest => do
    let head ← decode x
    let tail ← decodeItems rest
    pure (head :: tail)

instance {α : Type} [Decode α] : Decode (List α) where
  decode
    | .array items => decodeItems items
    | got => .error (.wrongType got "a sequence")

instance {α : Type} [Encode α] : Encode (List α) := ⟨fun xs => .array (xs.map encode)⟩

instance {α : Type} [Decode α] : Decode (Option α) where
  decode
    | .null => .ok none
    | value => (decode value).map some

instance {α : Type} [Encode α] : Encode (Option α) where
  encode
    | some x => encode x
    | none => .null

instance {α β : Type} [Encode α] [Encode β] : Encode (α × β) :=
  ⟨fun p => .array [encode p.1, encode p.2]⟩

/-- A member that is written only if there is a value. -/
def presentMember {α : Type} [Encode α] (name : String) : Option α → List (String × Json)
  | some x => [(name, encode x)]
  | none => []

end TableGraph
