import TableGraph.OrderedMap
import TableGraph.Decimal.Literal

/-!
# JSON values

* An object is the list of its members in order, and order is kept everywhere;
* a number is an integer of 64 bits, signed or not, or a 64-bit binary number: `1` and `1.0` are
  different values;
* `==` compares objects without regard to the order of their members.
-/

namespace TableGraph

/-- A JSON number. -/
inductive JsonNumber where
  | int (value : Int)
  | float (value : Float)
  deriving Inhabited, Repr

/-- A JSON value. -/
inductive Json where
  | null
  | bool (value : Bool)
  | number (value : JsonNumber)
  | string (value : String)
  | array (items : List Json)
  | object (members : List (String × Json))
  deriving Inhabited, Repr

namespace JsonNumber

/-- Integers compare with integers and binary numbers with binary numbers; both zeros are equal. -/
protected def beq : JsonNumber → JsonNumber → Bool
  | .int m, .int n => m == n
  | .float x, .float y => x == y
  | _, _ => false

instance : BEq JsonNumber := ⟨JsonNumber.beq⟩

/-- An integer in notation is an integer if 64 bits hold it; `-0` and all other literals are
binary numbers. Nothing if the literal is too large for one. -/
def ofLiteral? (l : Decimal.Literal) : Option JsonNumber :=
  let n := Decimal.ofDigits l.whole
  if l.isInteger && !l.negative && n < Nat.pow 2 64 then some (.int n)
  else if l.isInteger && l.negative && n ≤ Nat.pow 2 63 && n ≠ 0 then some (.int (-n))
  else l.toFloat?.map .float

end JsonNumber

namespace Json

mutual

/-- Equality of values; an object equals another of the same size that has an equal member for
each of its own. -/
protected def beq : Json → Json → Bool
  | .null, .null => true
  | .bool a, .bool b => a == b
  | .number a, .number b => a == b
  | .string a, .string b => a == b
  | .array xs, .array ys => beqItems xs ys
  | .object xs, .object ys => xs.length == ys.length && beqMembers xs ys
  | _, _ => false

/-- Equality of items at the same places. -/
def beqItems : List Json → List Json → Bool
  | [], [] => true
  | x :: xs, y :: ys => x.beq y && beqItems xs ys
  | _, _ => false

/-- Every member has an equal one of the same key in `ys`. -/
def beqMembers : List (String × Json) → List (String × Json) → Bool
  | [], _ => true
  | (key, x) :: xs, ys =>
    (match ys.lookup key with
      | some y => x.beq y
      | none => false) && beqMembers xs ys

end

instance : BEq Json := ⟨Json.beq⟩

/-- A natural number as a value. -/
def ofNat (n : Nat) : Json := .number (.int n)

/-- A list of texts as a value. -/
def ofStrings (items : List String) : Json := .array (items.map .string)

/-- The value is an object. -/
def isObject : Json → Bool
  | .object _ => true
  | _ => false

/-- The value is an array. -/
def isArray : Json → Bool
  | .array _ => true
  | _ => false

/-- The member of a key, if the value is an object and has one. -/
def member? (key : String) : Json → Option Json
  | .object members => members.lookup key
  | _ => none

/-- The keys of the members, if the value is an object. -/
def topKeys : Json → List String
  | .object members => OrderedMap.keys members
  | _ => []

/-- The value without the member of a key. -/
def without (key : String) : Json → Json
  | .object members => .object (OrderedMap.erase key members)
  | value => value

/-- The natural number of an unsigned integer value. -/
def nat? : Json → Option Nat
  | .number (.int n) => if 0 ≤ n ∧ n < Nat.pow 2 64 then some n.toNat else none
  | _ => none

/-- The text of a string value. -/
def string? : Json → Option String
  | .string s => some s
  | _ => none

theorem isObject_iff {value : Json} :
    value.isObject = true ↔ ∃ members, value = .object members := by
  cases value <;> simp [isObject]

theorem member?_without_ne {key other : String} (h : other ≠ key) (value : Json) :
    (value.without key).member? other = value.member? other := by
  cases value <;> simp [without, member?, OrderedMap.lookup_erase_ne _ h]

end Json

end TableGraph
