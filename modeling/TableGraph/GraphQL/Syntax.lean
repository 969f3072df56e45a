import TableGraph.Node

/-!
# Syntax of query documents

The part of the query language that documents are written in: one operation with its variables,
and fields with aliases, arguments and selections.

* What stands at the site of a variable is a parameter `ν` of the syntax: a name in a document, or
  anything that waits for its name;
* `sites` lists what stands at the sites from left to right, and `fill` puts other things there,
  by their place in this order;
* `map` changes what stands at each site, and `keyed` puts a field under another key.
-/

namespace TableGraph.GraphQL

variable {ν μ : Type}

/-- A value in a document: a variable or an object of values. -/
inductive Value (ν : Type) where
  | variable (site : ν)
  | object (fields : List (String × Value ν))

/-- A field, with a key of its own if it has an alias: a leaf, or a branch with a selection. -/
inductive QueryField (ν : Type) where
  | leaf (key : Option String) (name : String) (arguments : List (String × Value ν))
  | branch (key : Option String) (name : String) (arguments : List (String × Value ν))
      (selection : List (QueryField ν))

/-- The declaration of a variable. -/
structure Declaration where
  name : String
  type : String
  deriving DecidableEq, Repr, Inhabited

/-- A document of one operation. -/
structure Operation where
  type : OperationType
  name : String
  declarations : List Declaration
  roots : List (QueryField String)

/-! ### Sites -/

mutual

/-- What stands at the sites of a value. -/
def Value.sites : Value ν → List ν
  | .variable site => [site]
  | .object fields => valueSites fields

/-- What stands at the sites of named values. -/
def valueSites : List (String × Value ν) → List ν
  | [] => []
  | (_, value) :: rest => value.sites ++ valueSites rest

end

mutual

/-- What stands at the sites of a field: first in its arguments, then in its selection. -/
def QueryField.sites : QueryField ν → List ν
  | .leaf _ _ arguments => valueSites arguments
  | .branch _ _ arguments selection => valueSites arguments ++ fieldSites selection

/-- What stands at the sites of fields. -/
def fieldSites : List (QueryField ν) → List ν
  | [] => []
  | field :: rest => field.sites ++ fieldSites rest

end

mutual

/-- The value with `g i` at its site of number `i`; the first site has number `k`. -/
def Value.fill (g : Nat → μ) (k : Nat) : Value ν → Value μ
  | .variable _ => .variable (g k)
  | .object fields => .object (fillValues g k fields)

/-- Named values with `g i` at their site of number `i`. -/
def fillValues (g : Nat → μ) (k : Nat) : List (String × Value ν) → List (String × Value μ)
  | [] => []
  | (name, value) :: rest =>
    (name, value.fill g k) :: fillValues g (k + value.sites.length) rest

end

mutual

/-- The field with `g i` at its site of number `i`. -/
def QueryField.fill (g : Nat → μ) (k : Nat) : QueryField ν → QueryField μ
  | .leaf key name arguments => .leaf key name (fillValues g k arguments)
  | .branch key name arguments selection =>
    .branch key name (fillValues g k arguments)
      (fillFields g (k + (valueSites arguments).length) selection)

/-- Fields with `g i` at their site of number `i`. -/
def fillFields (g : Nat → μ) (k : Nat) : List (QueryField ν) → List (QueryField μ)
  | [] => []
  | field :: rest => field.fill g k :: fillFields g (k + field.sites.length) rest

end

/-! ### Changes at the sites -/

mutual

/-- The value with `r` done to what stands at its sites. -/
def Value.map (r : ν → μ) : Value ν → Value μ
  | .variable site => .variable (r site)
  | .object fields => .object (mapValues r fields)

/-- Named values with `r` done to what stands at their sites. -/
def mapValues (r : ν → μ) : List (String × Value ν) → List (String × Value μ)
  | [] => []
  | (name, value) :: rest => (name, value.map r) :: mapValues r rest

end

mutual

/-- The field with `r` done to what stands at its sites. -/
def QueryField.map (r : ν → μ) : QueryField ν → QueryField μ
  | .leaf key name arguments => .leaf key name (mapValues r arguments)
  | .branch key name arguments selection =>
    .branch key name (mapValues r arguments) (mapFields r selection)

/-- Fields with `r` done to what stands at their sites. -/
def mapFields (r : ν → μ) : List (QueryField ν) → List (QueryField μ)
  | [] => []
  | field :: rest => field.map r :: mapFields r rest

end

/-- The field under another key. -/
def QueryField.keyed (key : String) : QueryField ν → QueryField ν
  | .leaf _ name arguments => .leaf (some key) name arguments
  | .branch _ name arguments selection => .branch (some key) name arguments selection

end TableGraph.GraphQL
