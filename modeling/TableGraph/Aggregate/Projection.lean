import TableGraph.Aggregates
import TableGraph.Answer

/-!
# Projections of aggregates

The values of aggregates in an answer: a count, and a record for each function. Functions that
return values of a column's own type have records of one type, the statistical ones of another.

* Only what was requested is read, and all else is absent;
* a requested function that the answer leaves out or answers with null is absent too.
-/

namespace TableGraph

/-- Values of aggregates. -/
structure Aggregate (β ν : Type) where
  count : Option Nat
  avg : Option ν
  max : Option β
  min : Option β
  stddev : Option ν
  stddevPop : Option ν
  stddevSamp : Option ν
  sum : Option ν
  varPop : Option ν
  varSamp : Option ν
  variance : Option ν
  deriving Repr, Inhabited

/-- The answer of a relation that is asked for aggregates. -/
structure AggregateResponse (μ β ν : Type) where
  aggregate : Option (Aggregate β ν)
  nodes : Option (List μ)
  deriving Repr, Inhabited

namespace Aggregate
variable {β ν : Type}

/-- Reads aggregates field by field. -/
def reader [Decode β] [Decode ν] : FieldReader (Aggregate β ν) :=
  Aggregate.mk <$> .optional "count" <*> numeric .avg <*> base .max <*> base .min
    <*> numeric .stddev <*> numeric .stddevPop <*> numeric .stddevSamp <*> numeric .sum
    <*> numeric .varPop <*> numeric .varSamp <*> numeric .variance
where
  numeric (f : AggregateFunction) : FieldReader (Option ν) := .optional f.name
  base (f : AggregateFunction) : FieldReader (Option β) := .optional f.name

instance [Decode β] [Decode ν] : Decode (Aggregate β ν) where
  decode := decodeRecord "Aggregate" reader

instance [Encode β] [Encode ν] : Encode (Aggregate β ν) where
  encode a := .object (presentMember "count" a.count ++ presentMember "avg" a.avg ++
    presentMember "max" a.max ++ presentMember "min" a.min ++ presentMember "stddev" a.stddev ++
    presentMember "stddev_pop" a.stddevPop ++ presentMember "stddev_samp" a.stddevSamp ++
    presentMember "sum" a.sum ++ presentMember "var_pop" a.varPop ++
    presentMember "var_samp" a.varSamp ++ presentMember "variance" a.variance)

/-- The names of the aggregates that are not requested. -/
def unrequested (requested : Aggregates) : List String :=
  (if requested.count.isNone then ["count"] else []) ++
    (AggregateFunction.all.filter fun f => (requested.columns f).isEmpty).map (·.name)

/-- What is left of a fragment when the aggregates that are not requested are removed from it, one
after another. -/
def kept (requested : Aggregates) (members : OrderedMap Json) : OrderedMap Json :=
  (unrequested requested).foldl (fun m name => OrderedMap.swapRemove name m)
    (OrderedMap.distinct members)

/-- Reads the requested aggregates of a fragment. -/
def project [Decode β] [Decode ν] (requested : Aggregates) :
    Json → Except ClientError (Aggregate β ν)
  | .object members => liftDecode (decode (.object (kept requested members)))
  | _ => .error (.invalidResponse "Aggregate fragment is not an object")

/-- Reads the requested aggregates of an answer. -/
def ofAnswer [Decode β] [Decode ν] (requested : Aggregates) (value : Json) :
    Except ClientError (Aggregate β ν) := do
  project requested (← Answer.field "aggregate" value)

/-- Reads the count of an answer. -/
def countOfAnswer (value : Json) : Except ClientError Nat := do
  match (← Answer.field "count" (← Answer.field "aggregate" value)).nat? with
  | some n => pure n
  | none => throw (.invalidResponse (BuildError.ticked "count" ++ " is not an integer"))

/-- Reads one function of an answer. -/
def functionOfAnswer (f : AggregateFunction) (value : Json) : Except ClientError OpenRecord := do
  liftDecode (decode (← Answer.field f.name (← Answer.field "aggregate" value)))

end Aggregate

instance {μ β ν : Type} [Decode μ] [Decode β] [Decode ν] : Decode (AggregateResponse μ β ν) where
  decode := decodeRecord "AggregateResponse"
    (AggregateResponse.mk <$> .optional "aggregate" <*> .optional "nodes")

instance {μ β ν : Type} [Encode μ] [Encode β] [Encode ν] : Encode (AggregateResponse μ β ν) where
  encode r := .object [("aggregate", encode r.aggregate), ("nodes", encode r.nodes)]

end TableGraph
