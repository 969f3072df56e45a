import TableGraph.Argument

/-!
# Aggregates

What is asked of an aggregate: a count, possibly of some columns and of distinct values, and
functions over columns.

* The functions have one order, in which they are written and read back, whatever the order in
  which they were asked for;
* asking again for a function replaces its columns, and asking for it with no columns withdraws it.
-/

namespace TableGraph

/-- A function over the values of a column. -/
inductive AggregateFunction where
  | avg
  | max
  | min
  | stddev
  | stddevPop
  | stddevSamp
  | sum
  | varPop
  | varSamp
  | variance
  deriving DecidableEq, Repr, Inhabited

namespace AggregateFunction

/-- The functions in the order in which they are written. -/
def all : List AggregateFunction :=
  [.avg, .max, .min, .stddev, .stddevPop, .stddevSamp, .sum, .varPop, .varSamp, .variance]

/-- The field of a function. -/
def name : AggregateFunction → String
  | .avg => "avg"
  | .max => "max"
  | .min => "min"
  | .stddev => "stddev"
  | .stddevPop => "stddev_pop"
  | .stddevSamp => "stddev_samp"
  | .sum => "sum"
  | .varPop => "var_pop"
  | .varSamp => "var_samp"
  | .variance => "variance"

/-- The result is a number, and not a value of the column's own type. -/
def isNumeric (f : AggregateFunction) : Bool := f != .max && f != .min

/-- The function of a field. -/
def ofName? (name : String) : Option AggregateFunction := all.find? (·.name == name)

theorem mem_all (f : AggregateFunction) : f ∈ all := by cases f <;> decide

theorem nodup_all : all.Nodup := by decide

theorem name_injective {f g : AggregateFunction} (h : f.name = g.name) : f = g := by
  cases f <;> cases g <;> first | rfl | exact absurd h (by decide)

/-- The columns of a function among requests; there are none if it is not requested. -/
def columnsIn (functions : List (AggregateFunction × List String)) (f : AggregateFunction) :
    List String := (functions.lookup f).getD []

/-- The functions with columns, in order. -/
def ordered (columns : AggregateFunction → List String) : List (AggregateFunction × List String) :=
  all.filterMap fun f => match columns f with
    | [] => .none
    | c :: cs => some (f, c :: cs)

theorem columnsIn_ordered (columns : AggregateFunction → List String) (f : AggregateFunction) :
    columnsIn (ordered columns) f = columns f := by
  suffices h : ∀ fs : List AggregateFunction, fs.Nodup → f ∈ fs →
      ((fs.filterMap fun f => match columns f with
        | [] => .none
        | c :: cs => some (f, c :: cs)).lookup f).getD [] = columns f from
    h _ nodup_all (mem_all f)
  intro fs hfs hf
  induction fs with
  | nil => simp at hf
  | cons g rest ih =>
    obtain ⟨hg, hrest⟩ := List.nodup_cons.mp hfs
    have absent : ∀ hs : List AggregateFunction, f ∉ hs →
        (hs.filterMap fun f => match columns f with
          | [] => .none
          | c :: cs => some (f, c :: cs)).lookup f = .none := by
      intro hs hh
      rw [List.lookup_eq_none_iff]
      intro p hp
      simp only [List.mem_filterMap] at hp
      obtain ⟨g, hgm, hge⟩ := hp
      split at hge
      · simp at hge
      · simp only [Option.some.injEq] at hge
        subst hge
        simp only [bne_iff_ne, ne_eq]
        intro he
        exact hh (he ▸ hgm)
    rcases List.mem_cons.mp hf with rfl | hmem
    · cases hc : columns f with
      | nil => simp [hc, absent rest hg]
      | cons c cs => simp [hc]
    · have hne : (f == g) = false := by
        simp only [beq_eq_false_iff_ne, ne_eq]
        rintro rfl
        exact hg hmem
      cases hc : columns g with
      | nil => simpa [hc] using ih hrest hmem
      | cons c cs => simpa [hc, List.lookup_cons, hne] using ih hrest hmem

theorem ordered_columnsIn_ordered (columns : AggregateFunction → List String) :
    ordered columns = ordered (columnsIn (ordered columns)) := by
  have h : columnsIn (ordered columns) = columns := funext (columnsIn_ordered columns)
  rw [h]

theorem mem_ordered_iff {columns : AggregateFunction → List String} {f : AggregateFunction}
    {cs : List String} : (f, cs) ∈ ordered columns ↔ columns f = cs ∧ cs ≠ [] := by
  unfold ordered
  rw [List.mem_filterMap]
  constructor
  · rintro ⟨g, -, hg⟩
    split at hg
    · cases hg
    · rename_i hcolumns
      cases hg
      exact ⟨hcolumns, List.cons_ne_nil _ _⟩
  · rintro ⟨rfl, hne⟩
    refine ⟨f, mem_all f, ?_⟩
    split
    · rename_i hcolumns
      exact absurd hcolumns hne
    · rename_i hcolumns
      rw [hcolumns]

theorem ne_nil_of_mem_ordered {columns : AggregateFunction → List String}
    {p : AggregateFunction × List String} (h : p ∈ ordered columns) : p.2 ≠ [] :=
  (mem_ordered_iff.mp h).2

theorem ordered_sublist (columns : AggregateFunction → List String) :
    ((ordered columns).map Prod.fst).Sublist all := by
  suffices h : ∀ fs : List AggregateFunction, ((fs.filterMap fun f => match columns f with
      | [] => .none
      | c :: cs => some (f, c :: cs)).map Prod.fst).Sublist fs from h all
  intro fs
  induction fs with
  | nil => exact .slnil
  | cons f rest ih =>
    cases hc : columns f with
    | nil => simpa [hc] using ih.cons f
    | cons c cs => simpa [hc] using ih.cons_cons f

theorem nodup_ordered (columns : AggregateFunction → List String) :
    ((ordered columns).map Prod.fst).Nodup := (ordered_sublist columns).nodup nodup_all

end AggregateFunction

/-- What is counted. -/
structure CountSpec where
  columns : Option (List String)
  distinct : Option Bool
  deriving DecidableEq, Repr, Inhabited

/-- The count is not simply of all rows. -/
def CountSpec.hasArguments (c : CountSpec) : Bool := c.columns.isSome || c.distinct.isSome

/-- The requested aggregates. -/
structure Aggregates where
  count : Option CountSpec
  /-- The requested functions with their columns, of which each has some. -/
  functions : List (AggregateFunction × List String)
  /-- They stand in the order of `AggregateFunction.all`. -/
  functions_ordered : functions = AggregateFunction.ordered (AggregateFunction.columnsIn functions)
  deriving DecidableEq, Repr

namespace Aggregates

/-- Nothing is requested. -/
def none : Aggregates := ⟨.none, [], rfl⟩

instance : Inhabited Aggregates := ⟨none⟩

/-- The columns of a function; there are none if it is not requested. -/
def columns (a : Aggregates) (f : AggregateFunction) : List String :=
  AggregateFunction.columnsIn a.functions f

/-- Asks for a count. -/
def withCount (a : Aggregates) (columns : Option (List String)) (distinct : Option Bool) :
    Aggregates := { a with count := some ⟨columns, distinct⟩ }

/-- Asks for a function over columns, or withdraws it if there are none. -/
def withFunction (a : Aggregates) (f : AggregateFunction) (columns : List String) : Aggregates where
  count := a.count
  functions := AggregateFunction.ordered fun g => if g = f then columns else a.columns g
  functions_ordered := AggregateFunction.ordered_columnsIn_ordered _

/-- Asks for the count of all rows. -/
def justCount : Aggregates := none.withCount .none .none

/-- Nothing is requested. -/
def isEmpty (a : Aggregates) : Bool := a.count.isNone && a.functions.isEmpty

/-- A count and nothing else is requested. -/
def isCountOnly (a : Aggregates) : Bool := a.count.isSome && a.functions.isEmpty

/-- The columns that are counted. -/
def countColumns (a : Aggregates) : List String := (a.count.bind (·.columns)).getD []

/-- All named columns: those of the count, then those of the functions in order. -/
def namedColumns (a : Aggregates) : List String :=
  a.countColumns ++ a.functions.flatMap (·.2)

/-- Something is requested, and only of columns of the table. -/
def validate (a : Aggregates) (t : Table) : Except BuildError Unit :=
  if a.isEmpty then .error .missingAggregate else checkColumns t a.namedColumns

/-- The arguments of the count. -/
def countArguments (t : TableName) (c : CountSpec) : List Argument :=
  (match c.columns with
    | some columns =>
      [.bound "columns" ("[" ++ t.qualified ++ "_select_column!]") (.ofStrings columns)]
    | .none => []) ++
  (match c.distinct with
    | some distinct => [.bound "distinct" "Boolean" (.bool distinct)]
    | .none => [])

/-- The columns of a function are those of the last request for it. -/
@[simp] theorem columns_withFunction (a : Aggregates) (f g : AggregateFunction)
    (columns : List String) :
    (a.withFunction f columns).columns g = if g = f then columns else a.columns g :=
  AggregateFunction.columnsIn_ordered (fun h => if h = f then columns else a.columns h) g

/-- The requested functions are those that have columns. -/
theorem mem_functions_iff {a : Aggregates} {f : AggregateFunction} {columns : List String} :
    (f, columns) ∈ a.functions ↔ a.columns f = columns ∧ columns ≠ [] := by
  rw [a.functions_ordered]
  exact AggregateFunction.mem_ordered_iff

theorem columns_ne_nil {a : Aggregates} {p : AggregateFunction × List String}
    (h : p ∈ a.functions) : p.2 ≠ [] :=
  AggregateFunction.ne_nil_of_mem_ordered (by rw [← a.functions_ordered]; exact h)

/-- No function is requested twice. -/
theorem nodup_functions (a : Aggregates) : (a.functions.map Prod.fst).Nodup := by
  rw [a.functions_ordered]
  exact AggregateFunction.nodup_ordered _

end Aggregates

end TableGraph
