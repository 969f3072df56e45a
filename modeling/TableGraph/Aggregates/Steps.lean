import TableGraph.Aggregates

/-!
# Steps of asking for aggregates

A caller asks for aggregates step by step, each time for the count or for one function.

* A step replaces what was asked before of the same aggregate, and a function without columns is
  withdrawn;
* the functions may also be kept in an array, each in the slot of its number, and be read back in
  their order (`AggregateSlots`).
-/

namespace TableGraph

/-- One step of asking for aggregates. -/
inductive AggregateStep where
  /-- The count of all rows. -/
  | count
  /-- The count of values of columns, or of distinct ones. -/
  | countOf (columns : Option (List String)) (distinct : Option Bool)
  /-- A function over columns. -/
  | function (f : AggregateFunction) (columns : List String)
  deriving DecidableEq, Repr

namespace Aggregates

/-- Takes one step. -/
def step (a : Aggregates) : AggregateStep → Aggregates
  | .count => a.withCount .none .none
  | .countOf columns distinct => a.withCount columns distinct
  | .function f columns => a.withFunction f columns

/-- What is requested by steps one after another. -/
def ofSteps (steps : List AggregateStep) : Aggregates := steps.foldl step none

end Aggregates

/-! ### Slots -/

/-- The number of a function. -/
def AggregateFunction.number (f : AggregateFunction) : Fin 10 := ⟨f.ctorIdx, by cases f <;> decide⟩

theorem AggregateFunction.number_injective : Function.Injective AggregateFunction.number := by
  intro f g h
  cases f <;> cases g <;> first | rfl | exact absurd h (by decide)

theorem AggregateFunction.number_surjective : Function.Surjective AggregateFunction.number := by
  have h : ∀ i : Fin 10, AggregateFunction.all[i.val].number = i := by decide
  exact fun i => ⟨_, h i⟩

/-- Requested aggregates, with a slot for each function. -/
structure AggregateSlots where
  count : Option CountSpec
  /-- The columns of the requested functions, at their numbers. -/
  slots : Vector (Option (List String)) 10

namespace AggregateSlots

/-- Nothing is requested. -/
def none : AggregateSlots := ⟨.none, Vector.replicate 10 .none⟩

/-- Takes one step. A function without columns empties its slot. -/
def step (s : AggregateSlots) : AggregateStep → AggregateSlots
  | .count => { s with count := some ⟨.none, .none⟩ }
  | .countOf columns distinct => { s with count := some ⟨columns, distinct⟩ }
  | .function f columns =>
    { s with slots := s.slots.set f.number (if columns.isEmpty then .none else some columns) }

/-- What is requested by steps one after another. -/
def ofSteps (steps : List AggregateStep) : AggregateSlots := steps.foldl step none

/-- What is in the slot of a function. -/
def columns? (s : AggregateSlots) (f : AggregateFunction) : Option (List String) :=
  s.slots[f.number]

/-- The functions whose slots are filled, in the order of the functions. -/
def functions (s : AggregateSlots) : List (AggregateFunction × List String) :=
  AggregateFunction.all.filterMap fun f => (s.columns? f).map fun columns => (f, columns)

/-- Nothing is requested. -/
def isEmpty (s : AggregateSlots) : Bool := s.count.isNone && s.slots.all (·.isNone)

end AggregateSlots

end TableGraph
