import TableGraph.Document.Form
import TableGraph.Invocation

/-! # Requests that differ in values

Two requests are alike if they ask for the same columns and aggregates under the same set of
conditions and operators, whatever the values are.

* Filters have the same keys at the top, in the same order (`Json.topKeys`); of all other
  conditions it counts only whether they are set (`Conditions.Alike`);
* primary keys, inserted objects, several updates and the arguments of functions may be any
  (`RecordOperation.Alike`, `BulkOperation.Alike`, `Invocation.Alike`);
* relations are followed under the same names and aliases, and what is asked of them is alike
  (`Columns.Alike`). -/

namespace TableGraph

/-- The same conditions are set, and the filters have the same keys. -/
structure Conditions.Alike (c c' : Conditions) : Prop where
  filter : c.filter.map Json.topKeys = c'.filter.map Json.topKeys
  orderBy : c.orderBy.isSome = c'.orderBy.isSome
  distinctOn : c.distinctOn.isSome = c'.distinctOn.isSome
  limit : c.limit.isSome = c'.limit.isSome
  offset : c.offset.isSome = c'.offset.isSome

/-- The same operators are given. -/
def UpdateOps.Alike (ops ops' : UpdateOps) : Prop :=
  ∀ o, (ops.get? o).isSome = (ops'.get? o).isSome

mutual

/-- The same columns, and the same relations with alike requests. -/
inductive Columns.Alike : Columns → Columns → Prop where
  | listed {items items' : List Column} (h : AlikeItems items items') :
    Columns.Alike (.listed items) (.listed items')
  | allExcept {items items' : List Column} (h : AlikeItems items items') :
    Columns.Alike (.allExcept items) (.allExcept items')

/-- Items that are alike one by one. -/
inductive AlikeItems : List Column → List Column → Prop where
  | nil : AlikeItems [] []
  | field (name : String) {rest rest' : List Column} (h : AlikeItems rest rest') :
    AlikeItems (.field name :: rest) (.field name :: rest')
  | related (target : Table) (name key : Option String) {reach reach' : Reach}
      {rest rest' : List Column} (hreach : Reach.Alike reach reach') (h : AlikeItems rest rest') :
    AlikeItems (.related target name key reach :: rest) (.related target name key reach' :: rest')

/-- The same is asked of a relation, under conditions that are alike. -/
inductive Reach.Alike : Reach → Reach → Prop where
  | one {columns columns' : Columns} (h : Columns.Alike columns columns') :
    Reach.Alike (.one columns) (.one columns')
  | many {c c' : Conditions} {columns columns' : Columns} (hc : c.Alike c')
      (h : Columns.Alike columns columns') : Reach.Alike (.many c columns) (.many c' columns')
  | aggregate {c c' : Conditions} {requested requested' : Aggregates} (hc : c.Alike c')
      (h : requested.form = requested'.form) :
    Reach.Alike (.aggregate c requested) (.aggregate c' requested')
  | aggregateWithNodes {c c' : Conditions} {requested requested' : Aggregates}
      {columns columns' : Columns} (hc : c.Alike c') (h : requested.form = requested'.form)
      (hcolumns : Columns.Alike columns columns') :
    Reach.Alike (.aggregateWithNodes c requested columns)
      (.aggregateWithNodes c' requested' columns')

end

/-- The same report, of columns that are alike. -/
inductive MutationOutput.Alike : MutationOutput → MutationOutput → Prop where
  | returning {columns columns' : Columns} (h : columns.Alike columns') :
    Alike (.returning columns) (.returning columns')
  | affectedRows : Alike .affectedRows .affectedRows
  | returningWithRows {columns columns' : Columns} (h : columns.Alike columns') :
    Alike (.returningWithRows columns) (.returningWithRows columns')

/-- The same operation on one record, with any values. -/
inductive RecordOperation.Alike : RecordOperation → RecordOperation → Prop where
  | selectByKey (key key' : Json) : Alike (.selectByKey key) (.selectByKey key')
  | insert (object object' : Json) {conflict conflict' : Option Json}
      (h : conflict.isSome = conflict'.isSome) :
    Alike (.insert object conflict) (.insert object' conflict')
  | updateByKey (key key' : Json) {ops ops' : UpdateOps} (h : ops.Alike ops') :
    Alike (.updateByKey key ops) (.updateByKey key' ops')
  | deleteByKey (key key' : Json) : Alike (.deleteByKey key) (.deleteByKey key')
  | call (type : OperationType) (function : String) (args args' : Json) :
    Alike (.call type function args) (.call type function args')

/-- The same operation on a list of records, under conditions that are alike. -/
inductive ListOperation.Alike : ListOperation → ListOperation → Prop where
  | select {c c' : Conditions} (h : c.Alike c') : Alike (.select c) (.select c')
  | call (type : OperationType) (function : String) (args args' : Json) {c c' : Conditions}
      (h : c.Alike c') : Alike (.call type function args c) (.call type function args' c')

/-- The same mutation of any number of rows, with any values. -/
inductive BulkOperation.Alike : BulkOperation → BulkOperation → Prop where
  | insert (objects objects' : Json) {conflict conflict' : Option Json}
      (h : conflict.isSome = conflict'.isSome) :
    Alike (.insert objects conflict) (.insert objects' conflict')
  | update {filter filter' : Json} {ops ops' : UpdateOps}
      (hfilter : filter.topKeys = filter'.topKeys) (h : ops.Alike ops') :
    Alike (.update filter ops) (.update filter' ops')
  | delete {filter filter' : Json} (h : filter.topKeys = filter'.topKeys) :
    Alike (.delete filter) (.delete filter')

/-- The same operation that answers aggregates, under conditions that are alike. -/
inductive AggregateOperation.Alike : AggregateOperation → AggregateOperation → Prop where
  | select {c c' : Conditions} (h : c.Alike c') : Alike (.select c) (.select c')
  | call (function : String) (args args' : Json) {c c' : Conditions} (h : c.Alike c') :
    Alike (.call function args c) (.call function args' c')

/-- The same operation, of whose answer the same is asked. -/
inductive Invocation.Alike : Invocation → Invocation → Prop where
  | record {op op' : RecordOperation} {columns columns' : Columns} (hop : op.Alike op')
      (h : columns.Alike columns') : Alike (.record op columns) (.record op' columns')
  | list {op op' : ListOperation} {columns columns' : Columns} (hop : op.Alike op')
      (h : columns.Alike columns') : Alike (.list op columns) (.list op' columns')
  | bulk {op op' : BulkOperation} {output output' : MutationOutput} (hop : op.Alike op')
      (h : output.Alike output') : Alike (.bulk op output) (.bulk op' output')
  | perUpdate (updates updates' : DistinctUpdates) {output output' : MutationOutput}
      (h : output.Alike output') : Alike (.perUpdate updates output) (.perUpdate updates' output')
  | aggregate {op op' : AggregateOperation} {requested requested' : Aggregates}
      (hop : op.Alike op') (h : requested.form = requested'.form) :
    Alike (.aggregate op requested none) (.aggregate op' requested' none)
  | aggregateWithNodes {op op' : AggregateOperation} {requested requested' : Aggregates}
      {columns columns' : Columns} (hop : op.Alike op') (h : requested.form = requested'.form)
      (hcolumns : columns.Alike columns') :
    Alike (.aggregate op requested (some columns)) (.aggregate op' requested' (some columns'))
  | count {op op' : AggregateOperation} (hop : op.Alike op') : Alike (.count op) (.count op')
  | function (f : AggregateFunction) (columns : List String) {op op' : AggregateOperation}
      (hop : op.Alike op') : Alike (.function op f columns) (.function op' f columns)

/-! ### A request is alike itself -/

theorem Conditions.Alike.refl (c : Conditions) : c.Alike c := ⟨rfl, rfl, rfl, rfl, rfl⟩

mutual

theorem Columns.Alike.refl : ∀ columns : Columns, columns.Alike columns
  | .listed items => .listed (AlikeItems.refl items)
  | .allExcept items => .allExcept (AlikeItems.refl items)

theorem AlikeItems.refl : ∀ items : List Column, AlikeItems items items
  | [] => .nil
  | .field name :: rest => .field name (AlikeItems.refl rest)
  | .related target name key reach :: rest =>
    .related target name key (Reach.Alike.refl reach) (AlikeItems.refl rest)

theorem Reach.Alike.refl : ∀ reach : Reach, reach.Alike reach
  | .one columns => .one (Columns.Alike.refl columns)
  | .many c columns => .many (.refl c) (Columns.Alike.refl columns)
  | .aggregate c _ => .aggregate (.refl c) rfl
  | .aggregateWithNodes c _ columns =>
    .aggregateWithNodes (.refl c) rfl (Columns.Alike.refl columns)

end

end TableGraph
