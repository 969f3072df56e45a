import TableGraph.Proofs.Operation.Selections

/-! # Columns that are resolved

What becomes of a list of columns, whether it gives a selection or an error.

* A list of columns is meant to give some entries (`Columns.Intends`): those of its items in order,
  the primary key if it is empty, and for exceptions the other columns of the table before the
  relations;
* what comes of it is decided by the first rule that applies (`Columns.Resolves`): exceptions that
  are no columns, an item that fails, no entry at all, a repeated response key;
* resolving goes by these rules, and by no others (`Columns.resolve_eq_iff`). -/

namespace TableGraph

/-! ### Rules -/

/-- The name of a column, if the item is one. -/
def Column.name? : Column → Option String
  | .field name => some name
  | .related .. => none

/-- The item is a relation. -/
def Column.isRelated : Column → Bool
  | .field _ => false
  | .related .. => true

/-- The entry that an item gives: a column that the table has, or a relation with what is asked of
it. -/
def Column.entry (t : Table) : Column → Except BuildError Entry
  | .field name =>
    if name ∈ t.fieldNames then .ok (.column name) else .error (.unknownField t.qualified name)
  | .related target name key reach => (reach.resolve t target name key).map .related

namespace Columns

/-- Names among exceptions that are no columns of the table. -/
def undeclared (t : Table) : Columns → List String
  | .listed _ => []
  | .allExcept items => (items.filterMap Column.name?).filter (· ∉ t.fieldNames)

/-- The entries that no item gives: the primary key for the empty list, and for exceptions the
columns of the table that are not among them. -/
def implied (t : Table) : Columns → List Entry
  | .listed [] => t.primaryKey.map .column
  | .listed (_ :: _) => []
  | .allExcept items => (t.fieldNames.filter (· ∉ items.filterMap Column.name?)).map .column

/-- The items that give an entry each: all of a list, and the relations among exceptions. -/
def asked : Columns → List Column
  | .listed items => items
  | .allExcept items => items.filter Column.isRelated

/-- The entries that the columns are meant to give. -/
def Intends (t : Table) (columns : Columns) (entries : List Entry) : Prop :=
  ∃ own, List.Forall₂ (fun item e => item.entry t = .ok e) columns.asked own ∧
    entries = columns.implied t ++ own

/-- What comes of the columns. A rule applies only if none before it does. -/
inductive Resolves (t : Table) (columns : Columns) : Except BuildError (List Entry) → Prop where
  /-- Exceptions that are no columns are reported, all of them in order. -/
  | undeclared (h : columns.undeclared t ≠ []) :
    Resolves t columns (.error (.invalidExclusions t.qualified (columns.undeclared t)))
  /-- The error of the first item that fails is reported. -/
  | failed {before after : List Column} {item : Column} {e : BuildError}
      (h : columns.undeclared t = []) (hasked : columns.asked = before ++ item :: after)
      (hbefore : ∀ b ∈ before, ∃ entry, b.entry t = .ok entry) (hitem : item.entry t = .error e) :
    Resolves t columns (.error e)
  /-- There is no entry. -/
  | empty (h : columns.undeclared t = []) (hintends : columns.Intends t []) :
    Resolves t columns (.error (.emptySelection t.qualified))
  /-- The first response key that repeats one before it is reported. -/
  | repeated {entries : List Entry} {before after : List String} {key : String}
      (h : columns.undeclared t = []) (hintends : columns.Intends t entries)
      (hkeys : entries.map Entry.responseKey = before ++ key :: after) (hbefore : before.Nodup)
      (hkey : key ∈ before) :
    Resolves t columns (.error (.duplicateResponseKey key))
  /-- The entries are selected. -/
  | selected {entries : List Entry} (h : columns.undeclared t = [])
      (hintends : columns.Intends t entries) (hne : entries ≠ [])
      (hnodup : (entries.map Entry.responseKey).Nodup) :
    Resolves t columns (.ok entries)

end Columns

/-! ### Items -/

theorem namesAmong_eq (items : List Column) : namesAmong items = items.filterMap Column.name? := by
  induction items with
  | nil => rfl
  | cons item rest ih =>
      cases item with
      | field name => exact congrArg (name :: ·) ih
      | related => exact ih

theorem isNone_field?_iff {t : Table} {name : String} :
    (t.field? name).isNone = true ↔ name ∉ t.fieldNames := by
  rw [← Table.field?_isSome_iff, Option.isNone_iff_eq_none, Option.isSome_iff_ne_none, not_not]

theorem resolveItems_eq (t : Table) (items : List Column) :
    resolveItems t items = items.mapM (Column.entry t) := by
  induction items with
  | nil => rfl
  | cons item rest ih =>
      rw [List.mapM_cons, ← ih]
      cases item with
      | field name =>
          by_cases hname : name ∈ t.fieldNames
          · simp only [resolveItems, Column.entry, isNone_field?_iff, hname, not_true, if_true,
              if_false]
            rfl
          · simp only [resolveItems, Column.entry, isNone_field?_iff, hname, not_false_eq_true,
              if_true, if_false]
            rfl
      | related target name key reach =>
          simp only [resolveItems, Column.entry]
          cases reach.resolve t target name key <;> rfl

theorem resolveRelated_eq (t : Table) (items : List Column) :
    resolveRelated t items = (items.filter Column.isRelated).mapM (Column.entry t) := by
  induction items with
  | nil => rfl
  | cons item rest ih =>
      cases item with
      | field name => exact ih
      | related target name key reach =>
          rw [List.filter_cons_of_pos rfl, List.mapM_cons, ← ih]
          simp only [resolveRelated, Column.entry]
          cases reach.resolve t target name key <;> rfl

/-! ### Checks -/

theorem checkSelection_of_repeated {t : Table} {entries : List Entry} {key : String}
    (h : firstRepeated [] (entries.map Entry.responseKey) = some key) :
    checkSelection t entries = .error (.duplicateResponseKey key) := by
  cases entries with
  | nil => cases h
  | cons e rest => simp only [checkSelection, List.isEmpty_cons, Bool.false_eq_true, if_false, h]

theorem checkSelection_of_nodup {t : Table} {entries : List Entry} (hne : entries ≠ [])
    (hnodup : (entries.map Entry.responseKey).Nodup) : checkSelection t entries = .ok entries := by
  have hdistinct := firstRepeated_eq_none_iff.mpr ⟨hnodup, fun _ _ => List.not_mem_nil⟩
  cases entries with
  | nil => exact absurd rfl hne
  | cons e rest =>
      simp only [checkSelection, List.isEmpty_cons, Bool.false_eq_true, if_false, hdistinct]

/-! ### Lists -/

namespace Columns

theorem undeclared_allExcept (t : Table) (items : List Column) :
    (namesAmong items).filter (fun name => (t.field? name).isNone) =
      (allExcept items).undeclared t := by
  rw [namesAmong_eq]
  refine List.filter_congr fun name _ => ?_
  rw [Bool.eq_iff_iff, isNone_field?_iff, decide_eq_true_iff]

theorem implied_allExcept (t : Table) (items : List Column) :
    remainingColumns t (namesAmong items) = (allExcept items).implied t := by
  rw [namesAmong_eq]
  refine congrArg (List.map Entry.column) (List.filter_congr fun name _ => ?_)
  rw [List.contains_eq_mem, decide_not]

/-- Exceptions are checked first, then the items are resolved, and last the entries are checked. -/
theorem resolve_eq (t : Table) (columns : Columns) :
    columns.resolve t =
      if columns.undeclared t = [] then do
        checkSelection t (columns.implied t ++ (← columns.asked.mapM (Column.entry t)))
      else .error (.invalidExclusions t.qualified (columns.undeclared t)) := by
  cases columns with
  | listed items =>
      have hnone : (listed items).undeclared t = [] := rfl
      rw [if_pos hnone]
      cases items with
      | nil => exact congrArg (checkSelection t) (List.append_nil _).symm
      | cons item rest => exact congrArg (· >>= checkSelection t) (resolveItems_eq t (item :: rest))
  | allExcept items =>
      rw [resolve, undeclared_allExcept, implied_allExcept, resolveRelated_eq]
      cases (allExcept items).undeclared t with
      | nil => rfl
      | cons name more => rfl

theorem resolves_checkSelection {t : Table} {columns : Columns} {entries : List Entry}
    (h : columns.undeclared t = []) (hintends : columns.Intends t entries) :
    columns.Resolves t (checkSelection t entries) := by
  unfold checkSelection
  split
  · rename_i hempty
    rw [List.isEmpty_iff.mp hempty] at hintends
    exact .empty h hintends
  · rename_i hne
    split
    · rename_i key hrepeated
      obtain ⟨before, after, hkeys, hnodup, -, hkey⟩ := exists_of_firstRepeated hrepeated
      exact .repeated h hintends hkeys hnodup (hkey.resolve_left List.not_mem_nil)
    · rename_i hdistinct
      exact .selected h hintends (fun hnil => hne (List.isEmpty_iff.mpr hnil))
        (firstRepeated_eq_none_iff.mp hdistinct).1

/-- Entries that are meant only have to pass the check. -/
theorem resolve_of_intends {t : Table} {columns : Columns} {entries : List Entry}
    (h : columns.undeclared t = []) (hintends : columns.Intends t entries) :
    columns.resolve t = checkSelection t entries := by
  obtain ⟨own, hown, rfl⟩ := hintends
  rw [resolve_eq, if_pos h, mapM_eq_ok_iff.mpr hown]
  rfl

/-- A list of columns gives a selection or an error by the first rule that applies, and by no
other. -/
theorem resolve_eq_iff (t : Table) (columns : Columns) (result : Except BuildError (List Entry)) :
    columns.resolve t = result ↔ columns.Resolves t result := by
  constructor
  · rintro rfl
    by_cases hundeclared : columns.undeclared t = []
    · cases hown : columns.asked.mapM (Column.entry t) with
      | error e =>
          obtain ⟨before, item, after, hasked, hbefore, hitem⟩ := exists_of_mapM_error hown
          rw [resolve_eq, if_pos hundeclared, hown]
          exact .failed hundeclared hasked hbefore hitem
      | ok own =>
          have hintends : columns.Intends t (columns.implied t ++ own) :=
            ⟨own, mapM_eq_ok_iff.mp hown, rfl⟩
          rw [resolve_of_intends hundeclared hintends]
          exact resolves_checkSelection hundeclared hintends
    · rw [resolve_eq, if_neg hundeclared]
      exact .undeclared hundeclared
  · intro h
    cases h with
    | undeclared h => rw [resolve_eq, if_neg h]
    | failed h hasked hbefore hitem =>
        rw [resolve_eq, if_pos h, hasked, mapM_append_error hbefore hitem]
        rfl
    | empty h hintends => exact resolve_of_intends h hintends
    | repeated h hintends hkeys hbefore hkey =>
        have hrepeated := firstRepeated_append hbefore (fun _ _ => List.not_mem_nil) (.inr hkey)
        rw [resolve_of_intends h hintends, checkSelection_of_repeated (hkeys ▸ hrepeated _)]
    | selected h hintends hne hnodup =>
        rw [resolve_of_intends h hintends, checkSelection_of_nodup hne hnodup]

end Columns

end TableGraph
