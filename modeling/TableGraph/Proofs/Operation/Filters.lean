import TableGraph.Proofs.Operation.Resolution
import TableGraph.Proofs.Table.Lookups
import TableGraph.Sample.Tables

/-! # Keys of filters

What each key of a filter stands for, and which filters are accepted.

* A key may fit several roles: a column and a relation of one name, or a column whose name ends
  like the aggregates of a relation (`FilterRole.Fits`).  The one that comes first in the order of
  precedence counts (`FilterRole.Counts`);
* the type of a key is that of the role that counts (`filterType?_eq_some_iff`), and a key has no
  type if it fits no role (`filterType?_eq_none_iff`);
* so a filter is accepted if it is an object of keys with roles, and becomes an entry for each key;
  else the first key without a role is reported (`compileFilter_by_roles`). -/

namespace TableGraph

/-! ### Roles -/

/-- What the value under a key says something about. -/
inductive FilterRole where
  /-- Several conditions on the table, all of which or one of which has to hold. -/
  | combination
  /-- One condition on the table, which must not hold. -/
  | negation
  /-- The values of a column. -/
  | column (field : ScalarField)
  /-- The rows that a relation leads to. -/
  | relation (r : Relation)
  /-- Aggregates of the rows that a relation leads to. -/
  | aggregate (r : Relation)

namespace FilterRole

/-- The place of the role in the order of precedence. -/
def rank : FilterRole → Nat
  | .combination => 0
  | .negation => 1
  | .column _ => 2
  | .relation _ => 3
  | .aggregate _ => 4

/-- The type of values in the role. -/
def type (t : Table) : FilterRole → String
  | .combination => "[" ++ t.qualified ++ "_bool_exp!]"
  | .negation => t.qualified ++ "_bool_exp"
  | .column field => field.scalar ++ "_comparison_exp"
  | .relation r => r.target.qualified ++ "_bool_exp"
  | .aggregate r => r.target.qualified ++ "_aggregate_bool_exp"

/-- The key can be read in the role. The first column or relation of a name counts, and only a
relation to many rows has aggregates. -/
inductive Fits (t : Table) (key : String) : FilterRole → Prop where
  | combination (h : key = "_and" ∨ key = "_or") : Fits t key .combination
  | negation (h : key = "_not") : Fits t key .negation
  | column {f : ScalarField} (h : IsFirst ScalarField.name t.fields key f) : Fits t key (.column f)
  | relation {r : Relation} (h : IsFirst Relation.name t.relations key r) : Fits t key (.relation r)
  | aggregate {name : String} {r : Relation} (hkey : key = name ++ "_aggregate")
      (h : IsFirst Relation.name t.relations name r) (hmany : r.cardinality = .many) :
    Fits t key (.aggregate r)

/-- The key is read in the role: it fits, and no role before it does. -/
structure Counts (t : Table) (key : String) (role : FilterRole) : Prop where
  fits : role.Fits t key
  first : ∀ other : FilterRole, other.Fits t key → role.rank ≤ other.rank

section
variable {t : Table} {key : String} {f : ScalarField} {r : Relation}

@[simp] theorem fits_combination : combination.Fits t key ↔ key = "_and" ∨ key = "_or" :=
  ⟨fun | .combination h => h, .combination⟩

@[simp] theorem fits_negation : negation.Fits t key ↔ key = "_not" :=
  ⟨fun | .negation h => h, .negation⟩

@[simp] theorem fits_column : (column f).Fits t key ↔ t.field? key = some f := by
  rw [Table.field?_eq_some_iff]
  exact ⟨fun | .column h => h, .column⟩

@[simp] theorem fits_relation : (relation r).Fits t key ↔ t.relation? key = some r := by
  rw [Table.relation?_eq_some_iff]
  exact ⟨fun | .relation h => h, .relation⟩

@[simp] theorem fits_aggregate : (aggregate r).Fits t key ↔
    (aggregateBase? key).bind t.relation? = some r ∧ r.cardinality = .many := by
  constructor
  · rintro (_ | _ | _ | _ | @⟨name, _, rfl, hr, hmany⟩)
    rw [aggregateBase?_append, Option.bind_some, Table.relation?_eq_some_iff]
    exact ⟨hr, hmany⟩
  · rintro ⟨hbind, hmany⟩
    obtain ⟨name, hname, hr⟩ := Option.bind_eq_some_iff.mp hbind
    exact .aggregate (eq_of_aggregateBase? hname) (Table.relation?_eq_some_iff.mp hr) hmany

end

theorem Counts.unique {t : Table} {key : String} {role other : FilterRole}
    (h : role.Counts t key) (h' : other.Counts t key) : role = other := by
  have hrank : role.rank = other.rank :=
    Nat.le_antisymm (h.first _ h'.fits) (h'.first _ h.fits)
  have hfits := h.fits
  have hfits' := h'.fits
  cases role <;> cases other <;> simp_all [rank]

end FilterRole

/-! ### Types of keys -/

/-- The roles are tried in the order of precedence. -/
theorem filterType?_spec (t : Table) (key : String) :
    (∃ role : FilterRole, role.Counts t key ∧ filterType? t key = some (role.type t)) ∨
      ((∀ role : FilterRole, ¬ role.Fits t key) ∧ filterType? t key = none) := by
  unfold filterType?
  by_cases hcombination : key = "_and" ∨ key = "_or"
  · rw [if_pos hcombination]
    exact .inl ⟨.combination, ⟨.combination hcombination, fun _ _ => Nat.zero_le _⟩, rfl⟩
  rw [if_neg hcombination]
  by_cases hnegation : key = "_not"
  · rw [if_pos hnegation]
    refine .inl ⟨.negation, ⟨.negation hnegation, fun other h => ?_⟩, rfl⟩
    cases other <;> simp_all [FilterRole.rank]
  rw [if_neg hnegation]
  cases hfield : t.field? key with
  | some f =>
      refine .inl ⟨.column f, ⟨FilterRole.fits_column.mpr hfield, fun other h => ?_⟩, rfl⟩
      cases other <;> simp_all [FilterRole.rank]
  | none =>
      cases hrelation : t.relation? key with
      | some r =>
          refine .inl ⟨.relation r, ⟨FilterRole.fits_relation.mpr hrelation, fun other h => ?_⟩, rfl⟩
          cases other <;> simp_all [FilterRole.rank]
      | none =>
          cases haggregate : (aggregateBase? key).bind t.relation? with
          | none =>
              refine .inr ⟨fun role h => ?_, rfl⟩
              cases role with
              | aggregate r => cases haggregate.symm.trans (FilterRole.fits_aggregate.mp h).1
              | _ => simp_all
          | some r =>
              by_cases hmany : r.cardinality = .many
              · have hfits := FilterRole.fits_aggregate.mpr ⟨haggregate, hmany⟩
                refine .inl ⟨.aggregate r, ⟨hfits, fun other h => ?_⟩, if_pos hmany⟩
                cases other <;> simp_all [FilterRole.rank]
              · refine .inr ⟨fun role h => ?_, if_neg hmany⟩
                cases role <;> simp_all

/-- The type of a key is that of the role that counts. -/
theorem filterType?_eq_some_iff {t : Table} {key type : String} :
    filterType? t key = some type ↔ ∃ role : FilterRole, role.Counts t key ∧ role.type t = type := by
  obtain ⟨role, hrole, htype⟩ | ⟨hnone, htype⟩ := filterType?_spec t key
  · rw [htype, Option.some.injEq]
    constructor
    · exact fun h => ⟨role, hrole, h⟩
    · rintro ⟨other, hother, rfl⟩
      rw [hrole.unique hother]
  · rw [htype]
    exact ⟨nofun, fun ⟨role, hrole, _⟩ => absurd hrole.fits (hnone role)⟩

theorem filterType?_eq_none_iff {t : Table} {key : String} :
    filterType? t key = none ↔ ∀ role : FilterRole, ¬ role.Fits t key := by
  obtain ⟨role, hrole, htype⟩ | ⟨hnone, htype⟩ := filterType?_spec t key
  · rw [htype]
    exact ⟨nofun, fun hnone => absurd hrole.fits (hnone role)⟩
  · exact iff_of_true htype hnone

/-! ### Entries -/

/-- The entry of a key: a variable with the name of the key, its value as it is, and the type of the
role that counts. -/
def IsFilterEntry (t : Table) (member : String × Json) (entry : String × ArgumentValue) : Prop :=
  ∃ role : FilterRole, role.Counts t member.1 ∧
    entry = (member.1, .variable ⟨member.1, role.type t, member.2⟩)

section
variable {t : Table} {key : String} {value : Json}

theorem filterEntry_eq_ok_iff {entry : String × ArgumentValue} :
    filterEntry t key value = .ok entry ↔ IsFilterEntry t (key, value) entry := by
  unfold filterEntry IsFilterEntry
  cases htype : filterType? t key with
  | none =>
      have hnone := filterType?_eq_none_iff.mp htype
      exact ⟨nofun, fun ⟨role, hrole, _⟩ => absurd hrole.fits (hnone role)⟩
  | some type =>
      obtain ⟨role, hrole, rfl⟩ := filterType?_eq_some_iff.mp htype
      constructor
      · rintro ⟨⟩
        exact ⟨role, hrole, rfl⟩
      · rintro ⟨other, hother, rfl⟩
        rw [hrole.unique hother]

theorem filterEntry_eq_error_iff {e : BuildError} :
    filterEntry t key value = .error e ↔
      (∀ role : FilterRole, ¬ role.Fits t key) ∧ e = .unknownFilterField t.qualified key := by
  rw [← filterType?_eq_none_iff]
  unfold filterEntry
  cases filterType? t key with
  | none => simp [eq_comm]
  | some type => simp

theorem exists_filterEntry_iff :
    (∃ entry, filterEntry t key value = .ok entry) ↔ ∃ role : FilterRole, role.Fits t key := by
  cases hentry : filterEntry t key value with
  | error e =>
      have hnone := (filterEntry_eq_error_iff.mp hentry).1
      exact ⟨nofun, fun ⟨role, hrole⟩ => absurd hrole (hnone role)⟩
  | ok entry =>
      obtain ⟨role, hrole, -⟩ := filterEntry_eq_ok_iff.mp hentry
      exact iff_of_true ⟨entry, rfl⟩ ⟨role, hrole.fits⟩

end

theorem filterEntries_eq (t : Table) (members : OrderedMap Json) :
    filterEntries t members = members.mapM fun m => filterEntry t m.1 m.2 := by
  induction members with
  | nil => rfl
  | cons m rest ih => rw [List.mapM_cons, ← ih, filterEntries]

section
variable {t : Table} {members : OrderedMap Json}

theorem filterEntries_eq_ok_iff {entries : List (String × ArgumentValue)} :
    filterEntries t members = .ok entries ↔ List.Forall₂ (IsFilterEntry t) members entries := by
  rw [filterEntries_eq, mapM_eq_ok_iff]
  simp only [filterEntry_eq_ok_iff]

theorem exists_filterEntries_iff :
    (∃ entries, filterEntries t members = .ok entries) ↔
      ∀ m ∈ members, ∃ role : FilterRole, role.Fits t m.1 := by
  rw [filterEntries_eq, exists_mapM_iff]
  exact forall₂_congr fun _ _ => exists_filterEntry_iff

/-- The first key that fits no role is reported. -/
theorem filterEntries_eq_error_iff {e : BuildError} :
    filterEntries t members = .error e ↔
      ∃ before key value after, members = before ++ (key, value) :: after ∧
        (∀ m ∈ before, ∃ role : FilterRole, role.Fits t m.1) ∧
        (∀ role : FilterRole, ¬ role.Fits t key) ∧ e = .unknownFilterField t.qualified key := by
  rw [filterEntries_eq, mapM_eq_error_iff]
  simp only [exists_filterEntry_iff, filterEntry_eq_error_iff]
  constructor
  · rintro ⟨before, ⟨key, value⟩, after, h⟩
    exact ⟨before, key, value, after, h⟩
  · rintro ⟨before, key, value, after, h⟩
    exact ⟨before, (key, value), after, h⟩

end

/-! ### Filters -/

/-- A filter is accepted if it is an object and each of its keys fits a role; it then becomes an
entry for each key, in the order of the keys. A value that is no object is refused, and of an object
the first key that fits no role is reported. -/
theorem compileFilter_by_roles (t : Table) (filter : Json) :
    ((∃ entries, compileFilter t filter = .ok entries) ↔
      ∃ members, filter = .object members ∧
        ∀ m ∈ members, ∃ role : FilterRole, role.Fits t m.1) ∧
    (∀ entries, compileFilter t filter = .ok entries ↔
      ∃ members, filter = .object members ∧ List.Forall₂ (IsFilterEntry t) members entries) ∧
    ∀ e, compileFilter t filter = .error e ↔
      (filter.isObject = false ∧ e = .invalidArgument t.qualified "where" "object") ∨
      ∃ before key value after, filter = .object (before ++ (key, value) :: after) ∧
        (∀ m ∈ before, ∃ role : FilterRole, role.Fits t m.1) ∧
        (∀ role : FilterRole, ¬ role.Fits t key) ∧ e = .unknownFilterField t.qualified key := by
  cases hobject : filter.isObject with
  | true =>
      obtain ⟨members, rfl⟩ := Json.isObject_iff.mp hobject
      have hcompile : compileFilter t (.object members) = filterEntries t members := rfl
      simp only [hcompile, Json.object.injEq, exists_eq_left', Bool.true_eq_false, false_and,
        false_or]
      exact ⟨exists_filterEntries_iff, fun _ => filterEntries_eq_ok_iff,
        fun _ => filterEntries_eq_error_iff⟩
  | false =>
      have hnot : ∀ members, filter ≠ .object members := by
        rintro members rfl
        cases hobject
      have hcompile : compileFilter t filter =
          .error (.invalidArgument t.qualified "where" "object") := by
        cases filter with
        | object members => cases hobject
        | _ => rfl
      simp only [hcompile, hnot, false_and, exists_false, or_false, true_and, reduceCtorEq,
        Except.error.injEq, implies_true, eq_comm]

/-- Reviewers have a column and a relation of the name `title`, and a column with the name of the
aggregates of their articles: both keys are read as columns. -/
example :
    compileFilter Sample.reviewers (.object [("title", .null), ("articles_aggregate", .null),
      ("reviewed_articles_aggregate", .null), ("favorite", .null)]) =
      .ok [("title", .variable ⟨"title", "String_comparison_exp", .null⟩),
        ("articles_aggregate", .variable ⟨"articles_aggregate", "jsonb_comparison_exp", .null⟩),
        ("reviewed_articles_aggregate",
          .variable ⟨"reviewed_articles_aggregate", "articles_aggregate_bool_exp", .null⟩),
        ("favorite", .variable ⟨"favorite", "articles_bool_exp", .null⟩)] := by
  cbv

end TableGraph
