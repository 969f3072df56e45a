import Mathlib.Data.List.Perm.Subperm
import TableGraph.Proofs.Operation.RequiredValues
import TableGraph.Proofs.Operation.Resolution
import TableGraph.Proofs.Table.Lookups
import TableGraph.Sample.Tables

/-! # Values of primary keys

Which values a primary key takes, and what becomes of them.

* A key takes an object with exactly its columns, or the bare value of its only column
  (`Table.TakesKey`).  To compare numbers of columns and to look for each column of the key is
  enough if no column is in the key twice (`takesKey_object_iff`);
* each column of the key is bound to the value that is given for it, in the order of the key
  (`IsKeyBinding`);
* everything else is refused by the first rule that applies (`RefusesKey`): a table without a key, a
  value that the key does not take, a column of the key that the table does not have. -/

namespace TableGraph

/-! ### Rules -/

/-- The value is one for the key of the table. -/
inductive Table.TakesKey (t : Table) : Json → Prop where
  /-- The keys of the object are the columns of the key, in any order. -/
  | object {members : OrderedMap Json} (hnodup : members.keys.Nodup)
      (hkeys : ∀ column, column ∈ members.keys ↔ column ∈ t.primaryKey) :
    t.TakesKey (.object members)
  /-- The key has one column, and the value is that of the column. -/
  | bare {value : Json} (hsingle : t.primaryKey.length = 1) (hobject : value.isObject = false)
      (hnull : value ≠ .null) : t.TakesKey value

/-- The value that is given for a column in that of a key. -/
inductive GivesValue : Json → String → Json → Prop where
  | member {members : OrderedMap Json} {column : String} {value : Json}
      (h : (column, value) ∈ members) : GivesValue (.object members) column value
  | bare {column : String} {value : Json} (hobject : value.isObject = false) :
    GivesValue value column value

/-- The binding of a column of a key: the value that is given for it, which is required, with the
scalar of the first column of the name. -/
def IsKeyBinding (t : Table) (key : Json) (column : String) (b : String × Binding) : Prop :=
  ∃ f value, IsFirst ScalarField.name t.fields column f ∧ GivesValue key column value ∧
    b = (column, ⟨column, f.scalar ++ "!", value⟩)

/-- Why the value of a key is refused. -/
inductive RefusesKey (t : Table) (key : Json) : BuildError → Prop where
  /-- The table has no key. -/
  | noKey (h : t.primaryKey = []) : RefusesKey t key (.noPrimaryKey t.qualified)
  /-- The key does not take the value. -/
  | mismatched (hkey : t.primaryKey ≠ []) (h : ¬ t.TakesKey key) :
    RefusesKey t key (.primaryKeyMismatch t.qualified t.primaryKey key.topKeys)
  /-- The first column of the key that the table does not have. -/
  | undeclared {before after : List String} {column : String} (htakes : t.TakesKey key)
      (hkey : t.primaryKey = before ++ column :: after)
      (hbefore : ∀ c ∈ before, c ∈ t.fieldNames) (h : column ∉ t.fieldNames) :
    RefusesKey t key (.unknownField t.qualified column)

/-! ### Values -/

section
variable {t : Table} {key : Json} {members : OrderedMap Json} {column : String}

/-- As many keys as the primary key has columns, and each of its columns among them, are the columns
of the primary key. -/
theorem takesKey_object_iff (hnodup : t.primaryKey.Nodup) :
    t.TakesKey (.object members) ↔
      members.length = t.primaryKey.length ∧
        t.primaryKey.all (members.lookup · |>.isSome) = true := by
  have hlength : members.keys.length = members.length := List.length_map Prod.fst
  simp only [List.all_eq_true, OrderedMap.lookup_isSome_iff]
  rw [← hlength]
  constructor
  · rintro (⟨hkeys, hmem⟩ | ⟨-, hobject, -⟩)
    · have hperm := (List.perm_ext_iff_of_nodup hkeys hnodup).mpr hmem
      exact ⟨hperm.length_eq, fun column hcolumn => (hmem column).mpr hcolumn⟩
    · cases hobject
  · rintro ⟨hlen, hmem⟩
    -- No column repeats, so the columns fill the keys up.
    have hperm : t.primaryKey.Perm members.keys :=
      (hnodup.subperm hmem).perm_of_length_le (Nat.le_of_eq hlen)
    exact .object (hperm.nodup_iff.mp hnodup) fun column => hperm.symm.mem_iff

/-- The value for a column of a key. -/
def Json.keyValue (key : Json) (column : String) : Json :=
  match key with
  | .object members => (members.lookup column).getD .null
  | value => value

/-- A value that a key takes gives one for each of its columns. -/
theorem givesValue_iff (htakes : t.TakesKey key) (hcolumn : column ∈ t.primaryKey) {value : Json} :
    GivesValue key column value ↔ value = key.keyValue column := by
  cases htakes with
  | @object members hnodup hkeys =>
      have hsome := OrderedMap.lookup_isSome_iff.mpr ((hkeys column).mpr hcolumn)
      obtain ⟨given, hgiven⟩ := Option.isSome_iff_exists.mp hsome
      have hvalue : (Json.object members).keyValue column = given := by
        rw [Json.keyValue, hgiven, Option.getD_some]
      rw [hvalue]
      constructor
      · rintro (h | hobject)
        · rw [← OrderedMap.lookup_eq_some_iff hnodup, hgiven] at h
          exact (Option.some.inj h).symm
        · cases hobject
      · rintro rfl
        exact .member ((OrderedMap.lookup_eq_some_iff hnodup).mp hgiven)
  | bare _ hobject _ =>
      have hvalue : key.keyValue column = key := by
        cases key with
        | object => cases hobject
        | _ => rfl
      rw [hvalue]
      constructor
      · rintro (_ | _)
        · cases hobject
        · rfl
      · rintro rfl
        exact .bare hobject

end

/-! ### Bindings -/

section
variable {t : Table} {key : Json}

theorem keyValues_of_takesKey (hnodup : t.primaryKey.Nodup) (htakes : t.TakesKey key) :
    keyValues t key = .ok (t.primaryKey.map fun column => (column, key.keyValue column)) := by
  unfold keyValues
  cases key with
  | object members =>
      simp only [if_pos ((takesKey_object_iff hnodup).mp htakes)]
      rfl
  | null =>
      rcases htakes with _ | ⟨-, -, hnull⟩
      exact absurd rfl hnull
  | _ =>
      rcases htakes with _ | ⟨hsingle, -, -⟩
      obtain ⟨column, hkey⟩ := List.length_eq_one_iff.mp hsingle
      simp only [hkey]
      rfl

theorem keyValues_of_not_takesKey (hnodup : t.primaryKey.Nodup) (htakes : ¬ t.TakesKey key) :
    keyValues t key = .error (.primaryKeyMismatch t.qualified t.primaryKey key.topKeys) := by
  unfold keyValues
  cases key with
  | object members =>
      rw [takesKey_object_iff hnodup] at htakes
      simp only [if_neg htakes]
      rfl
  | null => rfl
  | _ =>
      have hmany : t.primaryKey.length ≠ 1 := fun hsingle =>
        htakes (.bare hsingle rfl fun hnull => by cases hnull)
      simp only
      split
      · rename_i column hkey
        exact absurd (congrArg List.length hkey) hmany
      · rfl

theorem keyBindingsOf_eq (t : Table) (values : List (String × Json)) :
    keyBindingsOf t values = values.mapM fun v => keyBinding t v.1 v.2 := by
  induction values with
  | nil => rfl
  | cons v rest ih => rw [List.mapM_cons, ← ih, keyBindingsOf]

theorem primaryKeyBindings_of_takesKey (hnodup : t.primaryKey.Nodup) (hkey : t.primaryKey ≠ [])
    (htakes : t.TakesKey key) :
    primaryKeyBindings t key =
      t.primaryKey.mapM fun column => keyBinding t column (key.keyValue column) := by
  unfold primaryKeyBindings
  rw [if_neg (mt List.isEmpty_iff.mp hkey), keyValues_of_takesKey hnodup htakes]
  exact (keyBindingsOf_eq t _).trans List.mapM_map

theorem primaryKeyBindings_of_not_takesKey (hnodup : t.primaryKey.Nodup) (hkey : t.primaryKey ≠ [])
    (htakes : ¬ t.TakesKey key) :
    primaryKeyBindings t key =
      .error (.primaryKeyMismatch t.qualified t.primaryKey key.topKeys) := by
  unfold primaryKeyBindings
  rw [if_neg (mt List.isEmpty_iff.mp hkey), keyValues_of_not_takesKey hnodup htakes]
  rfl

theorem primaryKeyBindings_of_noKey (hkey : t.primaryKey = []) :
    primaryKeyBindings t key = .error (.noPrimaryKey t.qualified) := by
  unfold primaryKeyBindings
  rw [if_pos (List.isEmpty_iff.mpr hkey)]

end

section
variable {t : Table} {key value : Json} {column : String}

theorem keyBinding_eq_ok_iff {b : String × Binding} :
    keyBinding t column value = .ok b ↔
      ∃ f, IsFirst ScalarField.name t.fields column f ∧
        b = (column, ⟨column, f.scalar ++ "!", value⟩) := by
  simp only [← Table.field?_eq_some_iff]
  unfold keyBinding
  cases t.field? column <;> simp [eq_comm]

theorem keyBinding_eq_error_iff {e : BuildError} :
    keyBinding t column value = .error e ↔
      column ∉ t.fieldNames ∧ e = .unknownField t.qualified column := by
  rw [← Table.field?_eq_none_iff]
  unfold keyBinding
  cases t.field? column <;> simp [eq_comm]

theorem exists_keyBinding_iff :
    (∃ b, keyBinding t column value = .ok b) ↔ column ∈ t.fieldNames := by
  rw [← Table.field?_isSome_iff]
  unfold keyBinding
  cases t.field? column <;> simp

end

/-! ### Primary keys -/

section
variable {t : Table} {key : Json}

theorem exists_primaryKeyBindings_iff (hnodup : t.primaryKey.Nodup) :
    (∃ bs, primaryKeyBindings t key = .ok bs) ↔
      t.primaryKey ≠ [] ∧ (∀ column ∈ t.primaryKey, column ∈ t.fieldNames) ∧ t.TakesKey key := by
  by_cases hkey : t.primaryKey = []
  · rw [primaryKeyBindings_of_noKey hkey]
    exact ⟨nofun, fun h => absurd hkey h.1⟩
  by_cases htakes : t.TakesKey key
  · rw [primaryKeyBindings_of_takesKey hnodup hkey htakes, exists_mapM_iff]
    simp only [exists_keyBinding_iff]
    exact ⟨fun h => ⟨hkey, h, htakes⟩, fun h => h.2.1⟩
  · rw [primaryKeyBindings_of_not_takesKey hnodup hkey htakes]
    exact ⟨nofun, fun h => absurd h.2.2 htakes⟩

/-- What is bound to the columns of a key, one after another. -/
theorem primaryKeyBindings_eq_ok_iff (hnodup : t.primaryKey.Nodup) {bs : List (String × Binding)} :
    primaryKeyBindings t key = .ok bs ↔
      t.primaryKey ≠ [] ∧ t.TakesKey key ∧ List.Forall₂ (IsKeyBinding t key) t.primaryKey bs := by
  by_cases hkey : t.primaryKey = []
  · rw [primaryKeyBindings_of_noKey hkey]
    exact ⟨nofun, fun h => absurd hkey h.1⟩
  by_cases htakes : t.TakesKey key
  · have hbinding : ∀ column ∈ t.primaryKey, ∀ b,
        keyBinding t column (key.keyValue column) = .ok b ↔ IsKeyBinding t key column b := by
      intro column hcolumn b
      simp only [keyBinding_eq_ok_iff, IsKeyBinding, givesValue_iff htakes hcolumn,
        exists_and_left, exists_eq_left]
    rw [primaryKeyBindings_of_takesKey hnodup hkey htakes, mapM_eq_ok_iff,
      forall₂_congr_of_mem hbinding]
    exact ⟨fun h => ⟨hkey, htakes, h⟩, fun h => h.2.2⟩
  · rw [primaryKeyBindings_of_not_takesKey hnodup hkey htakes]
    exact ⟨nofun, fun h => absurd h.2.1 htakes⟩

theorem primaryKeyBindings_eq_error_iff (hnodup : t.primaryKey.Nodup) {e : BuildError} :
    primaryKeyBindings t key = .error e ↔ RefusesKey t key e := by
  by_cases hkey : t.primaryKey = []
  · rw [primaryKeyBindings_of_noKey hkey]
    constructor
    · rintro ⟨⟩
      exact .noKey hkey
    · rintro (_ | ⟨hne, -⟩ | ⟨-, hsplit, -, -⟩)
      · rfl
      · exact absurd hkey hne
      · simp [hkey] at hsplit
  by_cases htakes : t.TakesKey key
  · rw [primaryKeyBindings_of_takesKey hnodup hkey htakes, mapM_eq_error_iff]
    simp only [exists_keyBinding_iff, keyBinding_eq_error_iff]
    constructor
    · rintro ⟨before, column, after, hsplit, hbefore, h, rfl⟩
      exact .undeclared htakes hsplit hbefore h
    · rintro (h | ⟨-, h⟩ | @⟨before, after, column, -, hsplit, hbefore, h⟩)
      · exact absurd h hkey
      · exact absurd htakes h
      · exact ⟨before, column, after, hsplit, hbefore, h, rfl⟩
  · rw [primaryKeyBindings_of_not_takesKey hnodup hkey htakes]
    constructor
    · rintro ⟨⟩
      exact .mismatched hkey htakes
    · rintro (h | _ | ⟨h, -, -, -⟩)
      · exact absurd h hkey
      · rfl
      · exact absurd h htakes

end

/-! ### Requests by key -/

section
variable {t : Table} {key : Json} {e : BuildError}

theorem RecordOperation.arguments_eq_error {op : RecordOperation}
    (h : primaryKeyBindings t key = .error e) (hkey : op.key? = some key) :
    op.arguments t = .error e := by
  cases op with
  | insert | call => cases hkey
  | _ =>
      cases hkey
      simp only [arguments, keyArguments, keyColumnsArgument, h]
      rfl

theorem Invocation.node_eq_error {i : Invocation} (h : primaryKeyBindings t key = .error e)
    (hkey : i.key? = some key) : i.node t = .error e := by
  cases i with
  | record op columns =>
      simp only [node, RecordOperation.node, RecordOperation.arguments_eq_error h hkey]
      rfl
  | _ => cases hkey

end

/-- A primary key takes an object with exactly its columns or the bare value of its only column, and
binds each column in the order of the key, whatever that of the object, if the table has them all.
Else the first reason applies of no key, a value that the key does not take and a column that the
table does not have, and a request by the key has no node. -/
theorem primaryKeyBindings_by_rules {t : Table} (hnodup : t.primaryKey.Nodup) (key : Json) :
    ((∃ bs, primaryKeyBindings t key = .ok bs) ↔
      t.primaryKey ≠ [] ∧ (∀ column ∈ t.primaryKey, column ∈ t.fieldNames) ∧ t.TakesKey key) ∧
    (∀ bs, primaryKeyBindings t key = .ok bs ↔
      t.primaryKey ≠ [] ∧ t.TakesKey key ∧
        List.Forall₂ (IsKeyBinding t key) t.primaryKey bs) ∧
    (∀ e, primaryKeyBindings t key = .error e ↔ RefusesKey t key e) ∧
    ∀ e, RefusesKey t key e → ∀ i : Invocation, i.key? = some key → i.node t = .error e := by
  refine ⟨exists_primaryKeyBindings_iff hnodup, fun _ => primaryKeyBindings_eq_ok_iff hnodup,
    fun _ => primaryKeyBindings_eq_error_iff hnodup, ?_⟩
  intro e he i hkey
  exact i.node_eq_error ((primaryKeyBindings_eq_error_iff hnodup).mpr he) hkey

/-- The key of memberships takes an object with the columns in another order, and neither a bare
value nor an object with one of them. -/
theorem primaryKeyBindings_by_rules_of_memberships :
    let one : Json := .number (.int 1)
    let two : Json := .number (.int 2)
    Sample.memberships.primaryKey.Nodup ∧
    primaryKeyBindings Sample.memberships (.object [("group_id", two), ("user_id", one)]) =
      .ok [("user_id", ⟨"user_id", "Int!", one⟩), ("group_id", ⟨"group_id", "Int!", two⟩)] ∧
    (RecordOperation.selectByKey one).node Sample.memberships (.listed []) =
      .error (.primaryKeyMismatch "crm_memberships" ["user_id", "group_id"] []) ∧
    (RecordOperation.deleteByKey (.object [("user_id", one)])).node Sample.memberships (.listed []) =
      .error (.primaryKeyMismatch "crm_memberships" ["user_id", "group_id"] ["user_id"]) := by
  have hone : ¬ Sample.memberships.TakesKey (.number (.int 1)) := by
    rintro (_ | ⟨hsingle, -, -⟩)
    exact absurd hsingle (by decide)
  have hnodup : Sample.memberships.primaryKey.Nodup := by decide
  intro one two
  obtain ⟨-, hok, -, -⟩ :=
    primaryKeyBindings_by_rules hnodup (.object [("group_id", two), ("user_id", one)])
  obtain ⟨-, -, -, hbare⟩ := primaryKeyBindings_by_rules hnodup one
  obtain ⟨-, -, -, hpartial⟩ := primaryKeyBindings_by_rules hnodup (.object [("user_id", one)])
  refine ⟨hnodup, (hok _).mpr ⟨by decide, .object (by decide) fun column => ?_, ?_⟩, ?_, ?_⟩
  · simp [OrderedMap.keys, Sample.memberships, or_comm]
  · refine .cons ⟨⟨"user_id", "Int"⟩, one, ?_, .member (by simp), rfl⟩
      (.cons ⟨⟨"group_id", "Int"⟩, two, ?_, .member (by simp), rfl⟩ .nil)
    · exact Table.field?_eq_some_iff.mp (by decide)
    · exact Table.field?_eq_some_iff.mp (by decide)
  · exact hbare _ (.mismatched (by decide) hone) (.record (.selectByKey one) (.listed [])) rfl
  · refine hpartial _ (.mismatched (by decide) ?_) (.record (.deleteByKey _) (.listed [])) rfl
    rintro (⟨-, hkeys⟩ | ⟨-, hobject, -⟩)
    · exact absurd ((hkeys "group_id").mpr (by decide)) (by decide)
    · cases hobject

end TableGraph
