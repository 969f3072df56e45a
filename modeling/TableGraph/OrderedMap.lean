/-!
# Maps that keep the order of insertion

A map is the list of its entries, oldest first.

* `insert` overwrites a known key where it stands and appends a new one;
* `erase` removes one entry and keeps the order of the others, and `swapRemove` moves the last one
  into the gap;
* `lookup` of the standard library reads the first entry of a key.
-/

namespace TableGraph

/-- Entries of a map in order of insertion. -/
abbrev OrderedMap (α : Type) := List (String × α)

namespace OrderedMap
variable {α : Type}

/-- The keys in order. -/
def keys (m : OrderedMap α) : List String := m.map Prod.fst

/-- A known key keeps its place and takes the new value; a new key goes last. -/
def insert (key : String) (value : α) : OrderedMap α → OrderedMap α
  | [] => [(key, value)]
  | (k, v) :: rest => if k = key then (k, value) :: rest else (k, v) :: insert key value rest

/-- Removes the first entry of `key`. -/
def erase (key : String) : OrderedMap α → OrderedMap α
  | [] => []
  | (k, v) :: rest => if k = key then rest else (k, v) :: erase key rest

/-- Removes the first entry of `key`, and the last entry of all takes its place. -/
def swapRemove (key : String) : OrderedMap α → OrderedMap α
  | [] => []
  | (k, v) :: rest =>
    if k = key then rest.getLast?.toList ++ rest.dropLast else (k, v) :: swapRemove key rest

/-- The entries that are found: of those with one key the first, and all of a map whose keys are
distinct. -/
def distinct : OrderedMap α → OrderedMap α
  | [] => []
  | (k, v) :: rest => (k, v) :: (distinct rest).filter (·.1 != k)

/-- Inserts the entries one after another into an empty map. -/
def ofEntries (entries : List (String × α)) : OrderedMap α :=
  entries.foldl (fun m e => insert e.1 e.2 m) []

theorem lookup_insert (m : OrderedMap α) (key k : String) (value : α) :
    (insert key value m).lookup k = if k = key then some value else m.lookup k := by
  induction m with
  | nil =>
    by_cases h : k = key
    · simp [insert, h]
    · have hb : (k == key) = false := by simpa using h
      simp [insert, List.lookup_cons, h, hb]
  | cons e rest ih =>
    obtain ⟨a, v⟩ := e
    by_cases ha : a = key
    · subst ha
      by_cases h : k = a
      · simp [insert, h]
      · have hb : (k == a) = false := by simpa using h
        simp [insert, List.lookup_cons, h, hb]
    · by_cases h : k = a
      · subst h
        simp [insert, ha]
      · have hb : (k == a) = false := by simpa using h
        simp [insert, ha, List.lookup_cons, hb, ih]

theorem keys_cons (k : String) (v : α) (m : OrderedMap α) : keys ((k, v) :: m) = k :: keys m := rfl

theorem lookup_erase_ne (m : OrderedMap α) {key k : String} (h : k ≠ key) :
    (erase key m).lookup k = m.lookup k := by
  induction m with
  | nil => rfl
  | cons e rest ih =>
    obtain ⟨a, v⟩ := e
    by_cases ha : a = key
    · subst ha
      have hb : (k == a) = false := by simpa using h
      simp [erase, List.lookup_cons, hb]
    · by_cases hk : k = a
      · simp [erase, ha, hk]
      · have hb : (k == a) = false := by simpa using hk
        simp [erase, ha, List.lookup_cons, hb, ih]

theorem lookup_isSome_iff {m : OrderedMap α} {key : String} :
    (m.lookup key).isSome = true ↔ key ∈ keys m := by
  rw [List.lookup_isSome_iff, keys, List.mem_map]
  simp only [beq_iff_eq, @eq_comm _ key]

/-- Entries that are kept for their keys are found as before, and no others. -/
theorem lookup_filter (kept : String → Bool) (m : OrderedMap α) (key : String) :
    (m.filter fun e => kept e.1).lookup key = if kept key then m.lookup key else none := by
  induction m with
  | nil => simp
  | cons e rest ih =>
    obtain ⟨k, v⟩ := e
    by_cases hkey : key = k
    · subst hkey
      cases hkept : kept key with
      | true => simp [hkept]
      | false => simp [hkept, ih]
    · have hne : (key == k) = false := beq_false_of_ne hkey
      rw [List.lookup_cons, hne, ← ih, List.filter_cons]
      split
      · rw [List.lookup_cons, hne]
      · rfl

/-- In a map without repeated keys, what is found under a key is its one entry. -/
theorem lookup_eq_some_iff {m : OrderedMap α} (h : (keys m).Nodup)
    {key : String} {value : α} : m.lookup key = some value ↔ (key, value) ∈ m := by
  induction m with
  | nil => simp
  | cons e rest ih =>
      obtain ⟨k, v⟩ := e
      obtain ⟨hk, hrest⟩ := List.nodup_cons.mp h
      by_cases hkey : key = k
      · subst hkey
        have hnot : (key, value) ∉ rest := fun hmem => hk (List.mem_map.mpr ⟨_, hmem, rfl⟩)
        rw [List.lookup_cons_self, List.mem_cons, or_iff_left hnot, Option.some.injEq,
          Prod.mk.injEq]
        exact ⟨fun hv => ⟨rfl, hv.symm⟩, fun hv => hv.2.symm⟩
      · have hne : (key == k) = false := beq_false_of_ne hkey
        have hnot : (key, value) ≠ (k, v) := fun he => hkey (Prod.mk.inj he).1
        rw [List.lookup_cons, hne, List.mem_cons, or_iff_right hnot]
        exact ih hrest

/-- The order of a map without repeated keys does not matter to what is found. -/
theorem lookup_eq_of_perm {m m' : OrderedMap α} (h : m.Perm m') (hm : (keys m).Nodup)
    (key : String) : m.lookup key = m'.lookup key := by
  have hm' : (keys m').Nodup := (h.map Prod.fst).nodup_iff.mp hm
  refine Option.ext fun value => ?_
  rw [lookup_eq_some_iff hm, lookup_eq_some_iff hm', h.mem_iff]

/-! ### Removing -/

theorem keys_erase (m : OrderedMap α) (key : String) : keys (erase key m) = (keys m).erase key := by
  induction m with
  | nil => rfl
  | cons e rest ih =>
      obtain ⟨k, v⟩ := e
      by_cases hk : k = key
      · simp [erase, keys_cons, hk]
      · simp [erase, keys_cons, hk, ih]

theorem last_append_perm (m : OrderedMap α) : (m.getLast?.toList ++ m.dropLast).Perm m := by
  cases m with
  | nil => exact .refl _
  | cons e rest =>
      have hne : e :: rest ≠ [] := List.cons_ne_nil e rest
      rw [List.getLast?_eq_some_getLast hne]
      exact List.perm_append_comm.trans (.of_eq (List.dropLast_concat_getLast hne))

theorem swapRemove_perm (m : OrderedMap α) (key : String) :
    (swapRemove key m).Perm (erase key m) := by
  induction m with
  | nil => exact .refl _
  | cons e rest ih =>
      obtain ⟨k, v⟩ := e
      by_cases hk : k = key
      · rw [swapRemove, erase, if_pos hk, if_pos hk]
        exact last_append_perm rest
      · rw [swapRemove, erase, if_neg hk, if_neg hk]
        exact ih.cons _

theorem nodup_keys_swapRemove {m : OrderedMap α} (hm : (keys m).Nodup) (key : String) :
    (keys (swapRemove key m)).Nodup := by
  have hkeys : (keys (swapRemove key m)).Perm ((keys m).erase key) :=
    keys_erase m key ▸ (swapRemove_perm m key).map Prod.fst
  exact hkeys.nodup_iff.mpr (hm.erase key)

theorem lookup_swapRemove {m : OrderedMap α} (hm : (keys m).Nodup) (key k : String) :
    (swapRemove key m).lookup k = if k = key then none else m.lookup k := by
  rw [lookup_eq_of_perm (swapRemove_perm m key) (nodup_keys_swapRemove hm key)]
  split
  · rename_i hk
    subst hk
    rw [← Option.not_isSome_iff_eq_none, lookup_isSome_iff, keys_erase]
    exact hm.not_mem_erase
  · rename_i hk
    exact lookup_erase_ne m hk

/-- The last entry stands where the removed one stood. -/
example : swapRemove "a" [("a", 1), ("b", 2), ("c", 3)] = [("c", 3), ("b", 2)] := by
  decide

theorem lookup_foldl_swapRemove {m : OrderedMap α} (hm : (keys m).Nodup) (names : List String)
    (key : String) :
    (names.foldl (fun m name => swapRemove name m) m).lookup key =
      if key ∈ names then none else m.lookup key := by
  induction names generalizing m with
  | nil => simp
  | cons name rest ih =>
      rw [List.foldl_cons, ih (nodup_keys_swapRemove hm name), lookup_swapRemove hm]
      by_cases hkey : key = name <;> simp [hkey]

theorem lookup_distinct (m : OrderedMap α) (key : String) :
    (distinct m).lookup key = m.lookup key := by
  induction m with
  | nil => rfl
  | cons e rest ih =>
      obtain ⟨k, v⟩ := e
      rw [distinct, List.lookup_cons, List.lookup_cons, lookup_filter (· != k)]
      by_cases hk : key = k
      · simp [hk]
      · simp [hk, ih]

theorem nodup_keys_distinct (m : OrderedMap α) : (keys (distinct m)).Nodup := by
  induction m with
  | nil => exact .nil
  | cons e rest ih =>
      obtain ⟨k, v⟩ := e
      refine List.nodup_cons.mpr ⟨?_, ?_⟩
      · simp
      · exact ih.sublist (List.filter_sublist.map _)

end OrderedMap

end TableGraph
