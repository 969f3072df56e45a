import TableGraph.Proofs.GraphQL.Sites

/-! # Changes at the sites of syntax

What `map` does to the sites and how it goes together with `fill`.

* Sites are changed one by one (`QueryField.sites_map`), and what they were changed to is lost when
  they are filled (`QueryField.fill_map`);
* filling with other names is filling and changing each name (`QueryField.map_fill`), where only
  the numbers of the field's own sites matter (`Matches`). -/

namespace TableGraph.GraphQL

variable {ν μ κ : Type}

/-! ### Sites -/

section
variable (r : ν → μ)

mutual

theorem Value.sites_map : ∀ v : Value ν, (v.map r).sites = v.sites.map r
  | .variable _ => rfl
  | .object fields => by
      simp only [Value.map, Value.sites]
      exact valueSites_mapValues fields

theorem valueSites_mapValues : ∀ values : List (String × Value ν),
    valueSites (mapValues r values) = (valueSites values).map r
  | [] => rfl
  | (name, v) :: rest => by
      simp only [mapValues, valueSites]
      rw [v.sites_map, valueSites_mapValues rest, List.map_append]

end

mutual

theorem QueryField.sites_map : ∀ f : QueryField ν, (f.map r).sites = f.sites.map r
  | .leaf key name arguments => by
      simp only [QueryField.map, QueryField.sites]
      exact valueSites_mapValues r arguments
  | .branch key name arguments selection => by
      simp only [QueryField.map, QueryField.sites]
      rw [valueSites_mapValues, fieldSites_mapFields selection, List.map_append]

theorem fieldSites_mapFields : ∀ fields : List (QueryField ν),
    fieldSites (mapFields r fields) = (fieldSites fields).map r
  | [] => rfl
  | f :: rest => by
      simp only [mapFields, fieldSites]
      rw [f.sites_map, fieldSites_mapFields rest, List.map_append]

end

theorem mapFields_eq_map (fields : List (QueryField ν)) :
    mapFields r fields = fields.map (QueryField.map r) := by
  induction fields with
  | nil => rfl
  | cons f rest ih => rw [mapFields, ih, List.map_cons]

end

/-! ### Filling what was changed -/

section
variable (r : ν → μ) (g : Nat → κ)

mutual

theorem Value.fill_map : ∀ (k : Nat) (v : Value ν), (v.map r).fill g k = v.fill g k
  | _, .variable _ => rfl
  | k, .object fields => by
      simp only [Value.map, Value.fill]
      rw [fillValues_mapValues k fields]

theorem fillValues_mapValues : ∀ (k : Nat) (values : List (String × Value ν)),
    fillValues g k (mapValues r values) = fillValues g k values
  | _, [] => rfl
  | k, (name, v) :: rest => by
      simp only [mapValues, fillValues]
      rw [v.fill_map k, v.sites_map r, List.length_map, fillValues_mapValues _ rest]

end

mutual

theorem QueryField.fill_map : ∀ (k : Nat) (f : QueryField ν), (f.map r).fill g k = f.fill g k
  | k, .leaf key name arguments => by
      simp only [QueryField.map, QueryField.fill]
      rw [fillValues_mapValues]
  | k, .branch key name arguments selection => by
      simp only [QueryField.map, QueryField.fill]
      rw [fillValues_mapValues, valueSites_mapValues, List.length_map,
        fillFields_mapFields _ selection]

theorem fillFields_mapFields : ∀ (k : Nat) (fields : List (QueryField ν)),
    fillFields g k (mapFields r fields) = fillFields g k fields
  | _, [] => rfl
  | k, f :: rest => by
      simp only [mapFields, fillFields]
      rw [f.fill_map k, f.sites_map r, List.length_map, fillFields_mapFields _ rest]

end

theorem QueryField.fill_keyed (k : Nat) (key : String) (f : QueryField ν) :
    (f.keyed key).fill g k = (f.fill g k).keyed key := by
  cases f <;> rfl

end

/-! ### Changing what was filled in -/

/-- From number `k` on, `r` makes of `g` what `g'` is from number `k'` on, for `n` numbers. -/
def Matches (r : μ → κ) (g : Nat → μ) (k : Nat) (g' : Nat → κ) (k' n : Nat) : Prop :=
  ∀ i < n, r (g (k + i)) = g' (k' + i)

section
variable {r : μ → κ} {g : Nat → μ} {g' : Nat → κ} {k k' m n : Nat}

theorem Matches.left (h : Matches r g k g' k' (m + n)) : Matches r g k g' k' m :=
  fun i hi => h i (Nat.lt_of_lt_of_le hi (Nat.le_add_right m n))

theorem Matches.right (h : Matches r g k g' k' (m + n)) :
    Matches r g (k + m) g' (k' + m) n := by
  intro i hi
  rw [Nat.add_assoc, Nat.add_assoc]
  exact h (m + i) (Nat.add_lt_add_left hi m)

mutual

theorem Value.map_fill : ∀ (v : Value ν) {k k' : Nat}, Matches r g k g' k' v.sites.length →
    (v.fill g k).map r = v.fill g' k'
  | .variable _, k, k', h => congrArg Value.variable (h 0 Nat.zero_lt_one)
  | .object fields, k, k', h => by
      simp only [Value.fill, Value.map]
      rw [mapValues_fillValues fields h]

theorem mapValues_fillValues : ∀ (values : List (String × Value ν)) {k k' : Nat},
    Matches r g k g' k' (valueSites values).length →
      mapValues r (fillValues g k values) = fillValues g' k' values
  | [], _, _, _ => rfl
  | (name, v) :: rest, k, k', h => by
      rw [valueSites, List.length_append] at h
      simp only [fillValues, mapValues]
      rw [v.map_fill h.left, mapValues_fillValues rest h.right]

end

mutual

theorem QueryField.map_fill : ∀ (f : QueryField ν) {k k' : Nat},
    Matches r g k g' k' f.sites.length → (f.fill g k).map r = f.fill g' k'
  | .leaf key name arguments, k, k', h => by
      simp only [QueryField.fill, QueryField.map]
      rw [mapValues_fillValues arguments h]
  | .branch key name arguments selection, k, k', h => by
      rw [QueryField.sites, List.length_append] at h
      simp only [QueryField.fill, QueryField.map]
      rw [mapValues_fillValues arguments h.left, mapFields_fillFields selection h.right]

theorem mapFields_fillFields : ∀ (fields : List (QueryField ν)) {k k' : Nat},
    Matches r g k g' k' (fieldSites fields).length →
      mapFields r (fillFields g k fields) = fillFields g' k' fields
  | [], _, _, _ => rfl
  | f :: rest, k, k', h => by
      rw [fieldSites, List.length_append] at h
      simp only [fillFields, mapFields]
      rw [f.map_fill h.left, mapFields_fillFields rest h.right]

end

end

end TableGraph.GraphQL
