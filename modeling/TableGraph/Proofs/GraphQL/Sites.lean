import TableGraph.GraphQL.Syntax

/-! # Sites of filled syntax

Filling puts `g k`, `g (k + 1)`, … at the sites, from left to right: this is what then stands
there (`fieldSites_fillFields`). -/

namespace TableGraph.GraphQL

variable {ν μ : Type} (g : Nat → μ)

mutual

theorem Value.sites_fill : ∀ (k : Nat) (v : Value ν),
    (v.fill g k).sites = (List.range' k v.sites.length).map g
  | _, .variable _ => by simp [Value.fill, Value.sites]
  | k, .object fields => by
      simp only [Value.fill, Value.sites]
      exact valueSites_fillValues k fields

theorem valueSites_fillValues : ∀ (k : Nat) (values : List (String × Value ν)),
    valueSites (fillValues g k values) = (List.range' k (valueSites values).length).map g
  | _, [] => by simp [fillValues, valueSites]
  | k, (name, v) :: rest => by
      simp only [fillValues, valueSites]
      rw [v.sites_fill k, valueSites_fillValues (k + v.sites.length) rest, ← List.map_append,
        List.range'_append_1, List.length_append]

end

mutual

theorem QueryField.sites_fill : ∀ (k : Nat) (f : QueryField ν),
    (f.fill g k).sites = (List.range' k f.sites.length).map g
  | k, .leaf key name arguments => by
      simp only [QueryField.fill, QueryField.sites]
      exact valueSites_fillValues g k arguments
  | k, .branch key name arguments selection => by
      simp only [QueryField.fill, QueryField.sites]
      rw [valueSites_fillValues g k arguments, fieldSites_fillFields _ selection,
        ← List.map_append, List.range'_append_1, List.length_append]

theorem fieldSites_fillFields : ∀ (k : Nat) (fields : List (QueryField ν)),
    fieldSites (fillFields g k fields) = (List.range' k (fieldSites fields).length).map g
  | _, [] => by simp [fillFields, fieldSites]
  | k, f :: rest => by
      simp only [fillFields, fieldSites]
      rw [f.sites_fill k, fieldSites_fillFields (k + f.sites.length) rest, ← List.map_append,
        List.range'_append_1, List.length_append]

end

/-! ### Fields in a row -/

omit g in
theorem fieldSites_append (first second : List (QueryField ν)) :
    fieldSites (first ++ second) = fieldSites first ++ fieldSites second := by
  induction first with
  | nil => rfl
  | cons f rest ih => simp only [List.cons_append, fieldSites, ih, List.append_assoc]

theorem fillFields_append (k : Nat) (first second : List (QueryField ν)) :
    fillFields g k (first ++ second) =
      fillFields g k first ++ fillFields g (k + (fieldSites first).length) second := by
  induction first generalizing k with
  | nil => rfl
  | cons f rest ih =>
      simp only [List.cons_append, fillFields, fieldSites, ih, List.length_append, Nat.add_assoc]

/-- A field in a row is filled from the number of the sites before it on. -/
theorem getElem?_fillFields (k i : Nat) (fields : List (QueryField ν)) :
    (fillFields g k fields)[i]? =
      fields[i]?.map fun f => f.fill g (k + (fieldSites (fields.take i)).length) := by
  induction fields generalizing k i with
  | nil => simp [fillFields]
  | cons f rest ih =>
      cases i with
      | zero => simp [fillFields, fieldSites]
      | succ i =>
          simp only [fillFields, List.getElem?_cons_succ, List.take_succ_cons, fieldSites,
            List.length_append, ih, Nat.add_assoc]

/-! ### Lists by number -/

theorem map_getD_range' (l : List μ) (default : μ) :
    (List.range' 0 l.length).map (fun i => l.getD i default) = l := by
  apply List.ext_getElem
  · simp
  · intro i h₁ h₂
    simp [List.getD_eq_getElem?_getD, List.getElem?_eq_getElem h₂]

end TableGraph.GraphQL
