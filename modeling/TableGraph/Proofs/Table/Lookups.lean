import Mathlib.Data.List.Nodup
import TableGraph.Table

/-! # Columns and relations by name

What is found under a name.  Names may repeat, and then the first item counts (`IsFirst`); if they
do not, an item is found by its name (`isFirst_iff_mem`). -/

namespace TableGraph

section
variable {α : Type} {name : α → String} {items : List α} {key : String} {x : α}

/-- The item is the first one of the name. -/
def IsFirst (name : α → String) (items : List α) (key : String) (x : α) : Prop :=
  ∃ before after, items = before ++ x :: after ∧ name x = key ∧ ∀ y ∈ before, name y ≠ key

theorem find?_eq_some_iff_isFirst :
    items.find? (fun y => name y == key) = some x ↔ IsFirst name items key x := by
  rw [List.find?_eq_some_iff_append]
  simp only [IsFirst, beq_iff_eq, Bool.not_eq_true', beq_eq_false_iff_ne]
  constructor
  · rintro ⟨hx, before, after, hitems, hbefore⟩
    exact ⟨before, after, hitems, hx, hbefore⟩
  · rintro ⟨before, after, hitems, hx, hbefore⟩
    exact ⟨hx, before, after, hitems, hbefore⟩

theorem find?_eq_none_iff_forall :
    items.find? (fun y => name y == key) = none ↔ ∀ y ∈ items, name y ≠ key := by
  simp only [List.find?_eq_none, beq_iff_eq, ne_eq]

/-- If no name repeats, the first item of a name is the only one. -/
theorem isFirst_iff_mem (h : (items.map name).Nodup) :
    IsFirst name items key x ↔ x ∈ items ∧ name x = key := by
  constructor
  · rintro ⟨before, after, rfl, hx, -⟩
    exact ⟨List.mem_append_right _ List.mem_cons_self, hx⟩
  · rintro ⟨hmem, hx⟩
    obtain ⟨before, after, rfl⟩ := List.append_of_mem hmem
    refine ⟨before, after, rfl, hx, fun y hy hkey => ?_⟩
    rw [List.map_append, List.nodup_append] at h
    have hname : name x ∈ (x :: after).map name := List.mem_map_of_mem List.mem_cons_self
    exact h.2.2 _ (List.mem_map_of_mem hy) _ hname (hkey.trans hx.symm)

end

namespace Table
variable {t : Table} {name : String}

theorem field?_eq_some_iff {f : ScalarField} :
    t.field? name = some f ↔ IsFirst ScalarField.name t.fields name f :=
  find?_eq_some_iff_isFirst

theorem field?_eq_none_iff : t.field? name = none ↔ name ∉ t.fieldNames := by
  rw [← field?_isSome_iff, Option.not_isSome_iff_eq_none]

theorem relation?_eq_some_iff {r : Relation} :
    t.relation? name = some r ↔ IsFirst Relation.name t.relations name r :=
  find?_eq_some_iff_isFirst

theorem relation?_eq_none_iff : t.relation? name = none ↔ ∀ r ∈ t.relations, r.name ≠ name :=
  find?_eq_none_iff_forall

end Table

end TableGraph
