import TableGraph.Document.Outline

/-! # Names of variables

The names that sites get when they are bound one after another.

* A family of numbered names has no repetitions (`numbered_injective`), so a new variable never
  takes a name in use (`bind_notMem`), and no name is given twice (`nodup_names_bindAll`);
* binding all sites keeps the entries that were there and appends one for each site, in order
  (`entries_bindAll`). -/

namespace TableGraph.Variables

variable (vs : Variables)

/-! ### One site -/

theorem numbered_succ_ne (name : String) (k : Nat) : name ++ "_" ++ toString k ≠ name := by
  intro h
  have hlength := congrArg String.length h
  rw [String.length_append, String.length_append] at hlength
  have hunder : "_".length = 1 := rfl
  omega

theorem numbered_injective (name : String) : Function.Injective (numbered name) := by
  intro i j h
  unfold numbered at h
  split at h <;> split at h
  · omega
  · exact absurd h.symm (numbered_succ_ne name j)
  · exact absurd h (numbered_succ_ne name i)
  · exact Fresh.append_toString_injective (name ++ "_") h

theorem bind_notMem (base type : String) (value : Json) :
    (vs.bind base type value).1 ∉ vs.names :=
  Fresh.index_free (numbered_injective (sanitize base)) _

theorem length_names : vs.names.length = vs.size := List.length_map _

/-! ### All sites -/

theorem bindAll_append (first second : List Binding) :
    vs.bindAll (first ++ second) = (vs.bindAll first).bindAll second := by
  induction first generalizing vs with
  | nil => rfl
  | cons b rest ih => exact ih _

theorem namesOf_append (first second : List Binding) :
    vs.namesOf (first ++ second) = vs.namesOf first ++ (vs.bindAll first).namesOf second := by
  induction first generalizing vs with
  | nil => rfl
  | cons b rest ih =>
      simp only [List.cons_append, namesOf, bindAll]
      rw [ih]

theorem length_namesOf (sites : List Binding) : (vs.namesOf sites).length = sites.length := by
  induction sites generalizing vs with
  | nil => rfl
  | cons b rest ih =>
      simp only [namesOf, List.length_cons]
      rw [ih]

/-- Each site has one entry with its own type and value, after those that were there. -/
theorem entries_bindAll (sites : List Binding) :
    (vs.bindAll sites).entries = vs.entries ++
      List.zipWith (fun name b => ⟨name, b.type, b.value⟩) (vs.namesOf sites) sites := by
  induction sites generalizing vs with
  | nil => simp [bindAll, namesOf]
  | cons b rest ih =>
      simp only [bindAll, namesOf, List.zipWith_cons_cons]
      rw [ih, entries_bind, List.append_assoc, List.singleton_append]

theorem typed_values_bindAll (sites : List Binding) :
    (vs.bindAll sites).entries.map (fun v => (v.type, v.value)) =
      vs.entries.map (fun v => (v.type, v.value)) ++ sites.map fun b => (b.type, b.value) := by
  induction sites generalizing vs with
  | nil => exact (List.append_nil _).symm
  | cons b rest ih =>
      simp only [bindAll]
      rw [ih, entries_bind, List.map_append, List.append_assoc]
      rfl

theorem names_bindAll (sites : List Binding) :
    (vs.bindAll sites).names = vs.names ++ vs.namesOf sites := by
  induction sites generalizing vs with
  | nil => simp [bindAll, namesOf]
  | cons b rest ih =>
      simp only [bindAll, namesOf]
      rw [ih, names_bind, List.append_assoc, List.singleton_append]

theorem size_bindAll (sites : List Binding) :
    (vs.bindAll sites).size = vs.size + sites.length := by
  rw [← length_names, names_bindAll, List.length_append, length_names, length_namesOf]

/-- Binding keeps the names apart. -/
theorem nodup_names_bindAll {vs : Variables} (h : vs.names.Nodup) (sites : List Binding) :
    (vs.bindAll sites).names.Nodup := by
  induction sites generalizing vs with
  | nil => exact h
  | cons b rest ih =>
      apply ih
      rw [names_bind, List.nodup_append]
      refine ⟨h, by simp, ?_⟩
      intro name hname other hother
      rw [List.mem_singleton.mp hother]
      exact fun he => vs.bind_notMem b.base b.type b.value (he ▸ hname)

theorem nodup_namesOf_empty (sites : List Binding) : (empty.namesOf sites).Nodup := by
  have hempty : empty.names.Nodup := List.nodup_nil
  have h := nodup_names_bindAll hempty sites
  rwa [names_bindAll] at h

end TableGraph.Variables
