import Mathlib.Order.Bounds.Basic
import TableGraph.Proofs.GraphQL.Names

/-! # Numbers of variables

Which number a variable gets.  The search for it starts at a counter of its name, and not at zero.

* `UsedBelow vs`: every number below a counter is in use.  It holds without variables, binding a
  value keeps it (`UsedBelow.bind`), and so does binding any sites (`UsedBelow.bindAll`);
* so the search passes over no free number, not even one below the counter
  (`isLeast_nextNumber`): the bare name is taken if it is free, and else the least free suffix
  (`bind_of_used`). -/

namespace TableGraph.Variables

open GraphQL

variable {vs : Variables}

/-- The number at which the search for a variable of a name starts. -/
def counter (vs : Variables) (name : String) : Nat := (vs.next.lookup name).getD 0

/-- Every number below the counter of its name is in use. -/
def UsedBelow (vs : Variables) : Prop :=
  ∀ name i, i < vs.counter name → numbered name i ∈ vs.names

/-! ### The number of one variable -/

/-- The search from the counter of a name ends. -/
theorem ends_nextNumber (vs : Variables) (name : String) :
    Fresh.Ends vs.names (numbered name) (vs.counter name) (vs.nextNumber name) :=
  Fresh.ends_index (numbered_injective name) _

/-- The number that is found is the least free one: those below the counter are in use, and those
from the counter on are searched. -/
theorem isLeast_nextNumber (h : vs.UsedBelow) (name : String) :
    IsLeast {k | numbered name k ∉ vs.names} (vs.nextNumber name) := by
  refine ⟨Fresh.index_free (numbered_injective name) _, ?_⟩
  intro k hfree
  by_contra hk
  have hk : k < vs.nextNumber name := Nat.lt_of_not_le hk
  by_cases hbelow : k < vs.counter name
  · exact hfree (h name k hbelow)
  · have hfrom : vs.counter name ≤ k := Nat.le_of_not_lt hbelow
    exact hfree (Fresh.mem_of_lt_index hfrom hk)

theorem fst_bind (vs : Variables) (base type : String) (value : Json) :
    (vs.bind base type value).1 = numbered (sanitize base) (vs.nextNumber (sanitize base)) := rfl

theorem bind_of_free (h : vs.UsedBelow) {base : String} (hfree : sanitize base ∉ vs.names)
    (type : String) (value : Json) : (vs.bind base type value).1 = sanitize base := by
  have hzero : vs.nextNumber (sanitize base) ≤ 0 := (isLeast_nextNumber h _).2 hfree
  rw [fst_bind, Nat.le_zero.mp hzero]
  rfl

/-- A name in use is taken with the least free number after it. -/
theorem bind_of_used (h : vs.UsedBelow) {base : String} (hused : sanitize base ∈ vs.names)
    (type : String) (value : Json) :
    ∃ k, (vs.bind base type value).1 = sanitize base ++ "_" ++ toString k ∧
      IsLeast {k | 1 ≤ k ∧ sanitize base ++ "_" ++ toString k ∉ vs.names} k := by
  have hnumbered : ∀ k, 1 ≤ k → numbered (sanitize base) k = sanitize base ++ "_" ++ toString k :=
    fun k hk => if_neg (Nat.ne_of_gt hk)
  obtain ⟨hfree, hleast⟩ := isLeast_nextNumber h (sanitize base)
  have hpos : 1 ≤ vs.nextNumber (sanitize base) := by
    refine Nat.one_le_iff_ne_zero.mpr fun hzero => ?_
    rw [hzero] at hfree
    exact hfree hused
  refine ⟨_, (fst_bind vs base type value).trans (hnumbered _ hpos), ⟨hpos, ?_⟩, ?_⟩
  · rw [← hnumbered _ hpos]
    exact hfree
  · rintro k ⟨hk, hkfree⟩
    rw [← hnumbered k hk] at hkfree
    exact hleast hkfree

/-! ### Counters -/

theorem UsedBelow.empty : UsedBelow empty := fun _ _ hi => absurd hi (Nat.not_lt_zero _)

/-- The counter of the new variable goes past its number, and no other counter moves. -/
theorem counter_bind (vs : Variables) (base type : String) (value : Json) (name : String) :
    (vs.bind base type value).2.counter name =
      if name = sanitize base then vs.nextNumber name + 1 else vs.counter name := by
  have hnext : (vs.bind base type value).2.next =
      OrderedMap.insert (sanitize base) (vs.nextNumber (sanitize base) + 1) vs.next := rfl
  unfold counter
  rw [hnext, OrderedMap.lookup_insert]
  split
  · rename_i hname
    rw [hname]
    rfl
  · rfl

theorem UsedBelow.bind (h : vs.UsedBelow) (base type : String) (value : Json) :
    (vs.bind base type value).2.UsedBelow := by
  intro name i hi
  rw [counter_bind] at hi
  rw [names_bind, List.mem_append]
  by_cases hname : name = sanitize base
  · rw [if_pos hname] at hi
    rcases Nat.lt_or_eq_of_le (Nat.le_of_lt_succ hi) with hlt | heq
    · refine .inl ?_
      by_contra hfree
      exact Nat.not_le_of_lt hlt ((isLeast_nextNumber h name).2 hfree)
    · refine .inr (List.mem_singleton.mpr ?_)
      rw [fst_bind, heq, hname]
  · rw [if_neg hname] at hi
    exact .inl (h name i hi)

theorem UsedBelow.bindAll (h : vs.UsedBelow) (sites : List Binding) :
    (vs.bindAll sites).UsedBelow := by
  induction sites generalizing vs with
  | nil => exact h
  | cons b rest ih => exact ih (h.bind b.base b.type b.value)

/-! ### All variables -/

/-- After any sites are bound, whatever their bases, there is one variable for each of them, in
order and under different names of the query language.  The next one is found by a search that
ends: it takes the bare name if this is free, and else the name with the least free number from 1
on, and follows the variables that were there. -/
theorem binding_takes_least_free_names (sites : List Binding) :
    let vs := empty.bindAll sites
    let given := empty.namesOf sites
    vs.names = given ∧ given.Nodup ∧ vs.size = sites.length ∧
    vs.entries = List.zipWith (fun name b => ⟨name, b.type, b.value⟩) given sites ∧
    ∀ (base type : String) (value : Json),
      let name := sanitize base
      let bound := (vs.bind base type value).1
      Fresh.Ends vs.names (numbered name) (vs.counter name) (vs.nextNumber name) ∧
      (name ∉ vs.names → bound = name) ∧
      (name ∈ vs.names → ∃ k, bound = name ++ "_" ++ toString k ∧
        IsLeast {k | 1 ≤ k ∧ name ++ "_" ++ toString k ∉ vs.names} k) ∧
      isName bound = true ∧
      (vs.bind base type value).2.entries = vs.entries ++ [⟨bound, type, value⟩] := by
  intro vs given
  have hused : vs.UsedBelow := UsedBelow.empty.bindAll sites
  refine ⟨names_bindAll _ _, nodup_namesOf_empty sites, ?_, entries_bindAll _ _, ?_⟩
  · exact (size_bindAll _ _).trans (Nat.zero_add _)
  · intro base type value name bound
    refine ⟨ends_nextNumber vs name, fun hfree => bind_of_free hused hfree type value,
      fun hname => bind_of_used hused hname type value, ?_, entries_bind vs base type value⟩
    exact isName_numbered (isName_sanitize base) _

/-- Bases that clash when they are made names, and one that is the numbered form of another. -/
example : empty.namesOf (["_set", "set", "title_1", "title", "title", "", "2é"].map
      fun base => ⟨base, "Int", .null⟩) =
    ["set", "set_1", "title_1", "title", "title_2", "var", "_2_"] := by
  cbv

end TableGraph.Variables
