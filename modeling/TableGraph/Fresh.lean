/-!
# Fresh numbered names

A numbered family of names (`x_1`, `x_2`, … or `op0`, `op1`, …) and a list of names already in
use.

* `Fresh.index taken name start` is the number of the first free name from `start` on;
* the search looks at no more than one candidate per used name (`index_free` shows that this
  suffices for a family without repetitions);
* a search without a bound ends at the same number (`ends_index`).
-/

namespace TableGraph.Fresh

/-- Passes over used names, at most `fuel` of them. -/
def seek (taken : List String) (name : Nat → String) : Nat → Nat → Nat
  | 0, k => k
  | fuel + 1, k => if name k ∈ taken then seek taken name fuel (k + 1) else k

/-- The least number from `start` on whose name is free. -/
def index (taken : List String) (name : Nat → String) (start : Nat) : Nat :=
  seek taken name taken.length start

variable {taken : List String} {name : Nat → String}

theorem le_seek (fuel k : Nat) : k ≤ seek taken name fuel k := by
  induction fuel generalizing k with
  | zero => exact Nat.le_refl k
  | succ fuel ih =>
    unfold seek
    split
    · exact Nat.le_of_succ_le (ih (k + 1))
    · exact Nat.le_refl k

theorem mem_of_lt_seek {fuel k i : Nat} (hk : k ≤ i) (h : i < seek taken name fuel k) :
    name i ∈ taken := by
  induction fuel generalizing k with
  | zero => exact absurd h (Nat.not_lt.mpr hk)
  | succ fuel ih =>
    unfold seek at h
    split at h
    · rename_i hmem
      rcases Nat.eq_or_lt_of_le hk with rfl | hlt
      · exact hmem
      · exact ih hlt h
    · exact absurd h (Nat.not_lt.mpr hk)

/-- The search stops early only at a free name. -/
theorem seek_free {fuel k : Nat} (h : seek taken name fuel k < k + fuel) :
    name (seek taken name fuel k) ∉ taken := by
  induction fuel generalizing k with
  | zero => exact absurd h (Nat.not_lt.mpr (le_seek 0 k))
  | succ fuel ih =>
    unfold seek at h ⊢
    split
    · rename_i hmem
      rw [if_pos hmem] at h
      exact ih (by omega)
    · rename_i hmem
      exact hmem

theorem le_index (start : Nat) : start ≤ index taken name start := le_seek _ _

/-- No free number is passed over. -/
theorem mem_of_lt_index {start i : Nat} (hs : start ≤ i) (h : i < index taken name start) :
    name i ∈ taken := mem_of_lt_seek hs h

/-- In a family without repetitions the number that is found has a free name: were it in use, the
names up to it would be one more than the list holds. -/
theorem index_free (h : Function.Injective name) (start : Nat) :
    name (index taken name start) ∉ taken := by
  intro hmem
  by_cases hlt : index taken name start < start + taken.length
  · exact seek_free hlt hmem
  · let family := (List.range (taken.length + 1)).map fun i => name (start + i)
    have hnodup : family.Nodup := by
      refine List.Pairwise.map _ (fun i j hij => ?_) List.nodup_range
      exact fun he => hij (by have := h he; omega)
    have hsub : family ⊆ taken := by
      intro x hx
      obtain ⟨i, hi, rfl⟩ := List.mem_map.mp hx
      rw [List.mem_range] at hi
      rcases Nat.lt_or_ge (start + i) (index taken name start) with hi' | hi'
      · exact mem_of_lt_index (Nat.le_add_right start i) hi'
      · have : start + i = index taken name start := by omega
        exact this ▸ hmem
    have hfamily : family.length = taken.length + 1 := by
      rw [List.length_map, List.length_range]
    have hlength := hnodup.length_le_of_subset hsub
    omega

theorem index_eq_start {start : Nat} (h : name start ∉ taken) : index taken name start = start := by
  refine Nat.le_antisymm (Nat.le_of_not_lt fun hlt => ?_) (le_index start)
  exact h (mem_of_lt_index (Nat.le_refl start) hlt)

/-! ### Searching without a bound -/

/-- A search from `i` on that passes over used names comes to an end at `j`. -/
inductive Ends (taken : List String) (name : Nat → String) : Nat → Nat → Prop where
  | here {i : Nat} (hfree : name i ∉ taken) : Ends taken name i i
  | next {i j : Nat} (hused : name i ∈ taken) (hrest : Ends taken name (i + 1) j) :
    Ends taken name i j

theorem ends_of_free {start : Nat} : ∀ k : Nat,
    (∀ i, start ≤ i → i < start + k → name i ∈ taken) → name (start + k) ∉ taken →
      Ends taken name start (start + k)
  | 0, _, hfree => .here hfree
  | k + 1, hused, hfree => by
    have hshift : start + (k + 1) = start + 1 + k := by omega
    rw [hshift] at hused hfree ⊢
    refine .next (hused start (Nat.le_refl _) (by omega)) (ends_of_free k ?_ hfree)
    exact fun i hi hlt => hused i (by omega) hlt

/-- The search ends, and the bounded search finds where. -/
theorem ends_index (h : Function.Injective name) (start : Nat) :
    Ends taken name start (index taken name start) := by
  have hle : start ≤ index taken name start := le_index start
  have hfree : name (index taken name start) ∉ taken := index_free h start
  obtain ⟨k, hk⟩ := Nat.exists_eq_add_of_le hle
  rw [hk] at hfree ⊢
  exact ends_of_free k (fun i hi hlt => mem_of_lt_index hi (hk ▸ hlt)) hfree

/-! ### Numbers at the end of a name -/

/-- Different numbers have different texts: a text is read back digit by digit. -/
theorem toString_injective : Function.Injective (toString : Nat → String) := by
  intro i j h
  have hlist := congrArg String.toList h
  have hvalue := congrArg (fun cs => Nat.ofDigitChars 10 cs 0) hlist
  simpa [Nat.toString_eq_ofList_toDigits] using hvalue

theorem append_toString_injective (lead : String) :
    Function.Injective fun i : Nat => lead ++ toString i := by
  intro i j h
  have hlist := congrArg String.toList h
  simp only [String.toList_append, List.append_cancel_left_eq] at hlist
  exact toString_injective (String.toList_injective hlist)

end TableGraph.Fresh
