import Mathlib.Data.List.Induction
import TableGraph.Http.Written
import TableGraph.Proofs.Text.Blank

/-! # Numbers that are spelled out

Digits in either case, behind any zeros, are read as the number that they spell
(`Spells.number?_eq`). -/

namespace TableGraph.Http

/-! ### Digits -/

theorem digitIn?_eq_some {base d : Nat} {c : Char} (h : digitIn? base c = some d) :
    48 ≤ c.toNat ∧ c.toNat ≤ 57 ∨ 97 ≤ c.toNat ∧ c.toNat ≤ 102 ∨ 65 ≤ c.toNat ∧ c.toNat ≤ 70 := by
  simp only [digitIn?] at h
  split at h
  · exact .inl ‹_›
  split at h
  · exact .inr (.inl ‹_›)
  split at h
  · exact .inr (.inr ‹_›)
  · cases h

theorem digitIn?_toLower (base : Nat) (c : Char) : digitIn? base c.toLower = digitIn? base c := by
  have hlower := Text.toLower_toNat c
  split at hlower
  · simp only [digitIn?, hlower]
    by_cases h : c.toNat ≤ 70
    · rw [if_neg (by omega : ¬ (48 ≤ c.toNat + 32 ∧ c.toNat + 32 ≤ 57)),
        if_pos (by omega : 97 ≤ c.toNat + 32 ∧ c.toNat + 32 ≤ 102),
        if_neg (by omega : ¬ (48 ≤ c.toNat ∧ c.toNat ≤ 57)),
        if_neg (by omega : ¬ (97 ≤ c.toNat ∧ c.toNat ≤ 102)),
        if_pos (by omega : 65 ≤ c.toNat ∧ c.toNat ≤ 70)]
      rfl
    · rw [if_neg (by omega : ¬ (48 ≤ c.toNat + 32 ∧ c.toNat + 32 ≤ 57)),
        if_neg (by omega : ¬ (97 ≤ c.toNat + 32 ∧ c.toNat + 32 ≤ 102)),
        if_neg (by omega : ¬ (65 ≤ c.toNat + 32 ∧ c.toNat + 32 ≤ 70)),
        if_neg (by omega : ¬ (48 ≤ c.toNat ∧ c.toNat ≤ 57)),
        if_neg (by omega : ¬ (97 ≤ c.toNat ∧ c.toNat ≤ 102)),
        if_neg (by omega : ¬ (65 ≤ c.toNat ∧ c.toNat ≤ 70))]
  · simp only [digitIn?, hlower]

theorem digitIn?_digitChar {base d : Nat} (hbase : base ≤ 16) (hd : d < base) :
    digitIn? base d.digitChar = some d := by
  have h : ∀ d < 16, digitIn? 16 d.digitChar = some d := by decide
  have hvalue := h d (by omega)
  simp only [digitIn?, Option.filter_eq_some_iff] at hvalue ⊢
  exact ⟨hvalue.1, decide_eq_true hd⟩

/-! ### Texts of digits -/

theorem ofDigits?_append (base : Nat) (s t : List Char) :
    ofDigits? base (s ++ t) =
      t.foldl (fun n c => do pure ((← n) * base + (← digitIn? base c))) (ofDigits? base s) :=
  List.foldl_append

theorem ofDigits?_concat (base : Nat) (s : List Char) (c : Char) :
    ofDigits? base (s ++ [c]) =
      (do pure ((← ofDigits? base s) * base + (← digitIn? base c)) : Option Nat) :=
  ofDigits?_append base s [c]

theorem ofDigits?_map_toLower (base : Nat) (s : List Char) :
    ofDigits? base (s.map Char.toLower) = ofDigits? base s := by
  simp only [ofDigits?, List.foldl_map, digitIn?_toLower]

theorem ofDigits?_zeros {base : Nat} (hbase : 0 < base) (zeros : Nat) (s : List Char) :
    ofDigits? base (List.replicate zeros '0' ++ s) = ofDigits? base s := by
  have hzeros : ofDigits? base (List.replicate zeros '0') = some 0 := by
    induction zeros with
    | zero => rfl
    | succ zeros ih =>
        have hzero : digitIn? base '0' = some 0 := by simp [digitIn?, hbase]
        rw [List.replicate_succ', ofDigits?_concat, ih, hzero]
        simp
  rw [ofDigits?_append, hzeros]
  rfl

theorem ofDigits?_toDigits {base : Nat} (htwo : 1 < base) (hbase : base ≤ 16) (n : Nat) :
    ofDigits? base (Nat.toDigits base n) = some n := by
  induction n using Nat.strongRecOn with
  | ind n ih =>
      by_cases hn : n < base
      · rw [Nat.toDigits_of_lt_base hn, ← List.nil_append [_], ofDigits?_concat,
          digitIn?_digitChar hbase hn]
        simp [ofDigits?]
      · have hdiv : n / base < n := Nat.div_lt_self (by omega) htwo
        have hmod : n % base < base := Nat.mod_lt _ (by omega)
        rw [Nat.toDigits_of_base_le htwo (by omega), ofDigits?_concat, ih _ hdiv,
          digitIn?_digitChar hbase hmod]
        simp [Nat.div_add_mod']

/-- A text that is read is made of digits. -/
theorem digit_of_mem {base n : Nat} {s : List Char} (h : ofDigits? base s = some n) {c : Char}
    (hc : c ∈ s) : ∃ d, digitIn? base c = some d := by
  induction s using List.reverseRecOn generalizing n with
  | nil => cases hc
  | append_singleton s last ih =>
      rw [ofDigits?_concat] at h
      simp only [Option.pure_def, Option.bind_eq_bind, Option.bind_eq_some_iff] at h
      obtain ⟨front, hfront, d, hd, -⟩ := h
      obtain hc | hc := List.mem_append.mp hc
      · exact ih hfront hc
      · obtain rfl := List.mem_singleton.mp hc
        exact ⟨d, hd⟩

theorem range_of_mem {base n : Nat} {s : List Char} (h : ofDigits? base s = some n) {c : Char}
    (hc : c ∈ s) :
    48 ≤ c.toNat ∧ c.toNat ≤ 57 ∨ 97 ≤ c.toNat ∧ c.toNat ≤ 102 ∨ 65 ≤ c.toNat ∧ c.toNat ≤ 70 := by
  obtain ⟨d, hd⟩ := digit_of_mem h hc
  exact digitIn?_eq_some hd

theorem not_isBlank_of_mem {base n : Nat} {s : List Char} (h : ofDigits? base s = some n)
    {c : Char} (hc : c ∈ s) : Text.isBlank c = false := by
  have hrange := range_of_mem h hc
  simp [Text.isBlank]
  omega

/-- Digits within the bound are read as their number: none of them is a plus. -/
theorem number?_of_ofDigits? {base bound n : Nat} {digits : List Char} (hne : digits ≠ [])
    (h : ofDigits? base digits = some n) (hn : n ≤ bound) : number? base bound digits = some n := by
  have hfilter : (ofDigits? base digits).filter (· ≤ bound) = some n := by
    rw [h, Option.filter_some, if_pos (decide_eq_true hn)]
  cases digits with
  | nil => exact absurd rfl hne
  | cons c rest =>
      have hplus : c ≠ '+' := by
        rintro rfl
        have hrange := range_of_mem h List.mem_cons_self
        simp at hrange
      unfold number?
      split
      · rename_i heq
        exact absurd (List.cons.inj heq).1 hplus
      · rw [if_neg (by simp), hfilter]

theorem number?_toDigits {base bound n : Nat} (htwo : 1 < base) (hbase : base ≤ 16)
    (hn : n ≤ bound) : number? base bound (Nat.toDigits base n) = some n :=
  number?_of_ofDigits? Nat.toDigits_ne_nil (ofDigits?_toDigits htwo hbase n) hn

/-! ### Spellings -/

namespace Spells

variable {base n : Nat} {digits : List Char}

theorem ofDigits?_eq (h : Spells base n digits) (htwo : 1 < base) (hbase : base ≤ 16) :
    ofDigits? base digits = some n := by
  obtain ⟨zeros, hdigits⟩ := h
  rw [← ofDigits?_map_toLower, hdigits, ofDigits?_zeros (by omega), ofDigits?_toDigits htwo hbase]

theorem ne_nil (h : Spells base n digits) : digits ≠ [] := by
  rintro rfl
  obtain ⟨zeros, hdigits⟩ := h
  exact Nat.toDigits_ne_nil (List.append_eq_nil_iff.mp hdigits.symm).2

/-- A spelling of a number within the bound is read as the number. -/
theorem number?_eq {bound : Nat} (h : Spells base n digits) (htwo : 1 < base) (hbase : base ≤ 16)
    (hn : n ≤ bound) : number? base bound digits = some n :=
  number?_of_ofDigits? h.ne_nil (h.ofDigits?_eq htwo hbase) hn

end Spells

end TableGraph.Http
