import Mathlib.Data.List.TakeWhile
import TableGraph.Text.Blank

/-! # Trimmed texts, words and pieces

A text is its trimmed form between blanks (`exists_blanks_around`), and a form that neither begins
nor ends with a blank is what trimming leaves of it (`trim_of_blanks_around`). The first word of a
text ends at its first blank (`words_cons`), and the pieces of a text are those of
`List.splitOn`. -/

namespace TableGraph.Text

/-! ### Case -/

theorem toLower_toNat (c : Char) :
    c.toLower.toNat = if 65 ≤ c.toNat ∧ c.toNat ≤ 90 then c.toNat + 32 else c.toNat := by
  have hval : c.val.toNat = c.toNat := rfl
  unfold Char.toLower
  by_cases h : 'A'.val ≤ c.val ∧ c.val ≤ 'Z'.val
  · rw [dif_pos h]
    rw [UInt32.le_iff_toNat_le, UInt32.le_iff_toNat_le, hval] at h
    have hlow : 65 ≤ c.toNat := h.1
    have hhigh : c.toNat ≤ 90 := h.2
    rw [if_pos ⟨hlow, hhigh⟩]
    show (c.val + 32).toNat = _
    rw [UInt32.toNat_add, hval]
    show (c.toNat + 32) % 2 ^ 32 = _
    omega
  · rw [dif_neg h]
    rw [UInt32.le_iff_toNat_le, UInt32.le_iff_toNat_le, hval] at h
    have hout : ¬ (65 ≤ c.toNat ∧ c.toNat ≤ 90) := h
    rw [if_neg hout]

@[simp] theorem isBlank_toLower (c : Char) : isBlank c.toLower = isBlank c := by
  have hlower := toLower_toNat c
  split at hlower
  · have hblank : ∀ d : Char, 65 ≤ d.toNat → d.toNat ≤ 122 → isBlank d = false := by
      intro d hlow hhigh
      simp [isBlank]
      omega
    rw [hblank c (by omega) (by omega), hblank c.toLower (by omega) (by omega)]
  · simp only [isBlank, hlower]

/-! ### Trimming -/

theorem trimEnd_append_blanks {s after : List Char} (h : ∀ c ∈ after, isBlank c) :
    trimEnd (s ++ after) = trimEnd s := by
  rw [trimEnd, List.reverse_append,
    List.dropWhile_append_of_pos (fun c hc => h c (List.mem_reverse.mp hc)), trimEnd]

theorem trimEnd_concat {s : List Char} {c : Char} (h : isBlank c = false) :
    trimEnd (s ++ [c]) = s ++ [c] := by
  rw [trimEnd, List.reverse_concat, List.dropWhile_cons_of_neg (by simp [h]), List.reverse_cons,
    List.reverse_reverse]

theorem trimEnd_append_cons {c : Char} (h : isBlank c = false) (s rest : List Char) :
    trimEnd (s ++ c :: rest) = s ++ c :: trimEnd rest := by
  rw [trimEnd, List.reverse_append, List.reverse_cons, List.append_assoc, List.dropWhile_append]
  by_cases hrest : (rest.reverse.dropWhile isBlank).isEmpty
  · have hnil : trimEnd rest = [] := by
      rw [trimEnd, List.isEmpty_iff.mp hrest, List.reverse_nil]
    rw [if_pos hrest, hnil, List.singleton_append, List.dropWhile_cons_of_neg (by simp [h])]
    simp
  · rw [if_neg hrest, trimEnd]
    simp

theorem trim_append_blanks {s after : List Char} (h : ∀ c ∈ after, isBlank c) :
    trim (s ++ after) = trim s := by
  rw [trim, List.dropWhile_append]
  by_cases hs : (s.dropWhile isBlank).isEmpty
  · have hdrop : after.dropWhile isBlank = [] := List.dropWhile_eq_nil_iff.mpr h
    rw [if_pos hs, hdrop, trim, List.isEmpty_iff.mp hs]
  · rw [if_neg hs, trimEnd_append_blanks h, trim]

/-- The text neither begins nor ends with a blank. -/
def Trimmed (s : List Char) : Prop :=
  (∀ c ∈ s.head?, isBlank c = false) ∧ ∀ c ∈ s.getLast?, isBlank c = false

theorem trimmed_iff_all {s : List Char} :
    (s.head?.all (!isBlank ·) ∧ s.getLast?.all (!isBlank ·)) ↔ Trimmed s := by
  simp only [Option.all_eq_true, Bool.not_eq_true', Trimmed, Option.mem_def]

instance (s : List Char) : Decidable (Trimmed s) := decidable_of_iff _ trimmed_iff_all

theorem trimmed_of_forall {s : List Char} (h : ∀ c ∈ s, isBlank c = false) : Trimmed s :=
  ⟨fun c hc => h c (List.mem_of_mem_head? hc), fun c hc => h c (List.mem_of_mem_getLast? hc)⟩

theorem Trimmed.append {s t : List Char} (hs : Trimmed s) (ht : Trimmed t) : Trimmed (s ++ t) := by
  constructor
  · intro c hc
    rw [List.head?_append, Option.mem_def, Option.or_eq_some_iff] at hc
    obtain hc | ⟨-, hc⟩ := hc
    · exact hs.1 c hc
    · exact ht.1 c hc
  · intro c hc
    rw [List.getLast?_append, Option.mem_def, Option.or_eq_some_iff] at hc
    obtain hc | ⟨-, hc⟩ := hc
    · exact ht.2 c hc
    · exact hs.2 c hc

/-- A text that neither begins nor ends with a blank is what is left of it between blanks. -/
theorem Trimmed.trim_between {before s after : List Char} (hs : Trimmed s)
    (hbefore : ∀ c ∈ before, isBlank c) (hafter : ∀ c ∈ after, isBlank c) :
    trim (before ++ (s ++ after)) = s := by
  have hfront : s.dropWhile isBlank = s := by
    cases s with
    | nil => rfl
    | cons c rest =>
        have hc := hs.1 c rfl
        rw [List.dropWhile_cons_of_neg (by simp [hc])]
  rw [← List.append_assoc, trim_append_blanks hafter, trim,
    List.dropWhile_append_of_pos hbefore, hfront]
  obtain rfl | ⟨front, c, rfl⟩ := List.eq_nil_or_concat s
  · rfl
  · rw [List.concat_eq_append] at hs ⊢
    exact trimEnd_concat (hs.2 c List.getLast?_concat)

theorem trim_of_blanks_around {before s after : List Char} (hs : ∀ c ∈ s, isBlank c = false)
    (hbefore : ∀ c ∈ before, isBlank c) (hafter : ∀ c ∈ after, isBlank c) :
    trim (before ++ (s ++ after)) = s :=
  (trimmed_of_forall hs).trim_between hbefore hafter

theorem trim_eq_self {s : List Char} (hs : ∀ c ∈ s, isBlank c = false) : trim s = s := by
  have hnone : ∀ c ∈ ([] : List Char), isBlank c := fun _ h => absurd h List.not_mem_nil
  have h := trim_of_blanks_around hs hnone hnone
  rwa [List.nil_append, List.append_nil] at h

/-- What trimming drops is blank. -/
theorem exists_blanks_around (s : List Char) :
    ∃ before after, s = before ++ (trim s ++ after) ∧ (∀ c ∈ before, isBlank c) ∧
      ∀ c ∈ after, isBlank c := by
  refine ⟨s.takeWhile isBlank, ((s.dropWhile isBlank).reverse.takeWhile isBlank).reverse, ?_,
    fun c hc => List.mem_takeWhile_imp hc,
    fun c hc => List.mem_takeWhile_imp (List.mem_reverse.mp hc)⟩
  rw [trim, trimEnd, ← List.reverse_append, List.takeWhile_append_dropWhile, List.reverse_reverse,
    List.takeWhile_append_dropWhile]

/-! ### Words -/

theorem wordsFrom_append {more : List Char} (h : ∀ c ∈ more, isBlank c = false)
    (word rest : List Char) :
    wordsFrom word (more ++ rest) = wordsFrom (more.reverse ++ word) rest := by
  induction more generalizing word with
  | nil => rfl
  | cons c more ih =>
      rw [List.cons_append, wordsFrom, if_neg (by simp [h c]), ih fun d hd => h d (by simp [hd])]
      simp

/-- The first word of a text ends at the first blank behind it. -/
theorem words_cons {word : List Char} {c : Char} (hne : word ≠ [])
    (hword : ∀ d ∈ word, isBlank d = false) (hc : isBlank c) (rest : List Char) :
    words (word ++ c :: rest) = word :: words rest := by
  rw [words, wordsFrom_append hword, List.append_nil, wordsFrom, if_pos hc,
    if_neg (by simpa using hne), List.reverse_reverse, words]

/-! ### Pieces -/

theorem pieces_ne_nil (c : Char) (s : List Char) : pieces c s ≠ [] := by
  cases s with
  | nil => exact List.cons_ne_nil _ _
  | cons d rest =>
      rw [pieces]
      split
      · exact List.cons_ne_nil _ _
      · split <;> exact List.cons_ne_nil _ _

theorem pieces_eq_splitOn (c : Char) (s : List Char) : pieces c s = s.splitOn c := by
  induction s with
  | nil => rfl
  | cons d rest ih =>
      rw [pieces, List.splitOn_cons_eq_if_modifyHead, ← ih]
      by_cases h : d = c
      · simp [h]
      · simp only [h, if_false, beq_iff_eq]
        cases hrest : pieces c rest with
        | nil => exact absurd hrest (pieces_ne_nil c rest)
        | cons piece more => rfl

theorem splitOnce_eq_none_iff {c : Char} {s : List Char} : splitOnce c s = none ↔ c ∉ s := by
  induction s with
  | nil => simp [splitOnce]
  | cons d rest ih =>
      by_cases hd : d = c
      · simp [splitOnce, hd]
      · simp [splitOnce, hd, ih, Ne.symm hd]

theorem splitOnce_append {c : Char} {front : List Char} (h : c ∉ front) (rest : List Char) :
    splitOnce c (front ++ c :: rest) = some (front, rest) := by
  induction front with
  | nil => rw [List.nil_append, splitOnce, if_pos rfl]
  | cons d front ih =>
      rw [List.mem_cons, not_or] at h
      rw [List.cons_append, splitOnce, if_neg (Ne.symm h.1), ih h.2]
      rfl

end TableGraph.Text
