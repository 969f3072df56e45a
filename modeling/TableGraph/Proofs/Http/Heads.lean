import TableGraph.Proofs.Http.Chunks

/-! # Heads as they are written

A head ends at the first empty line, and its lines are read back one by one.

* `splitAtMark` passes over bytes without the first byte of the mark and finds the first occurrence
  of it, so a written head is split off at its end with either line end (`splitAtMark_head`);
* the text of the head has the texts of its lines (`lines_joined`);
* the status is read from a written status line (`statusOf_statusLine`), and a header line is found
  to name the chunked coding exactly if it declares it (`saysChunked_iff`). -/

namespace TableGraph.Http

open Text

/-! ### Marks -/

theorem splitAtMark_append {b : UInt8} {mark front : List UInt8} (h : b ∉ front)
    (rest : List UInt8) :
    splitAtMark (b :: mark) (front ++ rest) =
      (splitAtMark (b :: mark) rest).map fun p => (front ++ p.1, p.2) := by
  induction front with
  | nil =>
      rw [List.nil_append]
      cases splitAtMark (b :: mark) rest <;> rfl
  | cons a front ih =>
      rw [List.mem_cons, not_or] at h
      have hprefix : (b :: mark).isPrefixOf (a :: (front ++ rest)) = false := by
        rw [List.isPrefixOf_cons_cons, beq_false_of_ne h.1, Bool.false_and]
      rw [List.cons_append, splitAtMark, hprefix, ih h.2, Option.map_map]
      rfl

theorem splitAtMark_eq_some {mark bytes front rest : List UInt8}
    (h : splitAtMark mark bytes = some (front, rest)) : bytes = front ++ (mark ++ rest) := by
  induction bytes generalizing front with
  | nil => cases h
  | cons b tail ih =>
      rw [splitAtMark] at h
      split at h
      · rename_i hmark
        obtain ⟨more, hmore⟩ := List.isPrefixOf_iff_prefix.mp hmark
        rw [← hmore, List.drop_left, Option.some.injEq, Prod.mk.injEq] at h
        obtain ⟨rfl, rfl⟩ := h
        exact hmore.symm
      · obtain ⟨⟨front', rest'⟩, htail, hpair⟩ := Option.map_eq_some_iff.mp h
        obtain ⟨rfl, rfl⟩ := Prod.mk.inj hpair
        rw [ih htail]
        rfl

/-- The mark is found wherever it is. -/
theorem splitAtMark_eq_none_iff {mark bytes : List UInt8} (hne : mark ≠ []) :
    splitAtMark mark bytes = none ↔ ¬ mark <:+: bytes := by
  induction bytes with
  | nil => simpa [splitAtMark] using hne
  | cons b tail ih =>
      rw [splitAtMark, List.infix_cons_iff, not_or]
      by_cases hmark : mark.isPrefixOf (b :: tail)
      · rw [if_pos hmark]
        simp [List.isPrefixOf_iff_prefix.mp hmark]
      · have hnot : ¬ mark <+: b :: tail := fun h => hmark (List.isPrefixOf_iff_prefix.mpr h)
        rw [if_neg hmark, Option.map_eq_none_iff, ih]
        exact ⟨fun h => ⟨hnot, h⟩, fun h => h.2⟩

/-! ### Where a head ends -/

/-- The lines of a head without the end of the last one. -/
def joined (ending : LineEnd) (first : List UInt8) (more : List (List UInt8)) : List UInt8 :=
  first ++ more.flatMap (ending.bytes ++ ·)

theorem joined_cons (ending : LineEnd) (first line : List UInt8) (more : List (List UInt8)) :
    joined ending first (line :: more) = first ++ (ending.bytes ++ joined ending line more) := by
  simp only [joined, List.flatMap_cons, List.append_assoc]

theorem headBytes_eq (ending : LineEnd) (first : List UInt8) (more : List (List UInt8)) :
    headBytes ending (first :: more) =
      joined ending first more ++ (ending.bytes ++ ending.bytes) := by
  induction more generalizing first with
  | nil => simp only [headBytes, joined, List.flatMap_cons, List.flatMap_nil, List.append_nil,
      List.append_assoc]
  | cons line more ih =>
      have hline := ih line
      rw [joined_cons, List.append_assoc, List.append_assoc, ← hline]
      simp only [headBytes, List.flatMap_cons, List.append_assoc]

/-- At the end of a line that is followed by another the head goes on. -/
theorem splitAtMark_ending (ending : LineEnd) {line : List UInt8} (hne : line ≠ [])
    (hline : IsLine line) (rest : List UInt8) :
    splitAtMark (ending.bytes ++ ending.bytes) (ending.bytes ++ (line ++ rest)) =
      (splitAtMark (ending.bytes ++ ending.bytes) (line ++ rest)).map
        fun p => (ending.bytes ++ p.1, p.2) := by
  obtain ⟨b, line, rfl⟩ := List.exists_cons_of_ne_nil hne
  have hfeed : (lineFeed == b) = false := beq_false_of_ne fun h => hline.1 (h ▸ List.mem_cons_self)
  have hreturn : (carriageReturn == b) = false :=
    beq_false_of_ne fun h => hline.2 (h ▸ List.mem_cons_self)
  cases ending with
  | feed =>
      have hprefix : [lineFeed, lineFeed].isPrefixOf (lineFeed :: b :: (line ++ rest)) = false := by
        simp [List.isPrefixOf, hfeed]
      show splitAtMark [lineFeed, lineFeed] (lineFeed :: b :: (line ++ rest)) = _
      rw [splitAtMark, hprefix]
      rfl
  | returnFeed =>
      have hprefix : [carriageReturn, lineFeed, carriageReturn, lineFeed].isPrefixOf
          (carriageReturn :: lineFeed :: b :: (line ++ rest)) = false := by
        simp [List.isPrefixOf, hreturn]
      have hnext : [carriageReturn, lineFeed, carriageReturn, lineFeed].isPrefixOf
          (lineFeed :: b :: (line ++ rest)) = false := rfl
      show splitAtMark [carriageReturn, lineFeed, carriageReturn, lineFeed]
        (carriageReturn :: lineFeed :: b :: (line ++ rest)) = _
      rw [splitAtMark, hprefix, if_neg Bool.false_ne_true, splitAtMark, hnext,
        if_neg Bool.false_ne_true, Option.map_map]
      rfl

theorem splitAtMark_line (ending : LineEnd) {line : List UInt8} (hline : IsLine line)
    (rest : List UInt8) :
    splitAtMark (ending.bytes ++ ending.bytes) (line ++ rest) =
      (splitAtMark (ending.bytes ++ ending.bytes) rest).map fun p => (line ++ p.1, p.2) := by
  cases ending with
  | feed => exact splitAtMark_append hline.1 rest
  | returnFeed => exact splitAtMark_append hline.2 rest

/-- The head is split off at the empty line, whatever follows it. -/
theorem splitAtMark_head (ending : LineEnd) {first : List UInt8} (hfirst : IsLine first)
    {more : List (List UInt8)} (hmore : ∀ line ∈ more, line ≠ [] ∧ IsLine line)
    (rest : List UInt8) :
    splitAtMark (ending.bytes ++ ending.bytes) (headBytes ending (first :: more) ++ rest) =
      some (joined ending first more, rest) := by
  rw [headBytes_eq]
  induction more generalizing first with
  | nil =>
      have hmark : splitAtMark (ending.bytes ++ ending.bytes)
          ((ending.bytes ++ ending.bytes) ++ rest) = some ([], rest) := by
        cases ending <;> rfl
      rw [List.append_assoc, joined, List.append_assoc, splitAtMark_line ending hfirst,
        List.flatMap_nil, List.nil_append, hmark]
      rfl
  | cons line more ih =>
      have hline := hmore line List.mem_cons_self
      have hrest := ih hline.2 fun l hl => hmore l (List.mem_cons_of_mem _ hl)
      simp only [joined, List.flatMap_cons, List.append_assoc] at hrest ⊢
      rw [splitAtMark_line ending hfirst, splitAtMark_ending ending hline.1 hline.2, hrest]
      rfl

theorem carriageReturn_not_mem_head {lines : List (List UInt8)}
    (hlines : ∀ line ∈ lines, IsLine line) : carriageReturn ∉ headBytes .feed lines := by
  have hend : carriageReturn ∉ LineEnd.feed.bytes := by decide
  intro hmem
  obtain hmem | hmem := List.mem_append.mp hmem
  · obtain ⟨line, hline, hbyte⟩ := List.mem_flatMap.mp hmem
    obtain hbyte | hbyte := List.mem_append.mp hbyte
    · exact (hlines line hline).2 hbyte
    · exact hend hbyte
  · exact hend hmem

/-! ### Lines of text -/

theorem dropReturn_eq_self {line : List Char} (h : '\r' ∉ line) : dropReturn line = line := by
  unfold dropReturn
  split
  · rename_i rest hreverse
    exact absurd (List.mem_reverse.mp (hreverse ▸ List.mem_cons_self)) h
  · rfl

theorem dropReturn_append (line : List Char) : dropReturn (line ++ ['\r']) = line := by
  rw [dropReturn, List.reverse_append]
  exact List.reverse_reverse line

theorem pieces_eq_singleton {c : Char} {s : List Char} (h : c ∉ s) : pieces c s = [s] := by
  rw [pieces_eq_splitOn, List.splitOn_eq_singleton h]

theorem lines_eq_singleton {line : List Char} (h : '\n' ∉ line) (hne : line ≠ []) :
    lines line = [line] := by
  rw [lines, pieces_eq_singleton h]
  cases line with
  | nil => exact absurd rfl hne
  | cons c line => rfl

theorem lines_append {line : List Char} (h : '\n' ∉ line) (rest : List Char) :
    lines (line ++ '\n' :: rest) = dropReturn line :: lines rest := by
  have hpieces : pieces '\n' (line ++ '\n' :: rest) = line :: pieces '\n' rest := by
    rw [pieces_eq_splitOn, pieces_eq_splitOn, List.splitOn_append_cons_self_of_not_mem h]
  rw [lines, lines, hpieces, List.reverse_cons]
  cases hrest : (pieces '\n' rest).reverse with
  | nil => exact absurd (List.reverse_eq_nil_iff.mp hrest) (pieces_ne_nil _ _)
  | cons last more =>
      cases last with
      | nil => simp
      | cons c last => simp

theorem not_mem_decodeLossy {line : List UInt8} (h : IsLine line) :
    '\n' ∉ Utf8.decodeLossy line ∧ '\r' ∉ Utf8.decodeLossy line :=
  ⟨fun hmem => h.1 (Utf8.mem_of_mem_decodeLossy (by decide) (by decide) hmem),
    fun hmem => h.2 (Utf8.mem_of_mem_decodeLossy (by decide) (by decide) hmem)⟩

theorem decodeLossy_ne_nil {line : List UInt8} (h : line ≠ []) : Utf8.decodeLossy line ≠ [] := by
  obtain ⟨b, rest, rfl⟩ := List.exists_cons_of_ne_nil h
  intro hnil
  exact Utf8.scan_ne_nil b rest (List.map_eq_nil_iff.mp hnil)

/-- The first line of bytes is the first line of their text, with either end. -/
theorem lines_decodeLossy_append (ending : LineEnd) {line : List UInt8} (h : IsLine line)
    (rest : List UInt8) :
    lines (Utf8.decodeLossy (line ++ (ending.bytes ++ rest))) =
      Utf8.decodeLossy line :: lines (Utf8.decodeLossy rest) := by
  obtain ⟨hfeed, hreturn⟩ := not_mem_decodeLossy h
  cases ending with
  | feed =>
      have htext : Utf8.decodeLossy (line ++ (LineEnd.feed.bytes ++ rest)) =
          Utf8.decodeLossy line ++ '\n' :: Utf8.decodeLossy rest :=
        Utf8.decodeLossy_append_ascii (b := lineFeed) (by decide) line rest
      rw [htext, lines_append hfeed, dropReturn_eq_self hreturn]
  | returnFeed =>
      have hafter : Utf8.decodeLossy (lineFeed :: rest) = '\n' :: Utf8.decodeLossy rest :=
        Utf8.decodeLossy_append_ascii (b := lineFeed) (by decide) [] rest
      have htext : Utf8.decodeLossy (line ++ (LineEnd.returnFeed.bytes ++ rest)) =
          Utf8.decodeLossy line ++ '\r' :: Utf8.decodeLossy (lineFeed :: rest) :=
        Utf8.decodeLossy_append_ascii (b := carriageReturn) (by decide) line (lineFeed :: rest)
      have hline : '\n' ∉ Utf8.decodeLossy line ++ ['\r'] := by
        rw [List.mem_append, not_or]
        exact ⟨hfeed, by decide⟩
      rw [htext, hafter, ← List.singleton_append, ← List.append_assoc, lines_append hline,
        dropReturn_append]

theorem lines_joined (ending : LineEnd) {first : List UInt8} (hfirst : first ≠ [] ∧ IsLine first)
    {more : List (List UInt8)} (hmore : ∀ line ∈ more, line ≠ [] ∧ IsLine line) :
    lines (Utf8.decodeLossy (joined ending first more)) =
      (first :: more).map Utf8.decodeLossy := by
  induction more generalizing first with
  | nil =>
      rw [joined, List.flatMap_nil, List.append_nil,
        lines_eq_singleton (not_mem_decodeLossy hfirst.2).1 (decodeLossy_ne_nil hfirst.1)]
      rfl
  | cons line more ih =>
      rw [joined_cons, lines_decodeLossy_append ending hfirst.2,
        ih (hmore line List.mem_cons_self) fun l hl => hmore l (List.mem_cons_of_mem _ hl)]
      rfl

/-! ### Header lines -/

/-- A trimmed text is a word in either case if the text spells the word between blanks. -/
theorem equalIgnoringCase_trim_iff {word text : List Char} (hlower : word.map Char.toLower = word)
    (hword : ∀ c ∈ word, isBlank c = false) :
    equalIgnoringCase (trim text) word ↔ Says word text := by
  rw [equalIgnoringCase, decide_eq_true_iff, hlower]
  constructor
  · intro h
    obtain ⟨before, after, htext, hbefore, hafter⟩ := exists_blanks_around text
    exact ⟨before, trim text, after, htext, hbefore, hafter, h⟩
  · rintro ⟨before, spelled, after, rfl, hbefore, hafter, hspelled⟩
    have hblank : ∀ c ∈ spelled, isBlank c = false := by
      intro c hc
      rw [← isBlank_toLower]
      exact hword _ (hspelled ▸ List.mem_map_of_mem hc)
    rw [trim_of_blanks_around hblank hbefore hafter, hspelled]

/-- A header line is found to name the chunked coding if it declares it, and only then. -/
theorem saysChunked_iff (line : List Char) : saysChunked line ↔ DeclaresChunked line := by
  have hname : ∀ text, equalIgnoringCase (trim text) "transfer-encoding".toList ↔
      Says "transfer-encoding".toList text := fun text =>
    equalIgnoringCase_trim_iff (by decide +kernel) (by simp; decide)
  have hcoding : ∀ text, equalIgnoringCase (trim text) "chunked".toList ↔
      Says "chunked".toList text := fun text =>
    equalIgnoringCase_trim_iff (by decide +kernel) (by simp; decide)
  unfold saysChunked
  constructor
  · intro h
    split at h
    · cases h
    · rename_i name value hsplit
      obtain ⟨hline, hcolon⟩ := splitOnce_eq_some hsplit
      rw [Bool.and_eq_true, List.any_eq_true, hname, pieces_eq_splitOn] at h
      obtain ⟨hnamed, coding, hmem, hsaysCoding⟩ := h
      exact ⟨name, value, hline, hcolon, hnamed, coding, hmem, (hcoding coding).mp hsaysCoding⟩
  · rintro ⟨name, value, rfl, hcolon, hnamed, coding, hmem, hsaysCoding⟩
    rw [splitOnce_append hcolon]
    show (_ && _) = true
    rw [Bool.and_eq_true, List.any_eq_true, hname, pieces_eq_splitOn]
    exact ⟨hnamed, coding, hmem, (hcoding coding).mpr hsaysCoding⟩

theorem isChunked_iff (first : List Char) (headers : List (List Char)) :
    isChunked (first :: headers) ↔ ∃ line ∈ headers, DeclaresChunked line := by
  rw [isChunked, List.drop_succ_cons, List.drop_zero, List.any_eq_true]
  simp only [saysChunked_iff]

/-! ### Heads of text -/

theorem IsLine.encode {line : List Char} (h : '\n' ∉ line ∧ '\r' ∉ line) :
    IsLine (Utf8.encode line) :=
  ⟨fun hmem => h.1 (Utf8.mem_of_mem_encode (b := lineFeed) (by decide) hmem),
    fun hmem => h.2 (Utf8.mem_of_mem_encode (b := carriageReturn) (by decide) hmem)⟩

theorem encode_ne_nil {line : List Char} (h : line ≠ []) : Utf8.encode line ≠ [] := by
  intro hnil
  have hread := Utf8.decodeLossy_encode line
  rw [hnil] at hread
  exact h hread.symm

namespace Head

variable (head : Head)

theorem status_word : ∀ c ∈ Nat.toDigits 10 head.status, isBlank c = false := by
  have hread : ofDigits? 10 (Nat.toDigits 10 head.status) = some head.status :=
    ofDigits?_toDigits (by omega) (by omega) _
  exact fun c hc => not_isBlank_of_mem hread hc

theorem statusOf_statusLine : statusOf head.statusLine = some head.status := by
  rw [statusOf, statusLine, words_cons head.version_ne_nil head.version_word (by decide),
    words_cons Nat.toDigits_ne_nil head.status_word (by decide)]
  exact number?_toDigits (by omega) (by omega) head.status_le

theorem statusLine_ne_nil : head.statusLine ≠ [] := by
  simp [statusLine]

theorem statusLine_line : '\n' ∉ head.statusLine ∧ '\r' ∉ head.statusLine := by
  have hnot : ∀ c : Char, isBlank c = true → c ≠ ' ' → c ∉ head.reason → c ∉ head.statusLine := by
    intro c hblank hspace hreason hmem
    obtain hmem | hmem := List.mem_append.mp hmem
    · exact absurd hblank (by simp [head.version_word c hmem])
    obtain hmem | hmem := List.mem_cons.mp hmem
    · exact hspace hmem
    obtain hmem | hmem := List.mem_append.mp hmem
    · exact absurd hblank (by simp [head.status_word c hmem])
    obtain hmem | hmem := List.mem_cons.mp hmem
    · exact hspace hmem
    · exact hreason hmem
  exact ⟨hnot _ (by decide) (by decide) head.reason_line.1,
    hnot _ (by decide) (by decide) head.reason_line.2⟩

end Head

end TableGraph.Http
