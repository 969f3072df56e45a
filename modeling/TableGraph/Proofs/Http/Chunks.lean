import TableGraph.Proofs.Http.Numbers
import TableGraph.Proofs.Text.Utf8

/-! # Chunked bodies as they are written

The reader takes off one written chunk in a step (`readChunks_chunk`) and stops at the last one
(`readChunks_last`), whatever the chunks hold: the bytes of a chunk are counted, not searched. By
induction on the chunks a written body is read as what its chunks hold (`chunkedBody_bytes`). No
body gives more bytes than it has (`length_chunkedBody_le`). -/

namespace TableGraph.Http

open Text

/-! ### Lines of bytes -/

theorem splitLine_append {line : List UInt8} (h : lineFeed ∉ line) (rest : List UInt8) :
    splitLine (line ++ lineFeed :: rest) = some (line, rest) := by
  induction line with
  | nil => rw [List.nil_append, splitLine, if_pos rfl]
  | cons b line ih =>
      rw [List.mem_cons, not_or] at h
      rw [List.cons_append, splitLine, if_neg (Ne.symm h.1), ih h.2]
      rfl

theorem skipLineEnd_bytes (ending : LineEnd) (rest : List UInt8) :
    skipLineEnd (ending.bytes ++ rest) = rest := by
  cases ending <;> rfl

theorem length_skipLineEnd_le (bytes : List UInt8) : (skipLineEnd bytes).length ≤ bytes.length := by
  unfold skipLineEnd
  split
  · simp only [List.length_cons]
    omega
  · simp only [List.length_cons]
    omega
  · exact Nat.le_refl _

theorem splitLine_ending {line : List UInt8} (h : IsLine line) (ending : LineEnd)
    (rest : List UInt8) : ∃ returns, (returns = [] ∨ returns = [carriageReturn]) ∧
      splitLine (line ++ (ending.bytes ++ rest)) = some (line ++ returns, rest) := by
  cases ending with
  | feed =>
      refine ⟨[], .inl rfl, ?_⟩
      rw [List.append_nil]
      exact splitLine_append h.1 rest
  | returnFeed =>
      refine ⟨[carriageReturn], .inr rfl, ?_⟩
      have hfeed : lineFeed ∉ line ++ [carriageReturn] := by
        rw [List.mem_append, not_or]
        exact ⟨h.1, by decide⟩
      have happend : line ++ (LineEnd.returnFeed.bytes ++ rest) =
          (line ++ [carriageReturn]) ++ lineFeed :: rest := by
        rw [List.append_assoc]
        rfl
      rw [happend]
      exact splitLine_append hfeed rest

/-! ### Size lines -/

theorem decodeLossy_blanks {blanks : List UInt8} (h : ∀ b ∈ blanks, b = 32 ∨ b = 9 ∨ b = 13)
    (rest : List UInt8) : ∃ text : List Char, (∀ c ∈ text, isBlank c ∧ c ≠ ';') ∧
      Utf8.decodeLossy (blanks ++ rest) = text ++ Utf8.decodeLossy rest := by
  induction blanks with
  | nil => exact ⟨[], fun _ hc => absurd hc List.not_mem_nil, rfl⟩
  | cons b blanks ih =>
      obtain ⟨text, hblank, htext⟩ := ih fun d hd => h d (List.mem_cons_of_mem _ hd)
      have hb : b.toNat < 0x80 ∧ isBlank (Char.ofNat b.toNat) ∧ Char.ofNat b.toNat ≠ ';' := by
        obtain rfl | rfl | rfl := h b List.mem_cons_self <;> decide
      have hsplit := Utf8.decodeLossy_append_ascii hb.1 [] (blanks ++ rest)
      rw [List.nil_append] at hsplit
      refine ⟨Char.ofNat b.toNat :: text, ?_, ?_⟩
      · intro c hc
        obtain rfl | hc := List.mem_cons.mp hc
        · exact hb.2
        · exact hblank c hc
      · rw [List.cons_append, hsplit, htext]
        rfl

theorem trim_takeWhile_trim {digits blanks : List Char} (hne : digits ≠ [])
    (hdigits : ∀ c ∈ digits, isBlank c = false ∧ c ≠ ';')
    (hblanks : ∀ c ∈ blanks, isBlank c ∧ c ≠ ';') {rest : List Char}
    (hrest : rest = [] ∨ ∃ more, rest = ';' :: more) :
    trim ((trim (digits ++ (blanks ++ rest))).takeWhile (· ≠ ';')) = digits := by
  have hword : ∀ c ∈ digits, isBlank c = false := fun c hc => (hdigits c hc).1
  have htrim : trim (digits ++ blanks) = digits := by
    rw [trim_append_blanks fun c hc => (hblanks c hc).1, trim_eq_self hword]
  obtain rfl | ⟨more, rfl⟩ := hrest
  · have hnone : digits.takeWhile (· ≠ ';') = digits :=
      List.takeWhile_eq_self_iff.mpr fun c hc => decide_eq_true (hdigits c hc).2
    rw [List.append_nil, htrim, hnone, trim_eq_self hword]
  · have hfront : (digits ++ (blanks ++ ';' :: more)).dropWhile isBlank =
        (digits ++ blanks) ++ ';' :: more := by
      obtain ⟨c, digits, rfl⟩ := List.exists_cons_of_ne_nil hne
      have hc : ¬ isBlank c = true := by simp [hword c]
      rw [List.cons_append, List.dropWhile_cons_of_neg hc]
      simp
    have htake : ((digits ++ blanks) ++ ';' :: trimEnd more).takeWhile (· ≠ ';') =
        digits ++ blanks := by
      rw [List.takeWhile_append_of_pos, List.takeWhile_cons_of_neg (by simp), List.append_nil]
      intro c hc
      obtain hc | hc := List.mem_append.mp hc
      · exact decide_eq_true (hdigits c hc).2
      · exact decide_eq_true (hblanks c hc).2
    have hinner : trim (digits ++ (blanks ++ ';' :: more)) =
        (digits ++ blanks) ++ ';' :: trimEnd more := by
      rw [trim, hfront, trimEnd_append_cons (by decide)]
    rw [hinner, htake, htrim]

/-- The size is what stands before the semicolon, if only blanks follow it up to there. -/
theorem sizeText_append {digits : List Char} (hne : digits ≠ [])
    (hdigits : ∀ c ∈ digits, isBlank c = false ∧ c ≠ ';') {tail : List UInt8}
    (htail : ∀ b ∈ tail.takeWhile (· ≠ 59), b = 32 ∨ b = 9 ∨ b = 13) :
    sizeText (Utf8.encode digits ++ tail) = digits := by
  obtain ⟨blanks, hblanks, htext⟩ := decodeLossy_blanks htail (tail.dropWhile (· ≠ 59))
  rw [List.takeWhile_append_dropWhile] at htext
  rw [sizeText, Utf8.decodeLossy_encode_append, htext]
  apply trim_takeWhile_trim hne hdigits hblanks
  cases hrest : tail.dropWhile (· ≠ 59) with
  | nil => exact .inl rfl
  | cons b more =>
      have hhead := List.head?_dropWhile_not (fun b : UInt8 => decide (b ≠ 59)) tail
      rw [hrest] at hhead
      have hb : b = 59 := by simpa using hhead
      have hmore := Utf8.decodeLossy_append_ascii (b := 59) (by decide) [] more
      rw [List.nil_append] at hmore
      rw [hb, hmore]
      exact .inr ⟨_, rfl⟩

namespace SizeLine

variable {size : Nat}

theorem digits_encode_line (line : SizeLine size) :
    IsLine (Utf8.encode line.digits ++ line.extension) := by
  have hread := line.spells.ofDigits?_eq (by omega) (by omega)
  have hnot : ∀ b : UInt8, b.toNat < 48 → b ∉ Utf8.encode line.digits := by
    intro b hb hmem
    have hrange := range_of_mem hread (Utf8.mem_of_mem_encode (by omega) hmem)
    rw [Utf8.toNat_ofNat (.inl (by omega))] at hrange
    omega
  refine ⟨?_, ?_⟩ <;> rw [List.mem_append, not_or]
  · exact ⟨hnot _ (by decide), line.extension_line.1⟩
  · exact ⟨hnot _ (by decide), line.extension_line.2⟩

theorem blank_of_mem (line : SizeLine size) {returns : List UInt8}
    (hreturns : returns = [] ∨ returns = [carriageReturn]) :
    ∀ b ∈ (line.extension ++ returns).takeWhile (· ≠ 59), b = 32 ∨ b = 9 ∨ b = 13 := by
  intro b hb
  obtain hb | hb : b ∈ line.extension.takeWhile (· ≠ 59) ∨ b ∈ returns := by
    rw [List.takeWhile_append] at hb
    split at hb
    next hall =>
      have hself : line.extension.takeWhile (· ≠ 59) = line.extension :=
        (List.takeWhile_prefix _).eq_of_length hall
      obtain hb | hb := List.mem_append.mp hb
      · exact .inl (hself.symm ▸ hb)
      · exact .inr ((List.takeWhile_sublist _).mem hb)
    next => exact .inl hb
  · obtain h | h := line.extension_blank b hb
    · exact .inl h
    · exact .inr (.inl h)
  · obtain rfl | rfl := hreturns
    · cases hb
    · exact .inr (.inr (List.mem_singleton.mp hb))

/-- The line of a size is taken off, and the size is read from it. -/
theorem splitLine_bytes (line : SizeLine size) (rest : List UInt8) :
    ∃ text, splitLine (line.bytes ++ rest) = some (text, rest) ∧
      sizeText text = line.digits := by
  have hread := line.spells.ofDigits?_eq (by omega) (by omega)
  have hdigits : ∀ c ∈ line.digits, isBlank c = false ∧ c ≠ ';' := by
    intro c hc
    refine ⟨not_isBlank_of_mem hread hc, ?_⟩
    rintro rfl
    have hrange := range_of_mem hread hc
    simp at hrange
  obtain ⟨returns, hreturns, hsplit⟩ :=
    splitLine_ending line.digits_encode_line line.ending rest
  refine ⟨Utf8.encode line.digits ++ (line.extension ++ returns), ?_, ?_⟩
  · rw [← List.append_assoc, ← hsplit, SizeLine.bytes]
    simp only [List.append_assoc]
  · exact sizeText_append line.spells.ne_nil hdigits (line.blank_of_mem hreturns)

end SizeLine

/-! ### Chunks -/

theorem Chunk.chunkSize?_digits (chunk : Chunk) :
    ∃ n, chunk.data.length = n + 1 ∧ chunkSize? chunk.line.digits = some (n + 1) := by
  have hpos : 0 < chunk.data.length := List.length_pos_iff.mpr chunk.data_ne_nil
  have hlt := chunk.length_lt
  obtain ⟨n, hn⟩ : ∃ n, chunk.data.length = n + 1 := ⟨chunk.data.length - 1, by omega⟩
  refine ⟨n, hn, ?_⟩
  rw [← hn]
  exact chunk.line.spells.number?_eq (by omega) (by omega) (Nat.le_sub_one_of_lt hlt)

/-- A chunk of which all data is there gives its data, whatever the data is, and reading goes on
behind its line end. -/
theorem readChunks_data (chunk : Chunk) (fuel : Nat) (rest : List UInt8) :
    readChunks (fuel + 1) (chunk.line.bytes ++ (chunk.data ++ rest)) =
      (readChunks fuel (skipLineEnd rest)).map (chunk.data ++ ·) := by
  obtain ⟨n, hn, hnumber⟩ := chunk.chunkSize?_digits
  obtain ⟨text, hsplit, hsize⟩ := chunk.line.splitLine_bytes (chunk.data ++ rest)
  have henough : ¬ (chunk.data ++ rest).length < n + 1 := by
    rw [List.length_append]
    omega
  rw [readChunks, hsplit]
  simp only [hsize, hnumber, henough, if_false]
  rw [← hn, List.drop_left, List.take_left]

/-- A written chunk gives its data and is passed over. -/
theorem readChunks_chunk (chunk : Chunk) (fuel : Nat) (rest : List UInt8) :
    readChunks (fuel + 1) (chunk.bytes ++ rest) =
      (readChunks fuel rest).map (chunk.data ++ ·) := by
  have hbytes : chunk.bytes ++ rest =
      chunk.line.bytes ++ (chunk.data ++ (chunk.ending.bytes ++ rest)) := by
    simp only [Chunk.bytes, List.append_assoc]
  rw [hbytes, readChunks_data, skipLineEnd_bytes]

/-- The last chunk ends the body, whatever follows it. -/
theorem readChunks_last (last : SizeLine 0) (fuel : Nat) (trailer : List UInt8) :
    readChunks (fuel + 1) (last.bytes ++ trailer) = .ok [] := by
  obtain ⟨text, hsplit, hsize⟩ := last.splitLine_bytes trailer
  have hnumber : chunkSize? last.digits = some 0 :=
    last.spells.number?_eq (by omega) (by omega) (Nat.zero_le _)
  rw [readChunks, hsplit]
  simp only [hsize, hnumber]

/-- One round for each chunk, and one for the last, put the data together. -/
theorem readChunks_chunks (chunks : List Chunk) (last : SizeLine 0) (trailer : List UInt8)
    (fuel : Nat) :
    readChunks (chunks.length + (fuel + 1))
        (chunks.flatMap Chunk.bytes ++ (last.bytes ++ trailer)) =
      .ok (chunks.flatMap Chunk.data) := by
  induction chunks with
  | nil =>
      rw [List.length_nil, Nat.zero_add]
      exact readChunks_last last fuel trailer
  | cons chunk chunks ih =>
      have hfuel : (chunk :: chunks).length + (fuel + 1) = chunks.length + (fuel + 1) + 1 := by
        rw [List.length_cons]
        omega
      rw [hfuel, List.flatMap_cons, List.append_assoc, readChunks_chunk, ih]
      rfl

theorem length_chunks_le (chunks : List Chunk) :
    chunks.length ≤ (chunks.flatMap Chunk.bytes).length := by
  induction chunks with
  | nil => exact Nat.le_refl _
  | cons chunk chunks ih =>
      have hpos : 0 < chunk.data.length := List.length_pos_iff.mpr chunk.data_ne_nil
      have hbytes : chunk.data.length ≤ chunk.bytes.length := by
        simp only [Chunk.bytes, List.length_append]
        omega
      rw [List.flatMap_cons, List.length_append, List.length_cons]
      omega

/-- A body in chunks is read as what its chunks hold, wherever it is cut. -/
theorem chunkedBody_bytes (body : ChunkedBody) : chunkedBody body.bytes = .ok body.content := by
  have hlength := length_chunks_le body.chunks
  have hle : (body.chunks.flatMap Chunk.bytes).length ≤ body.bytes.length := by
    rw [ChunkedBody.bytes, List.length_append]
    omega
  obtain ⟨more, hmore⟩ : ∃ more, body.bytes.length + 1 = body.chunks.length + (more + 1) :=
    ⟨body.bytes.length - body.chunks.length, by omega⟩
  rw [chunkedBody, hmore]
  exact readChunks_chunks body.chunks body.last body.trailer more

/-! ### Lengths -/

theorem length_readChunks_le {fuel : Nat} {bytes content : List UInt8}
    (h : readChunks fuel bytes = .ok content) : content.length ≤ bytes.length := by
  induction fuel generalizing bytes content with
  | zero =>
      cases h
      exact Nat.zero_le _
  | succ fuel ih =>
      rw [readChunks] at h
      split at h
      · cases h
        exact Nat.zero_le _
      · rename_i line rest hsplit
        have hrest := length_splitLine hsplit
        split at h
        · cases h
        · cases h
          exact Nat.zero_le _
        · split at h
          · cases h
            omega
          · rename_i n _ henough
            cases hmore : readChunks fuel (skipLineEnd (rest.drop (n + 1))) with
            | error e =>
                rw [hmore] at h
                cases h
            | ok more =>
                rw [hmore] at h
                cases h
                have hskip := length_skipLineEnd_le (rest.drop (n + 1))
                have hdrop := ih hmore
                rw [List.length_drop] at hskip
                rw [List.length_append, List.length_take]
                omega

theorem length_chunkedBody_le {bytes content : List UInt8}
    (h : chunkedBody bytes = .ok content) : content.length ≤ bytes.length :=
  length_readChunks_le h

end TableGraph.Http
