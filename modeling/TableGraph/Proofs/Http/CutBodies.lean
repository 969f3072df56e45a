import TableGraph.Proofs.Http.Chunks

/-! # Chunked bodies that break off

What is read when a connection ends before the body does.

* A cut in a size line leaves no line end, so nothing more is read (`readChunks_cut_line`); a cut in
  the data of a chunk gives the data that is there (`readChunks_cut_data`); a cut in the line end
  behind it adds nothing (`readChunks_cut_ending`);
* so one round of the reader takes the data that a chunk has before the cut, wherever this is
  (`readChunks_cut_chunk`), and by induction on the chunks all rounds take the data before the cut,
  and nothing else (`chunkedBody_take`). -/

namespace TableGraph.Http

/-! ### Marks -/

theorem map_fst_marked (isData : Bool) (bytes : List UInt8) :
    (marked isData bytes).map Prod.fst = bytes := by
  simp [marked, Function.comp_def]

theorem dataAmong_append (front back : List (UInt8 × Bool)) :
    dataAmong (front ++ back) = dataAmong front ++ dataAmong back := by
  simp [dataAmong]

theorem dataAmong_marked (isData : Bool) (bytes : List UInt8) :
    dataAmong (marked isData bytes) = if isData then bytes else [] := by
  cases isData <;> simp [dataAmong, marked, List.filter_map, Function.comp_def]

theorem take_marked (isData : Bool) (bytes : List UInt8) (n : Nat) :
    (marked isData bytes).take n = marked isData (bytes.take n) :=
  List.map_take.symm

theorem dataAmong_mono {front whole : List (UInt8 × Bool)} (h : front <+: whole) :
    dataAmong front <+: dataAmong whole :=
  (h.filter _).map _

namespace Chunk

variable (chunk : Chunk)

theorem map_fst_marked : chunk.marked.map Prod.fst = chunk.bytes := by
  simp only [marked, bytes, List.map_append, Http.map_fst_marked]

theorem length_marked : chunk.marked.length = chunk.bytes.length := by
  rw [← chunk.map_fst_marked, List.length_map]

theorem dataAmong_take_marked (n : Nat) :
    dataAmong (chunk.marked.take n) = chunk.data.take (n - chunk.line.bytes.length) := by
  simp only [marked, List.take_append, dataAmong_append, take_marked, Http.dataAmong_marked]
  simp [Http.marked]

theorem dataAmong_marked : dataAmong chunk.marked = chunk.data := by
  simp [marked, dataAmong_append, Http.dataAmong_marked]

end Chunk

namespace SentChunks

variable (chunk : Chunk) (chunks : List Chunk) (closing : Option (SizeLine 0 × List UInt8))

theorem bytes_nil : (mk [] closing).bytes = (mk [] closing).closingBytes :=
  map_fst_marked false _

theorem bytes_cons :
    (mk (chunk :: chunks) closing).bytes = chunk.bytes ++ (mk chunks closing).bytes := by
  simp only [bytes, marked, List.flatMap_cons, List.append_assoc, List.map_append,
    chunk.map_fst_marked]
  rfl

theorem dataWithin_nil (n : Nat) : (mk [] closing).dataWithin n = [] := by
  have htake := take_marked false (mk [] closing).closingBytes n
  exact (congrArg dataAmong htake).trans (dataAmong_marked false _)

theorem dataWithin_cons (n : Nat) :
    (mk (chunk :: chunks) closing).dataWithin n =
      chunk.data.take (n - chunk.line.bytes.length) ++
        (mk chunks closing).dataWithin (n - chunk.bytes.length) := by
  rw [← chunk.dataAmong_take_marked, ← chunk.length_marked]
  simp only [dataWithin, marked, List.flatMap_cons, List.append_assoc]
  rw [List.take_append, dataAmong_append]
  rfl

theorem dataWithin_mono (sent : SentChunks) {m n : Nat} (h : m ≤ n) :
    sent.dataWithin m <+: sent.dataWithin n :=
  dataAmong_mono (List.take_prefix_take_left h)

theorem dataAmong_marked_eq_content (sent : SentChunks) : dataAmong sent.marked = sent.content := by
  have hchunks : ∀ chunks : List Chunk,
      dataAmong (chunks.flatMap Chunk.marked) = chunks.flatMap Chunk.data := by
    intro chunks
    induction chunks with
    | nil => rfl
    | cons chunk chunks ih =>
        rw [List.flatMap_cons, List.flatMap_cons, dataAmong_append, chunk.dataAmong_marked, ih]
  have hclosing : dataAmong (Http.marked false sent.closingBytes) = [] := dataAmong_marked false _
  rw [marked, dataAmong_append, hchunks, hclosing, List.append_nil, content]

theorem dataWithin_prefix_content (sent : SentChunks) (n : Nat) :
    sent.dataWithin n <+: sent.content :=
  sent.dataAmong_marked_eq_content ▸ dataAmong_mono (List.take_prefix n _)

end SentChunks

/-! ### Cuts -/

theorem splitLine_of_not_mem {bytes : List UInt8} (h : lineFeed ∉ bytes) :
    splitLine bytes = none := by
  induction bytes with
  | nil => rfl
  | cons b rest ih =>
      rw [List.mem_cons, not_or] at h
      rw [splitLine, if_neg (Ne.symm h.1), ih h.2]
      rfl

theorem readChunks_of_not_mem {bytes : List UInt8} (h : lineFeed ∉ bytes) (fuel : Nat) :
    readChunks fuel bytes = .ok [] := by
  cases fuel with
  | zero => rfl
  | succ fuel => rw [readChunks, splitLine_of_not_mem h]

theorem LineEnd.length_bytes_pos (ending : LineEnd) : 0 < ending.bytes.length := by
  cases ending <;> decide

theorem LineEnd.take_bytes (ending : LineEnd) {n : Nat} (h : n < ending.bytes.length) :
    lineFeed ∉ ending.bytes.take n ∧ skipLineEnd (ending.bytes.take n) = ending.bytes.take n := by
  cases ending with
  | feed =>
      obtain rfl : n = 0 := Nat.lt_one_iff.mp h
      decide
  | returnFeed =>
      have hlt : n < 2 := h
      obtain rfl | rfl : n = 0 ∨ n = 1 := by omega
      · decide
      · decide

theorem SizeLine.length_bytes_pos {size : Nat} (line : SizeLine size) : 0 < line.bytes.length := by
  rw [bytes, List.length_append, List.length_append]
  exact Nat.add_pos_right _ (Nat.add_pos_right _ line.ending.length_bytes_pos)

theorem SizeLine.not_mem_take {size : Nat} (line : SizeLine size) {n : Nat}
    (h : n < line.bytes.length) : lineFeed ∉ line.bytes.take n := by
  have hpos := line.ending.length_bytes_pos
  have hbytes : line.bytes =
      (Text.Utf8.encode line.digits ++ line.extension) ++ line.ending.bytes := by
    rw [bytes, List.append_assoc]
  rw [hbytes, List.length_append] at h
  rw [hbytes, List.take_append, List.mem_append, not_or]
  exact ⟨fun hmem => line.digits_encode_line.1 ((List.take_sublist _ _).mem hmem),
    (line.ending.take_bytes (by omega)).1⟩

theorem readChunks_cut_line {size : Nat} (line : SizeLine size) {n : Nat}
    (h : n < line.bytes.length) (fuel : Nat) (rest : List UInt8) :
    readChunks fuel ((line.bytes ++ rest).take n) = .ok [] := by
  rw [List.take_append_of_le_length (Nat.le_of_lt h)]
  exact readChunks_of_not_mem (line.not_mem_take h) fuel

/-- Of data that is cut off what is there is read. -/
theorem readChunks_cut_data (chunk : Chunk) {n : Nat} (h : n < chunk.data.length) (fuel : Nat) :
    readChunks (fuel + 1) (chunk.line.bytes ++ chunk.data.take n) = .ok (chunk.data.take n) := by
  obtain ⟨k, hk, hnumber⟩ := chunk.chunkSize?_digits
  obtain ⟨text, hsplit, hsize⟩ := chunk.line.splitLine_bytes (chunk.data.take n)
  have hshort : (chunk.data.take n).length < k + 1 := by
    rw [List.length_take]
    omega
  rw [readChunks, hsplit]
  simp only [hsize, hnumber, hshort, if_true]

theorem readChunks_cut_ending (ending : LineEnd) (rest : List UInt8) (n fuel : Nat) :
    readChunks fuel (skipLineEnd ((ending.bytes ++ rest).take n)) =
      readChunks fuel (rest.take (n - ending.bytes.length)) := by
  by_cases h : n < ending.bytes.length
  · obtain ⟨hnot, hskip⟩ := ending.take_bytes h
    have hzero : n - ending.bytes.length = 0 := by omega
    rw [List.take_append_of_le_length (Nat.le_of_lt h), hskip, hzero,
      readChunks_of_not_mem hnot, List.take_zero, readChunks_of_not_mem List.not_mem_nil]
  · obtain ⟨k, rfl⟩ := Nat.exists_eq_add_of_le (Nat.le_of_not_lt h)
    rw [List.take_length_add_append, skipLineEnd_bytes, Nat.add_sub_cancel_left]

/-- One round takes the data of a chunk that stands before the cut, wherever this is. -/
theorem readChunks_cut_chunk (chunk : Chunk) (rest : List UInt8) (n fuel : Nat) :
    readChunks (fuel + 1) ((chunk.bytes ++ rest).take n) =
      (readChunks fuel (rest.take (n - chunk.bytes.length))).map
        (chunk.data.take (n - chunk.line.bytes.length) ++ ·) := by
  have hlength : chunk.bytes.length =
      chunk.line.bytes.length + (chunk.data.length + chunk.ending.bytes.length) := by
    simp only [Chunk.bytes, List.length_append]
  have hbytes : chunk.bytes ++ rest =
      chunk.line.bytes ++ (chunk.data ++ (chunk.ending.bytes ++ rest)) := by
    simp only [Chunk.bytes, List.append_assoc]
  have hnothing : readChunks fuel (rest.take 0) = .ok [] :=
    readChunks_of_not_mem List.not_mem_nil fuel
  rw [hbytes]
  by_cases hline : n < chunk.line.bytes.length
  · have hdata : n - chunk.line.bytes.length = 0 := by omega
    have hrest : n - chunk.bytes.length = 0 := by omega
    rw [readChunks_cut_line chunk.line hline, hdata, hrest, hnothing]
    rfl
  · obtain ⟨k, rfl⟩ := Nat.exists_eq_add_of_le (Nat.le_of_not_lt hline)
    rw [List.take_length_add_append, Nat.add_sub_cancel_left]
    by_cases hdata : k < chunk.data.length
    · have hrest : chunk.line.bytes.length + k - chunk.bytes.length = 0 := by omega
      rw [List.take_append_of_le_length (Nat.le_of_lt hdata), readChunks_cut_data chunk hdata,
        hrest, hnothing]
      exact congrArg Except.ok (List.append_nil _).symm
    · obtain ⟨j, rfl⟩ := Nat.exists_eq_add_of_le (Nat.le_of_not_lt hdata)
      have hrest : chunk.line.bytes.length + (chunk.data.length + j) - chunk.bytes.length =
          j - chunk.ending.bytes.length := by omega
      rw [List.take_length_add_append, readChunks_data, readChunks_cut_ending, hrest,
        List.take_of_length_le (Nat.le_add_right _ _)]

/-! ### Bodies -/

/-- What ends the chunks adds nothing, cut off or not. -/
theorem readChunks_cut_closing (closing : Option (SizeLine 0 × List UInt8)) (n fuel : Nat) :
    readChunks (fuel + 1) ((SentChunks.mk [] closing).bytes.take n) = .ok [] := by
  rw [SentChunks.bytes_nil]
  cases closing with
  | none =>
      have hnil : (SentChunks.mk [] none).closingBytes.take n = [] := List.take_nil
      rw [hnil]
      exact readChunks_of_not_mem List.not_mem_nil _
  | some closing =>
      obtain ⟨last, trailer⟩ := closing
      show readChunks (fuel + 1) ((last.bytes ++ trailer).take n) = .ok []
      by_cases hlast : n < last.bytes.length
      · exact readChunks_cut_line last hlast _ _
      · obtain ⟨k, rfl⟩ := Nat.exists_eq_add_of_le (Nat.le_of_not_lt hlast)
        rw [List.take_length_add_append]
        exact readChunks_last last fuel _

/-- More rounds than there are bytes before the cut take the data before it. -/
theorem readChunks_take (closing : Option (SizeLine 0 × List UInt8)) (chunks : List Chunk)
    (n fuel : Nat) (h : ((SentChunks.mk chunks closing).bytes.take n).length < fuel) :
    readChunks fuel ((SentChunks.mk chunks closing).bytes.take n) =
      .ok ((SentChunks.mk chunks closing).dataWithin n) := by
  induction chunks generalizing n fuel with
  | nil =>
      obtain ⟨more, rfl⟩ : ∃ more, fuel = more + 1 := ⟨fuel - 1, by omega⟩
      rw [readChunks_cut_closing, SentChunks.dataWithin_nil]
  | cons chunk chunks ih =>
      obtain rfl | hn := Nat.eq_zero_or_pos n
      · exact readChunks_of_not_mem List.not_mem_nil fuel
      · obtain ⟨more, rfl⟩ : ∃ more, fuel = more + 1 := ⟨fuel - 1, by omega⟩
        have hpos : 0 < chunk.bytes.length := by
          rw [Chunk.bytes, List.length_append]
          exact Nat.add_pos_left chunk.line.length_bytes_pos _
        rw [SentChunks.bytes_cons, List.length_take, List.length_append] at h
        -- a round takes off at least one byte before the cut
        have hmore : ((SentChunks.mk chunks closing).bytes.take (n - chunk.bytes.length)).length <
            more := by
          rw [List.length_take]
          omega
        rw [SentChunks.bytes_cons, readChunks_cut_chunk, ih _ _ hmore, SentChunks.dataWithin_cons]
        rfl

/-- A body in chunks that breaks off after any number of bytes is read without an error, as the data
among these bytes; the later it breaks off, the more of what the chunks hold is read. -/
theorem chunkedBody_take (sent : SentChunks) (n : Nat) :
    chunkedBody (sent.bytes.take n) = .ok (sent.dataWithin n) ∧
    sent.dataWithin n <+: sent.content ∧
    ∀ m ≤ n, sent.dataWithin m <+: sent.dataWithin n :=
  ⟨readChunks_take sent.closing sent.chunks n _ (Nat.lt_succ_self _),
    sent.dataWithin_prefix_content n, fun _ h => sent.dataWithin_mono h⟩

end TableGraph.Http
