import TableGraph.Proofs.Http.Heads

/-! # Responses as they are written

Bytes are read as a response in four steps, all of which must succeed (`parse_eq_ok_iff`): the head
is split off, the status is read, the body is put together, and its bytes are a text in UTF-8.

* A written response is read back, with a plain body as with one in chunks
  (`parse_written_response`); the text is read after the chunks are put together, so a chunk may
  end inside a character;
* an empty line with carriage returns is looked for in the whole response first. So behind a head
  whose lines end with line feeds alone a body is read back only if it holds no such line
  (`parse_bare_head_iff`): the head would go on up to it. -/

namespace TableGraph.Http

open Text

/-- A response is read from a head with a status and a body that holds the text, and from nothing
else. -/
theorem parse_eq_ok_iff {bytes : List UInt8} {message : Message} :
    Message.parse bytes = .ok message ↔
      ∃ head body, splitHead bytes = (head, some body) ∧
        statusOf ((lines (Utf8.decodeLossy head)).head?.getD []) = some message.status ∧
        plainBody (lines (Utf8.decodeLossy head)) body =
          .ok (Utf8.encode message.body.toList) := by
  constructor
  · intro h
    rw [Message.parse] at h
    split at h
    · cases h
    · rcases hsplit : splitHead bytes with ⟨head, body?⟩
      simp only [hsplit] at h
      split at h
      · cases h
      · rename_i status hstatus
        split at h
        · cases h
        · rename_i body
          split at h
          · cases h
          · rename_i plain hplain
            split at h
            · cases h
            · rename_i text htext
              cases h
              refine ⟨head, body, rfl, hstatus, ?_⟩
              rw [hplain, Utf8.decode?_eq_some_iff.mp htext, String.toList_ofList]
  · rintro ⟨head, body, hsplit, hstatus, hplain⟩
    have hne : bytes.isEmpty = false := by
      cases bytes with
      | nil => cases hsplit
      | cons b rest => rfl
    rw [Message.parse, hne]
    simp only [Bool.false_eq_true, if_false, hsplit, hstatus, hplain, Utf8.decode?_encode,
      String.ofList_toList]

theorem plainBody_of_chunked {head : List (List Char)} (h : isChunked head = true)
    (body : ChunkedBody) : plainBody head body.bytes = .ok body.content := by
  rw [plainBody, if_pos h, chunkedBody_bytes]

theorem plainBody_of_not_chunked {head : List (List Char)} (h : ¬ isChunked head = true)
    (body : List UInt8) : plainBody head body = .ok body := by
  rw [plainBody, if_neg h]

theorem length_plainBody_le {head : List (List Char)} {body plain : List UInt8}
    (h : plainBody head body = .ok plain) : plain.length ≤ body.length := by
  rw [plainBody] at h
  split at h
  · split at h
    · rename_i bytes hbytes
      cases h
      exact length_chunkedBody_le hbytes
    · cases h
  · cases h
    exact Nat.le_refl _

section

variable {first : List UInt8} {more : List (List UInt8)} {status : Nat}

/-- Behind a head that is split off at its end the response is what the body holds. -/
theorem parse_of_splitHead {ending : LineEnd} {bytes body : List UInt8} {text : String}
    (hsplit : splitHead bytes = (joined ending first more, some body))
    (hfirst : first ≠ [] ∧ IsLine first) (hmore : ∀ line ∈ more, line ≠ [] ∧ IsLine line)
    (hstatus : statusOf (Utf8.decodeLossy first) = some status)
    (hbody : plainBody ((first :: more).map Utf8.decodeLossy) body =
      .ok (Utf8.encode text.toList)) :
    Message.parse bytes = .ok ⟨status, text⟩ := by
  have hlines := lines_joined ending hfirst hmore
  refine parse_eq_ok_iff.mpr ⟨_, _, hsplit, ?_, ?_⟩
  · rw [hlines]
    exact hstatus
  · rw [hlines]
    exact hbody

theorem splitHead_returnFeed (hfirst : IsLine first)
    (hmore : ∀ line ∈ more, line ≠ [] ∧ IsLine line) (rest : List UInt8) :
    splitHead (headBytes .returnFeed (first :: more) ++ rest) =
      (joined .returnFeed first more, some rest) := by
  have hsplit : splitAtMark [13, 10, 13, 10] (headBytes .returnFeed (first :: more) ++ rest) = _ :=
    splitAtMark_head .returnFeed hfirst hmore rest
  rw [splitHead, hsplit]

/-- Without a carriage return in the head the mark with carriage returns is looked for behind it. -/
theorem splitAtMark_returnFeed (hfirst : IsLine first)
    (hmore : ∀ line ∈ more, line ≠ [] ∧ IsLine line) (rest : List UInt8) :
    splitAtMark [13, 10, 13, 10] (headBytes .feed (first :: more) ++ rest) =
      (splitAtMark [13, 10, 13, 10] rest).map
        fun p => (headBytes .feed (first :: more) ++ p.1, p.2) := by
  refine splitAtMark_append (carriageReturn_not_mem_head ?_) rest
  intro line hline
  obtain rfl | hline := List.mem_cons.mp hline
  · exact hfirst
  · exact (hmore line hline).2

theorem splitHead_feed (hfirst : IsLine first) (hmore : ∀ line ∈ more, line ≠ [] ∧ IsLine line)
    {rest : List UInt8} (hrest : ¬ [13, 10, 13, 10] <:+: rest) :
    splitHead (headBytes .feed (first :: more) ++ rest) =
      (joined .feed first more, some rest) := by
  have hnone := (splitAtMark_eq_none_iff (by simp)).mpr hrest
  have hsplit : splitAtMark [10, 10] (headBytes .feed (first :: more) ++ rest) = _ :=
    splitAtMark_head .feed hfirst hmore rest
  rw [splitHead, splitAtMark_returnFeed hfirst hmore, hnone]
  simp only [Option.map_none, hsplit]

/-- With an empty line of carriage returns behind such a head, the body is only what follows that
line. -/
theorem length_lt_of_splitHead (hfirst : IsLine first)
    (hmore : ∀ line ∈ more, line ≠ [] ∧ IsLine line) {rest head body : List UInt8}
    (hrest : [13, 10, 13, 10] <:+: rest)
    (hsplit : splitHead (headBytes .feed (first :: more) ++ rest) = (head, some body)) :
    body.length < rest.length := by
  cases hmark : splitAtMark [13, 10, 13, 10] rest with
  | none => exact absurd hrest ((splitAtMark_eq_none_iff (by simp)).mp hmark)
  | some p =>
      obtain ⟨front, after⟩ := p
      rw [splitHead, splitAtMark_returnFeed hfirst hmore, hmark] at hsplit
      simp only [Option.map_some, Prod.mk.injEq, Option.some.injEq] at hsplit
      obtain ⟨-, rfl⟩ := hsplit
      rw [splitAtMark_eq_some hmark, List.length_append, List.length_append]
      simp only [List.length_cons]
      omega

end

/-! ### Lines with carriage returns -/

/-- A written response is read back, status and body: with a plain body if no header line declares
the chunked coding, and otherwise with every body in chunks that hold its bytes. -/
theorem parse_written_response (head : Head) (payload : String) :
    ((∀ line ∈ head.headers, ¬ DeclaresChunked line) →
      Message.parse (head.bytes .returnFeed ++ Utf8.encode payload.toList) =
        .ok ⟨head.status, payload⟩) ∧
    ((∃ line ∈ head.headers, DeclaresChunked line) →
      ∀ body : ChunkedBody, body.content = Utf8.encode payload.toList →
        Message.parse (head.bytes .returnFeed ++ body.bytes) = .ok ⟨head.status, payload⟩) := by
  have hfirst : Utf8.encode head.statusLine ≠ [] ∧ IsLine (Utf8.encode head.statusLine) :=
    ⟨encode_ne_nil head.statusLine_ne_nil, IsLine.encode head.statusLine_line⟩
  have hmore : ∀ line ∈ head.headers.map Utf8.encode, line ≠ [] ∧ IsLine line := by
    intro line hline
    obtain ⟨text, htext, rfl⟩ := List.mem_map.mp hline
    exact ⟨encode_ne_nil (head.headers_ne_nil text htext),
      IsLine.encode (head.headers_line text htext)⟩
  have hstatus : statusOf (Utf8.decodeLossy (Utf8.encode head.statusLine)) = some head.status := by
    rw [Utf8.decodeLossy_encode]
    exact head.statusOf_statusLine
  have htexts : (head.lines.map Utf8.encode).map Utf8.decodeLossy = head.lines := by
    rw [List.map_map]
    exact List.map_congr_left (fun line _ => Utf8.decodeLossy_encode line) |>.trans (List.map_id _)
  have hread : ∀ rest, plainBody head.lines rest = .ok (Utf8.encode payload.toList) →
      Message.parse (head.bytes .returnFeed ++ rest) = .ok ⟨head.status, payload⟩ := by
    intro rest hrest
    refine parse_of_splitHead (splitHead_returnFeed hfirst.2 hmore rest) hfirst hmore hstatus ?_
    rw [← hrest]
    exact congrArg (plainBody · rest) htexts
  constructor
  · intro hplain
    apply hread
    refine plainBody_of_not_chunked (fun hchunked => ?_) _
    obtain ⟨line, hline, hdeclares⟩ := (isChunked_iff _ _).mp hchunked
    exact hplain line hline hdeclares
  · intro hchunked body hcontent
    apply hread
    rw [← hcontent]
    exact plainBody_of_chunked ((isChunked_iff _ _).mpr hchunked) body

/-- A head that declares no chunks. -/
def plainHead : Head where
  version := "HTTP/1.1".toList
  status := 200
  reason := "OK".toList
  headers := ["Server: chunked".toList]
  version_ne_nil := by decide +kernel
  version_word := by simp; decide
  status_le := by decide +kernel
  reason_line := by decide +kernel
  headers_ne_nil := by decide +kernel
  headers_line := by decide +kernel

/-- A head whose second header line declares chunks, among other codings. -/
def chunkedHead : Head :=
  { plainHead with
    headers := ["Server: chunked".toList, "TRANSFER-ENCODING:gzip, Chunked".toList]
    headers_ne_nil := by decide +kernel
    headers_line := by decide +kernel }

/-- A letter of two bytes, with one byte in each of two chunks. -/
def splitLetter : ChunkedBody where
  chunks := [
    { data := [0xC3]
      line := ⟨"001".toList, " ;cut".toList.map (·.toNat.toUInt8), .returnFeed,
        ⟨2, by decide +kernel⟩, by decide +kernel, by simp⟩
      ending := .returnFeed
      data_ne_nil := List.cons_ne_nil _ _
      length_lt := by decide },
    { data := [0xA4]
      line := ⟨"1".toList, [], .returnFeed, ⟨0, by decide +kernel⟩, by decide, by simp⟩
      ending := .returnFeed
      data_ne_nil := List.cons_ne_nil _ _
      length_lt := by decide }]
  last := ⟨"0".toList, [], .returnFeed, ⟨0, by decide +kernel⟩, by decide, by simp⟩
  trailer := LineEnd.returnFeed.bytes

theorem parse_written_response_of_split_letter :
    (∀ line ∈ plainHead.headers, ¬ DeclaresChunked line) ∧
    Message.parse (plainHead.bytes .returnFeed ++ Utf8.encode "ä".toList) = .ok ⟨200, "ä"⟩ ∧
    (∃ line ∈ chunkedHead.headers, DeclaresChunked line) ∧
    splitLetter.content = Utf8.encode "ä".toList ∧
    Message.parse (chunkedHead.bytes .returnFeed ++ splitLetter.bytes) = .ok ⟨200, "ä"⟩ := by
  have hplain : ∀ line ∈ plainHead.headers, ¬ DeclaresChunked line := by
    intro line hline
    rw [List.mem_singleton.mp hline, ← saysChunked_iff]
    decide +kernel
  have hchunked : ∃ line ∈ chunkedHead.headers, DeclaresChunked line :=
    ⟨_, List.mem_cons_of_mem _ List.mem_cons_self, (saysChunked_iff _).mp (by decide +kernel)⟩
  have hcontent : splitLetter.content = Utf8.encode "ä".toList := by decide +kernel
  exact ⟨hplain, (parse_written_response plainHead "ä").1 hplain, hchunked, hcontent,
    (parse_written_response chunkedHead "ä").2 hchunked splitLetter hcontent⟩

/-! ### Lines without -/

/-- Behind a head whose lines end with line feeds alone, and which declares no chunks, a body is
read back exactly if it holds no empty line with carriage returns. -/
theorem parse_bare_head_iff {statusLine : List UInt8} {headers : List (List UInt8)} {status : Nat}
    (hstatus : statusOf (Utf8.decodeLossy statusLine) = some status) (hline : IsLine statusLine)
    (hheaders : ∀ line ∈ headers, line ≠ [] ∧ IsLine line)
    (hplain : ∀ line ∈ headers, ¬ DeclaresChunked (Utf8.decodeLossy line)) (body : String) :
    Message.parse (headBytes .feed (statusLine :: headers) ++ Utf8.encode body.toList) =
        .ok ⟨status, body⟩ ↔
      ¬ [13, 10, 13, 10] <:+: Utf8.encode body.toList := by
  constructor
  · intro h hmark
    obtain ⟨head, rest, hsplit, -, hbody⟩ := parse_eq_ok_iff.mp h
    have hlt := length_lt_of_splitHead hline hheaders hmark hsplit
    have hle := length_plainBody_le hbody
    exact absurd hle (Nat.not_le_of_lt hlt)
  · intro hmark
    have hne : statusLine ≠ [] := by
      rintro rfl
      cases hstatus
    refine parse_of_splitHead (splitHead_feed hline hheaders hmark) ⟨hne, hline⟩ hheaders hstatus ?_
    refine plainBody_of_not_chunked (fun hchunked => ?_) _
    obtain ⟨text, htext, hdeclares⟩ := (isChunked_iff _ _).mp hchunked
    obtain ⟨line, hmem, rfl⟩ := List.mem_map.mp htext
    exact hplain line hmem hdeclares

theorem parse_bare_head_iff_of_short_body :
    ¬ [13, 10, 13, 10] <:+: Utf8.encode "\x7b\x7d".toList ∧
    Message.parse (headBytes .feed [Utf8.encode "HTTP/1.1 200 OK".toList,
        Utf8.encode "A: b".toList] ++ Utf8.encode "\x7b\x7d".toList) =
      .ok ⟨200, "\x7b\x7d"⟩ := by
  have hmark : ¬ [13, 10, 13, 10] <:+: Utf8.encode "\x7b\x7d".toList := by decide +kernel
  have hplain : ∀ line ∈ [Utf8.encode "A: b".toList],
      ¬ DeclaresChunked (Utf8.decodeLossy line) := by
    intro line hline
    rw [List.mem_singleton.mp hline, ← saysChunked_iff]
    decide +kernel
  have hstatus : statusOf (Utf8.decodeLossy (Utf8.encode "HTTP/1.1 200 OK".toList)) = some 200 := by
    decide +kernel
  have hread := parse_bare_head_iff hstatus (by decide +kernel) (by decide +kernel) hplain
    "\x7b\x7d"
  exact ⟨hmark, hread.mpr hmark⟩

/-- An empty line behind a value of JSON is taken for the head's end: the head goes on over the
value, and nothing is left of the body. -/
theorem bare_head_ends_in_body :
    ¬ DeclaresChunked (Utf8.decodeLossy (Utf8.encode "A: b".toList)) ∧
    Message.parse (headBytes .feed [Utf8.encode "HTTP/1.1 200 OK".toList,
        Utf8.encode "A: b".toList] ++
      Utf8.encode "\x7b\"data\":\x7b\"op0\":1\x7d\x7d\r\n\r\n".toList) = .ok ⟨200, ""⟩ := by
  constructor
  · rw [← saysChunked_iff]
    decide +kernel
  · decide +kernel

end TableGraph.Http
