import Mathlib.Tactic.IntervalCases
import TableGraph.Text.Utf8

/-! # UTF-8, encoded and decoded

Bytes are read as a text exactly if they are its encoding, and in a reading with replacements a
byte of ASCII is a character of its own wherever it stands.

* A character takes the automaton from between characters back there and gives itself
  (`scanFrom_encodeChar`);
* the first item of well-formed bytes comes from the encoding of one character
  (`scan_eq_some_cons`), so that decoding inverts encoding (`decode?_eq_some_iff`);
* a byte of ASCII ends what is under way (`scanFrom_append_ascii`), and no character of ASCII comes
  out of other bytes (`mem_of_mem_decodeLossy`): the states inside a character are `State.Sound`. -/

namespace TableGraph.Text.Utf8

theorem toNat_toUInt8 {n : Nat} (h : n < 256) : n.toUInt8.toNat = n :=
  UInt8.toNat_ofNat_of_lt h

theorem scanFrom_cons (s : State) (b : UInt8) (rest : List UInt8) :
    scanFrom s (b :: rest) = (step s b.toNat).1 ++ scanFrom (step s b.toNat).2 rest := by
  cases s <;> rfl

/-! ### Steps -/

theorem step_ascii {n : Nat} (h : n < 0x80) : step .start n = ([some (Char.ofNat n)], .start) := by
  simp only [step, opened, lead, h, if_true]

theorem step_two {k : Nat} (hlow : 2 ≤ k) (hhigh : k < 32) :
    step .start (0xC0 + k) = ([], .inside k 0 0x80 0xBF) := by
  interval_cases k <;> rfl

theorem step_three {k : Nat} (h : k < 16) :
    step .start (0xE0 + k) = ([], .inside k 1 (if k = 0 then 0xA0 else 0x80)
      (if k = 0xD then 0x9F else 0xBF)) := by
  interval_cases k <;> rfl

theorem step_four {k : Nat} (h : k < 5) :
    step .start (0xF0 + k) = ([], .inside k 2 (if k = 0 then 0x90 else 0x80)
      (if k = 4 then 0x8F else 0xBF)) := by
  interval_cases k <;> rfl

/-- What a byte does between characters: it is one itself, or stands for nothing, or begins one of
two, three or four bytes. -/
theorem step_start_cases (n : Nat) :
    n < 0x80 ∧ step .start n = ([some (Char.ofNat n)], .start) ∨
    step .start n = ([none], .start) ∨
    (∃ k, n = 0xC0 + k ∧ 2 ≤ k ∧ k < 32 ∧ step .start n = ([], .inside k 0 0x80 0xBF)) ∨
    (∃ k, n = 0xE0 + k ∧ k < 16 ∧ step .start n = ([], .inside k 1
      (if k = 0 then 0xA0 else 0x80) (if k = 0xD then 0x9F else 0xBF))) ∨
    (∃ k, n = 0xF0 + k ∧ k < 5 ∧ step .start n = ([], .inside k 2
      (if k = 0 then 0x90 else 0x80) (if k = 4 then 0x8F else 0xBF))) := by
  by_cases hone : n < 0x80
  · exact .inl ⟨hone, step_ascii hone⟩
  by_cases hstray : n < 0xC2
  · exact .inr (.inl (by simp only [step, opened, lead, hone, hstray, if_false, if_true]))
  by_cases htwo : n < 0xE0
  · obtain ⟨k, rfl⟩ : ∃ k, n = 0xC0 + k := ⟨n - 0xC0, by omega⟩
    exact .inr (.inr (.inl ⟨k, rfl, by omega, by omega, step_two (by omega) (by omega)⟩))
  by_cases hthree : n < 0xF0
  · obtain ⟨k, rfl⟩ : ∃ k, n = 0xE0 + k := ⟨n - 0xE0, by omega⟩
    exact .inr (.inr (.inr (.inl ⟨k, rfl, by omega, step_three (by omega)⟩)))
  by_cases hfour : n < 0xF5
  · obtain ⟨k, rfl⟩ : ∃ k, n = 0xF0 + k := ⟨n - 0xF0, by omega⟩
    exact .inr (.inr (.inr (.inr ⟨k, rfl, by omega, step_four (by omega)⟩)))
  · refine .inr (.inl ?_)
    have hlead : lead n = (none, .start) := by
      unfold lead
      repeat rw [if_neg (by omega)]
    simp only [step, opened, hlead]

theorem step_last {bits low high k : Nat} (hlow : low ≤ 0x80 + k) (hhigh : 0x80 + k ≤ high) :
    step (.inside bits 0 low high) (0x80 + k) =
      ([some (Char.ofNat (bits * 64 + k))], .start) := by
  simp only [step, hlow, hhigh, and_self, if_true, Nat.add_sub_cancel_left]

theorem step_next {bits owed low high k : Nat} (hlow : low ≤ 0x80 + k) (hhigh : 0x80 + k ≤ high) :
    step (.inside bits (owed + 1) low high) (0x80 + k) =
      ([], .inside (bits * 64 + k) owed 0x80 0xBF) := by
  simp only [step, hlow, hhigh, and_self, if_true, Nat.add_sub_cancel_left]

/-! ### One character -/

theorem toNat_lt (c : Char) : c.toNat < 0xD800 ∨ 0xDFFF < c.toNat ∧ c.toNat < 0x110000 := c.valid

/-- The encoding of a character is that of the standard library. -/
theorem encodeChar_eq (c : Char) : encodeChar c = String.utf8EncodeChar c := by
  have hval : c.val.toNat = c.toNat := rfl
  have hbound := toNat_lt c
  have hbyte : ∀ m n : Nat, m = n → m.toUInt8 = UInt8.ofNat n := fun m n h => congrArg _ h
  simp only [encodeChar, String.utf8EncodeChar, hval]
  by_cases hone : c.toNat < 0x80
  · rw [if_pos hone, if_pos (Nat.le_of_lt_succ hone), hbyte _ _ rfl]
  rw [if_neg hone, if_neg (by omega : ¬ c.toNat ≤ 127)]
  by_cases htwo : c.toNat < 0x800
  · rw [if_pos htwo, if_pos (Nat.le_of_lt_succ htwo), hbyte _ (c.toNat / 64 % 32 + 192) (by omega),
      hbyte _ (c.toNat % 64 + 128) (by omega)]
  rw [if_neg htwo, if_neg (by omega : ¬ c.toNat ≤ 2047)]
  by_cases hthree : c.toNat < 0x10000
  · rw [if_pos hthree, if_pos (Nat.le_of_lt_succ hthree),
      hbyte _ (c.toNat / 4096 % 16 + 224) (by omega),
      hbyte _ (c.toNat / 64 % 64 + 128) (by omega), hbyte _ (c.toNat % 64 + 128) (by omega)]
  · rw [if_neg hthree, if_neg (by omega : ¬ c.toNat ≤ 65535),
      hbyte _ (c.toNat / 262144 % 8 + 240) (by omega),
      hbyte _ (c.toNat / 4096 % 64 + 128) (by omega),
      hbyte _ (c.toNat / 64 % 64 + 128) (by omega), hbyte _ (c.toNat % 64 + 128) (by omega)]

/-- The bytes of a character are read as that character, whatever follows them. -/
theorem scanFrom_encodeChar (c : Char) (rest : List UInt8) :
    scanFrom .start (encodeChar c ++ rest) = some c :: scanFrom .start rest := by
  have hbound := toNat_lt c
  have hofNat : ∀ n, n = c.toNat → Char.ofNat n = c := fun n h => h ▸ Char.ofNat_toNat c
  unfold encodeChar
  simp only
  split
  · rename_i h
    rw [List.singleton_append, scanFrom_cons, toNat_toUInt8 (by omega), step_ascii h,
      hofNat _ rfl, List.singleton_append]
  · split
    · rw [List.cons_append, scanFrom_cons, toNat_toUInt8 (by omega),
        step_two (by omega) (by omega), List.nil_append, List.singleton_append, scanFrom_cons,
        toNat_toUInt8 (by omega), step_last (by omega) (by omega), hofNat _ (by omega),
        List.singleton_append]
    · split
      · rw [List.cons_append, scanFrom_cons, toNat_toUInt8 (by omega),
          step_three (by omega), List.nil_append, List.cons_append, scanFrom_cons,
          toNat_toUInt8 (by omega), step_next (by split <;> omega) (by split <;> omega),
          List.nil_append, List.singleton_append, scanFrom_cons, toNat_toUInt8 (by omega),
          step_last (by omega) (by omega), hofNat _ (by omega), List.singleton_append]
      · rw [List.cons_append, scanFrom_cons, toNat_toUInt8 (by omega),
          step_four (by omega), List.nil_append, List.cons_append, scanFrom_cons,
          toNat_toUInt8 (by omega), step_next (by split <;> omega) (by split <;> omega),
          List.nil_append, List.cons_append, scanFrom_cons, toNat_toUInt8 (by omega),
          step_next (by omega) (by omega), List.nil_append, List.singleton_append, scanFrom_cons,
          toNat_toUInt8 (by omega), step_last (by omega) (by omega), hofNat _ (by omega),
          List.singleton_append]

/-! ### Texts -/

theorem scan_encode_append (text : List Char) (rest : List UInt8) :
    scan (encode text ++ rest) = text.map some ++ scan rest := by
  induction text with
  | nil => rfl
  | cons c text ih =>
      rw [encode, List.flatMap_cons, List.append_assoc, scan, scanFrom_encodeChar, List.map_cons,
        List.cons_append, ← ih]
      rfl

theorem decodeLossy_encode_append (text : List Char) (rest : List UInt8) :
    decodeLossy (encode text ++ rest) = text ++ decodeLossy rest := by
  rw [decodeLossy, scan_encode_append, List.map_append, List.map_map]
  exact congrArg (· ++ _) (List.map_id text)

theorem decodeLossy_encode (text : List Char) : decodeLossy (encode text) = text := by
  have h := decodeLossy_encode_append text []
  rwa [List.append_nil, show decodeLossy [] = [] from rfl, List.append_nil] at h

theorem mapM_id_eq_some_iff {items : List (Option Char)} {text : List Char} :
    items.mapM id = some text ↔ items = text.map some := by
  induction items generalizing text with
  | nil => cases text <;> simp
  | cons item items ih =>
      cases item with
      | none => cases text <;> simp [List.mapM_cons]
      | some c =>
          cases text with
          | nil => simp [List.mapM_cons, Option.bind_eq_some_iff]
          | cons d text =>
              simp only [List.mapM_cons, id, Option.pure_def, Option.bind_eq_bind,
                Option.bind_some, Option.bind_eq_some_iff, Option.some.injEq, List.cons.injEq,
                List.map_cons]
              constructor
              · rintro ⟨rest, hrest, rfl, rfl⟩
                exact ⟨rfl, ih.mp hrest⟩
              · rintro ⟨rfl, hrest⟩
                exact ⟨text, ih.mpr hrest, rfl, rfl⟩

theorem decode?_eq_some_iff_scan {bytes : List UInt8} {text : List Char} :
    decode? bytes = some text ↔ scan bytes = text.map some := mapM_id_eq_some_iff

/-! ### Bytes of a text that is read -/

theorem toNat_ofNat {n : Nat} (h : n < 0xD800 ∨ 0xDFFF < n ∧ n < 0x110000) :
    (Char.ofNat n).toNat = n := by
  have hvalid : n.isValidChar := h
  rw [Char.ofNat, dif_pos hvalid]
  rfl

theorem encodeChar_one {n : Nat} (h : n < 0x80) : encodeChar (Char.ofNat n) = [n.toUInt8] := by
  simp only [encodeChar, toNat_ofNat (by omega : n < 0xD800 ∨ _), h, if_true]

theorem encodeChar_two {k j : Nat} (hlow : 2 ≤ k) (hk : k < 32) (hj : j < 64) :
    encodeChar (Char.ofNat (k * 64 + j)) = [(0xC0 + k).toUInt8, (0x80 + j).toUInt8] := by
  have hn : (Char.ofNat (k * 64 + j)).toNat = k * 64 + j := toNat_ofNat (by omega)
  simp only [encodeChar, hn]
  rw [if_neg (by omega), if_pos (by omega), (by omega : (k * 64 + j) / 64 = k),
    (by omega : (k * 64 + j) % 64 = j)]

theorem encodeChar_three {k j i : Nat} (hk : k < 16) (hj : j < 64) (hi : i < 64)
    (hlow : k = 0 → 32 ≤ j) (hsurrogate : k = 0xD → j < 32) :
    encodeChar (Char.ofNat ((k * 64 + j) * 64 + i)) =
      [(0xE0 + k).toUInt8, (0x80 + j).toUInt8, (0x80 + i).toUInt8] := by
  have hn : (Char.ofNat ((k * 64 + j) * 64 + i)).toNat = (k * 64 + j) * 64 + i :=
    toNat_ofNat (by omega)
  simp only [encodeChar, hn]
  rw [if_neg (by omega), if_neg (by omega), if_pos (by omega),
    (by omega : ((k * 64 + j) * 64 + i) / 4096 = k),
    (by omega : ((k * 64 + j) * 64 + i) / 64 % 64 = j),
    (by omega : ((k * 64 + j) * 64 + i) % 64 = i)]

theorem encodeChar_four {k j i h : Nat} (hk : k < 5) (hj : j < 64) (hi : i < 64) (hh : h < 64)
    (hlow : k = 0 → 16 ≤ j) (hhigh : k = 4 → j < 16) :
    encodeChar (Char.ofNat (((k * 64 + j) * 64 + i) * 64 + h)) =
      [(0xF0 + k).toUInt8, (0x80 + j).toUInt8, (0x80 + i).toUInt8, (0x80 + h).toUInt8] := by
  have hn : (Char.ofNat (((k * 64 + j) * 64 + i) * 64 + h)).toNat =
      ((k * 64 + j) * 64 + i) * 64 + h := toNat_ofNat (by omega)
  simp only [encodeChar, hn]
  rw [if_neg (by omega), if_neg (by omega), if_neg (by omega),
    (by omega : (((k * 64 + j) * 64 + i) * 64 + h) / 262144 = k),
    (by omega : (((k * 64 + j) * 64 + i) * 64 + h) / 4096 % 64 = j),
    (by omega : (((k * 64 + j) * 64 + i) * 64 + h) / 64 % 64 = i),
    (by omega : (((k * 64 + j) * 64 + i) * 64 + h) % 64 = h)]

theorem eq_toUInt8 {b : UInt8} {n : Nat} (h : b.toNat = n) : b = n.toUInt8 := by
  rw [← h]
  exact UInt8.ofNat_toNat.symm

theorem scanFrom_inside_eq_some {bits owed low high : Nat} {bytes : List UInt8} {c : Char}
    {items : List (Option Char)} (hdue : 0x80 ≤ low)
    (h : scanFrom (.inside bits owed low high) bytes = some c :: items) :
    ∃ k rest, bytes = (0x80 + k).toUInt8 :: rest ∧ low ≤ 0x80 + k ∧ 0x80 + k ≤ high ∧
      (step (.inside bits owed low high) (0x80 + k)).1 ++
        scanFrom (step (.inside bits owed low high) (0x80 + k)).2 rest = some c :: items := by
  cases bytes with
  | nil => cases h
  | cons b rest =>
      rw [scanFrom_cons] at h
      by_cases hb : low ≤ b.toNat ∧ b.toNat ≤ high
      · have hk : b.toNat = 0x80 + (b.toNat - 0x80) := by omega
        rw [hk] at h
        exact ⟨b.toNat - 0x80, rest, by rw [← eq_toUInt8 hk], by omega, by omega, h⟩
      · simp only [step, hb, if_false] at h
        cases h

/-- The first item of well-formed bytes comes from its own encoding. -/
theorem scan_eq_some_cons {bytes : List UInt8} {c : Char} {items : List (Option Char)}
    (h : scan bytes = some c :: items) :
    ∃ rest, bytes = encodeChar c ++ rest ∧ scan rest = items := by
  cases bytes with
  | nil => cases h
  | cons b rest =>
      rw [scan, scanFrom_cons] at h
      obtain ⟨hone, hstep⟩ | hstep | ⟨k, hb, hlow, hhigh, hstep⟩ | ⟨k, hb, hhigh, hstep⟩ |
        ⟨k, hb, hhigh, hstep⟩ := step_start_cases b.toNat <;> rw [hstep] at h
      case inl =>
        rw [List.singleton_append, List.cons.injEq, Option.some.injEq] at h
        obtain ⟨rfl, hrest⟩ := h
        exact ⟨rest, by rw [encodeChar_one hone, ← eq_toUInt8 rfl, List.singleton_append], hrest⟩
      case inr.inl => cases h
      case inr.inr.inl =>
        obtain ⟨j, rest, rfl, hlow, hhigh, hj⟩ := scanFrom_inside_eq_some (Nat.le_refl _) h
        rw [step_last hlow hhigh, List.singleton_append, List.cons.injEq, Option.some.injEq] at hj
        obtain ⟨rfl, hrest⟩ := hj
        refine ⟨rest, ?_, hrest⟩
        rw [encodeChar_two (by omega) (by omega) (by omega), eq_toUInt8 hb]
        rfl
      case inr.inr.inr.inl =>
        obtain ⟨j, rest, rfl, hlow, hhigh, hj⟩ :=
          scanFrom_inside_eq_some (by split <;> omega) h
        rw [step_next hlow hhigh] at hj
        obtain ⟨i, rest, rfl, hlow', hhigh', hi⟩ := scanFrom_inside_eq_some (Nat.le_refl _) hj
        rw [step_last hlow' hhigh', List.singleton_append, List.cons.injEq, Option.some.injEq] at hi
        obtain ⟨rfl, hrest⟩ := hi
        refine ⟨rest, ?_, hrest⟩
        rw [encodeChar_three (by omega) (by split at hhigh <;> omega) (by omega)
          (by rintro rfl; exact Nat.le_of_add_le_add_left hlow)
          (by rintro rfl; exact Nat.lt_of_add_lt_add_left (Nat.lt_succ_of_le hhigh)), eq_toUInt8 hb]
        rfl
      case inr.inr.inr.inr =>
        obtain ⟨j, rest, rfl, hlow, hhigh, hj⟩ :=
          scanFrom_inside_eq_some (by split <;> omega) h
        rw [step_next hlow hhigh] at hj
        obtain ⟨i, rest, rfl, hlow', hhigh', hi⟩ := scanFrom_inside_eq_some (Nat.le_refl _) hj
        rw [step_next hlow' hhigh'] at hi
        obtain ⟨l, rest, rfl, hlow'', hhigh'', hl⟩ := scanFrom_inside_eq_some (Nat.le_refl _) hi
        rw [step_last hlow'' hhigh'', List.singleton_append, List.cons.injEq,
          Option.some.injEq] at hl
        obtain ⟨rfl, hrest⟩ := hl
        refine ⟨rest, ?_, hrest⟩
        rw [encodeChar_four (by omega) (by split at hhigh <;> omega) (by omega) (by omega)
          (by rintro rfl; exact Nat.le_of_add_le_add_left hlow)
          (by rintro rfl; exact Nat.lt_of_add_lt_add_left (Nat.lt_succ_of_le hhigh)), eq_toUInt8 hb]
        rfl

theorem scanFrom_inside_ne_nil (bytes : List UInt8) :
    ∀ bits owed low high, scanFrom (.inside bits owed low high) bytes ≠ [] := by
  induction bytes with
  | nil => intros; exact List.cons_ne_nil _ _
  | cons b rest ih =>
      intro bits owed low high
      rw [scanFrom_cons]
      by_cases hb : low ≤ b.toNat ∧ b.toNat ≤ high
      · cases owed with
        | zero => simp [step, hb]
        | succ owed => simpa [step, hb] using ih _ _ _ _
      · simp [step, hb]

theorem scan_ne_nil (b : UInt8) (rest : List UInt8) : scan (b :: rest) ≠ [] := by
  rw [scan, scanFrom_cons, step, opened]
  rcases lead b.toNat with ⟨_ | c, _ | ⟨bits, owed, low, high⟩⟩
  · exact List.cons_ne_nil _ _
  · exact scanFrom_inside_ne_nil rest bits owed low high
  · exact List.cons_ne_nil _ _
  · exact List.cons_ne_nil _ _

theorem scan_eq_map_some {bytes : List UInt8} {text : List Char} (h : scan bytes = text.map some) :
    bytes = encode text := by
  induction text generalizing bytes with
  | nil =>
      cases bytes with
      | nil => rfl
      | cons b rest => exact absurd h (scan_ne_nil b rest)
  | cons c text ih =>
      obtain ⟨rest, rfl, hrest⟩ := scan_eq_some_cons h
      rw [ih hrest, encode, encode, List.flatMap_cons]

/-- Bytes are read as a text if they are its encoding, and only then. -/
theorem decode?_eq_some_iff {bytes : List UInt8} {text : List Char} :
    decode? bytes = some text ↔ bytes = encode text := by
  rw [decode?_eq_some_iff_scan]
  refine ⟨scan_eq_map_some, ?_⟩
  rintro rfl
  have h := scan_encode_append text []
  rwa [List.append_nil, show scan [] = [] from rfl, List.append_nil] at h

theorem decode?_encode (text : List Char) : decode? (encode text) = some text :=
  decode?_eq_some_iff.mpr rfl

theorem encode_eq_utf8Encode (text : List Char) : (encode text).toByteArray = text.utf8Encode := by
  rw [encode, funext encodeChar_eq]
  rfl

/-- The bytes that are read are those that the standard library calls valid. -/
theorem isSome_decode?_iff (bytes : List UInt8) :
    (decode? bytes).isSome ↔ bytes.toByteArray.IsValidUTF8 := by
  constructor
  · intro h
    obtain ⟨text, htext⟩ := Option.isSome_iff_exists.mp h
    rw [decode?_eq_some_iff.mp htext]
    exact ⟨text, encode_eq_utf8Encode text⟩
  · rintro ⟨text, htext⟩
    rw [← encode_eq_utf8Encode] at htext
    have hdata := congrArg (fun b : ByteArray => b.data.toList) htext
    simp only [List.data_toByteArray] at hdata
    rw [hdata, decode?_encode]
    rfl

/-! ### ASCII in any bytes -/

/-- What holds of a state inside a character: the next byte is none of ASCII, and the number that
comes out is not of ASCII either. Two more bytes make any number from 2 on large enough. -/
def State.Sound : State → Prop
  | .start => True
  | .inside bits owed low _ =>
    0x80 ≤ low ∧ (if owed = 0 then 0x80 else 2) ≤ bits * 64 + (low - 0x80)

/-- A character that is not of ASCII, unless it is the replacement of an impossible one. -/
theorem ofNat_beyond_ascii {n : Nat} (h : 0x80 ≤ n) :
    (Char.ofNat n).toNat = 0 ∨ 0x80 ≤ (Char.ofNat n).toNat := by
  by_cases hvalid : n < 0xD800 ∨ 0xDFFF < n ∧ n < 0x110000
  · exact .inr ((toNat_ofNat hvalid).symm ▸ h)
  · have hnot : ¬ n.isValidChar := hvalid
    exact .inl (by simp [Char.ofNat, hnot])

/-- Between characters a byte leads to a sound state, and the only character it can give is
itself. -/
theorem step_start_spec (n : Nat) :
    (step .start n).2.Sound ∧
      ∀ c, some c ∈ (step .start n).1 → n < 0x80 ∧ c = Char.ofNat n := by
  obtain ⟨hone, hstep⟩ | hstep | ⟨k, -, hlow, -, hstep⟩ | ⟨k, -, -, hstep⟩ | ⟨k, -, -, hstep⟩ :=
    step_start_cases n <;> rw [hstep]
  case inl => exact ⟨trivial, fun c hc => ⟨hone, by simpa using hc⟩⟩
  case inr.inl => exact ⟨trivial, fun c hc => by simp at hc⟩
  case inr.inr.inl =>
    exact ⟨⟨Nat.le_refl _, by rw [if_pos rfl]; omega⟩, fun c hc => absurd hc List.not_mem_nil⟩
  all_goals
    refine ⟨⟨by split <;> omega, ?_⟩, fun c hc => absurd hc List.not_mem_nil⟩
    rw [if_neg (by omega)]
    split <;> omega

/-- A step keeps the state sound, and an ASCII character that it gives is the byte it reads. -/
theorem step_spec {s : State} (hs : s.Sound) (n : Nat) :
    (step s n).2.Sound ∧
      ∀ c, some c ∈ (step s n).1 → 0 < c.toNat → c.toNat < 0x80 → n < 0x80 ∧ c = Char.ofNat n := by
  cases s with
  | start => exact ⟨(step_start_spec n).1, fun c hc _ _ => (step_start_spec n).2 c hc⟩
  | inside bits owed low high =>
      obtain ⟨hlow, hlarge⟩ := hs
      by_cases hn : low ≤ n ∧ n ≤ high
      · obtain ⟨k, rfl⟩ : ∃ k, n = 0x80 + k := ⟨n - 0x80, by omega⟩
        cases owed with
        | zero =>
            rw [step_last hn.1 hn.2]
            rw [if_pos rfl] at hlarge
            refine ⟨trivial, fun c hc hpos hascii => ?_⟩
            obtain rfl : c = Char.ofNat (bits * 64 + k) := by simpa using hc
            obtain h | h := ofNat_beyond_ascii (n := bits * 64 + k) (by omega) <;> omega
        | succ owed =>
            rw [step_next hn.1 hn.2]
            rw [if_neg (by omega)] at hlarge
            refine ⟨⟨Nat.le_refl _, ?_⟩, fun c hc => absurd hc List.not_mem_nil⟩
            split <;> omega
      · have hstep : step (.inside bits owed low high) n =
            (none :: (step .start n).1, (step .start n).2) := by
          simp only [step, hn, if_false]
        rw [hstep]
        refine ⟨(step_start_spec n).1, fun c hc _ _ => (step_start_spec n).2 c ?_⟩
        simpa using hc

/-- A byte of ASCII is a character of its own, wherever it stands. -/
theorem scanFrom_append_ascii {b : UInt8} (hb : b.toNat < 0x80) (front rest : List UInt8) :
    ∀ s : State, s.Sound → scanFrom s (front ++ b :: rest) =
      scanFrom s front ++ some (Char.ofNat b.toNat) :: scanFrom .start rest := by
  induction front with
  | nil =>
      rintro (_ | ⟨bits, owed, low, high⟩) hs
      · rw [List.nil_append, scanFrom_cons, step_ascii hb]
        rfl
      · have hout : ¬ (low ≤ b.toNat ∧ b.toNat ≤ high) := by
          have := hs.1
          omega
        have hstep : step (.inside bits owed low high) b.toNat =
            (none :: (step .start b.toNat).1, (step .start b.toNat).2) := by
          simp only [step, hout, if_false]
        rw [List.nil_append, scanFrom_cons, hstep, step_ascii hb]
        rfl
  | cons a front ih =>
      intro s hs
      rw [List.cons_append, scanFrom_cons, scanFrom_cons, ih _ (step_spec hs _).1,
        List.append_assoc]

theorem decodeLossy_append_ascii {b : UInt8} (hb : b.toNat < 0x80) (front rest : List UInt8) :
    decodeLossy (front ++ b :: rest) =
      decodeLossy front ++ Char.ofNat b.toNat :: decodeLossy rest := by
  rw [decodeLossy, scan, scanFrom_append_ascii hb front rest .start trivial, List.map_append,
    List.map_cons]
  rfl

theorem mem_of_mem_encode {text : List Char} {b : UInt8} (hb : b.toNat < 0x80)
    (h : b ∈ encode text) : Char.ofNat b.toNat ∈ text := by
  obtain ⟨front, rest, hsplit⟩ := List.append_of_mem h
  have hread := decodeLossy_encode text
  rw [hsplit, decodeLossy_append_ascii hb] at hread
  rw [← hread]
  exact List.mem_append_right _ List.mem_cons_self

theorem mem_of_some_mem_scanFrom {c : Char} (hpos : 0 < c.toNat) (hascii : c.toNat < 0x80)
    (bytes : List UInt8) :
    ∀ s : State, s.Sound → some c ∈ scanFrom s bytes → c.toNat.toUInt8 ∈ bytes := by
  induction bytes with
  | nil =>
      rintro (_ | ⟨bits, owed, low, high⟩) _ hc
      · cases hc
      · simp [scanFrom] at hc
  | cons b rest ih =>
      intro s hs hc
      rw [scanFrom_cons, List.mem_append] at hc
      obtain hc | hc := hc
      · obtain ⟨hb, rfl⟩ := (step_spec hs b.toNat).2 c hc hpos hascii
        rw [toNat_ofNat (.inl (by omega)), ← eq_toUInt8 rfl]
        exact List.mem_cons_self
      · exact List.mem_cons_of_mem _ (ih _ (step_spec hs _).1 hc)

/-- An ASCII character of a decoding stands in the bytes. -/
theorem mem_of_mem_decodeLossy {c : Char} {bytes : List UInt8} (hpos : 0 < c.toNat)
    (hascii : c.toNat < 0x80) (h : c ∈ decodeLossy bytes) : c.toNat.toUInt8 ∈ bytes := by
  obtain ⟨item, hitem, hc⟩ := List.mem_map.mp h
  cases item with
  | none =>
      -- the replacement character is none of ASCII
      obtain rfl : '\uFFFD' = c := hc
      exact absurd hascii (by decide)
  | some d =>
      obtain rfl : d = c := hc
      exact mem_of_some_mem_scanFrom hpos hascii bytes .start trivial hitem

end TableGraph.Text.Utf8
