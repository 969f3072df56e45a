import TableGraph.GraphQL.Reader

/-! # Tokens of texts in a row

How the tokens of a text follow from those of its parts.

* `Lexes s ts`: the text `s` has the tokens `ts` if no name goes on after it; a name is such a text
  (`lexes_name`);
* `Cuts s ts`: the text has these tokens whatever comes after it; texts of signs are such
  (`cuts_of_signs`);
* a text that cuts may stand before anything (`Cuts.append_lexes`), and one that ends in a name
  before a text that starts with a sign (`Lexes.append`). -/

namespace TableGraph.GraphQL

/-! ### Words -/

/-- No name goes on here. -/
def EndsWord (cs : List Char) : Prop := ∀ c, cs.head? = some c → isNamePart c = false

theorem endsWord_nil : EndsWord [] := nofun

theorem EndsWord.append {as bs : List Char} (ha : EndsWord as) (hb : EndsWord bs) :
    EndsWord (as ++ bs) := by
  cases as with
  | nil => exact hb
  | cons a as => exact ha

theorem EndsWord.append_of_ne_nil {as bs : List Char} (ha : EndsWord as) (hne : as ≠ []) :
    EndsWord (as ++ bs) := by
  cases as with
  | nil => exact absurd rfl hne
  | cons a as => exact ha

theorem lexFrom_word (word rest : List Char) {more : List Char} (h : more.all isNamePart = true) :
    lexFrom word (more ++ rest) = lexFrom (word ++ more) rest := by
  induction more generalizing word with
  | nil => rw [List.nil_append, List.append_nil]
  | cons c more ih =>
      rw [List.all_cons, Bool.and_eq_true] at h
      rw [List.cons_append, lexFrom, if_pos h.1, ih _ h.2, List.append_assoc, List.singleton_append]

theorem wordTokens?_nil : wordTokens? [] = some [] := rfl

/-- A sign ends the word before it. -/
theorem lexFrom_sign (word rest : List Char) {c : Char} (hc : isNamePart c = false) :
    lexFrom word (c :: rest) = (wordTokens? word).bind fun first =>
      (signTokens? c).bind fun sign => (lexFrom [] rest).map (first ++ sign ++ ·) := by
  rw [lexFrom, if_neg (Bool.eq_false_iff.mp hc)]
  cases wordTokens? word with
  | none => rfl
  | some first =>
      cases signTokens? c with
      | none => rfl
      | some sign => cases lexFrom [] rest <;> rfl

/-- A word ends where no name goes on. -/
theorem lexFrom_of_endsWord {word rest : List Char} {ts : List Token}
    (hword : wordTokens? word = some ts) (hrest : EndsWord rest) :
    lexFrom word rest = (lexFrom [] rest).map (ts ++ ·) := by
  cases rest with
  | nil => simp only [lexFrom, hword, wordTokens?_nil, Option.map_some, List.append_nil]
  | cons c rest =>
      have hc : isNamePart c = false := hrest c rfl
      rw [lexFrom_sign word rest hc, lexFrom_sign [] rest hc, hword, wordTokens?_nil]
      simp only [Option.bind_some]
      cases signTokens? c with
      | none => rfl
      | some sign => cases lexFrom [] rest <;> simp

/-! ### Texts -/

/-- The tokens of a text after which no name goes on. -/
def Lexes (s : String) (ts : List Token) : Prop :=
  ∀ rest, EndsWord rest → lexFrom [] (s.toList ++ rest) = (lexFrom [] rest).map (ts ++ ·)

/-- The tokens of a text whatever comes after it. -/
def Cuts (s : String) (ts : List Token) : Prop :=
  ∀ rest, lexFrom [] (s.toList ++ rest) = (lexFrom [] rest).map (ts ++ ·)

/-- The text is empty or starts with a sign. -/
def Detached (s : String) : Prop := EndsWord s.toList

section
variable {a b : String} {as bs : List Token}

theorem lex?_of_lexes (h : Lexes a as) : lex? a = some as := by
  have hnil := h [] endsWord_nil
  rw [List.append_nil] at hnil
  simpa only [lex?, lexFrom, wordTokens?_nil, Option.map_some, List.append_nil] using hnil

theorem Cuts.lexes (h : Cuts a as) : Lexes a as := fun rest _ => h rest

theorem map_append_append (x : Option (List Token)) (as bs : List Token) :
    (x.map (bs ++ ·)).map (as ++ ·) = x.map (as ++ bs ++ ·) := by
  cases x <;> simp

theorem Cuts.append (ha : Cuts a as) (hb : Cuts b bs) : Cuts (a ++ b) (as ++ bs) := by
  intro rest
  rw [String.toList_append, List.append_assoc, ha, hb, map_append_append]

theorem Cuts.append_lexes (ha : Cuts a as) (hb : Lexes b bs) : Lexes (a ++ b) (as ++ bs) := by
  intro rest hrest
  rw [String.toList_append, List.append_assoc, ha, hb rest hrest, map_append_append]

theorem Lexes.append (ha : Lexes a as) (hb : Lexes b bs) (hd : Detached b) :
    Lexes (a ++ b) (as ++ bs) := by
  intro rest hrest
  rw [String.toList_append, List.append_assoc, ha _ (EndsWord.append hd hrest), hb rest hrest,
    map_append_append]

theorem Lexes.append_cuts (ha : Lexes a as) (hb : Cuts b bs) (hd : Detached b) (hne : b ≠ "") :
    Cuts (a ++ b) (as ++ bs) := by
  intro rest
  have hne' : b.toList ≠ [] := fun h => hne (String.toList_inj.mp h)
  rw [String.toList_append, List.append_assoc, ha _ (EndsWord.append_of_ne_nil hd hne'), hb,
    map_append_append]

theorem detached_append (ha : Detached a) (hne : a ≠ "") : Detached (a ++ b) := by
  unfold Detached
  rw [String.toList_append]
  exact EndsWord.append_of_ne_nil ha fun h => hne (String.toList_inj.mp h)

end

/-! ### Signs and names -/

/-- The tokens of characters that are no parts of names. -/
def signs? : List Char → Option (List Token)
  | [] => some []
  | c :: rest =>
    if isNamePart c then none
    else do
      let first ← signTokens? c
      let more ← signs? rest
      pure (first ++ more)

theorem lexFrom_signs {cs rest : List Char} {ts : List Token} (h : signs? cs = some ts) :
    lexFrom [] (cs ++ rest) = (lexFrom [] rest).map (ts ++ ·) := by
  induction cs generalizing ts with
  | nil =>
      cases h
      cases hx : lexFrom [] rest <;> simp [hx]
  | cons c cs ih =>
      unfold signs? at h
      split at h
      · cases h
      · rename_i hc
        cases hs : signTokens? c with
        | none => simp [hs] at h
        | some first =>
            cases hm : signs? cs with
            | none => simp [hs, hm] at h
            | some more =>
                simp only [hs, hm, Option.bind_eq_bind, Option.bind_some] at h
                cases h
                rw [List.cons_append, lexFrom_sign [] _ (Bool.eq_false_iff.mpr hc), ih hm, hs,
                  wordTokens?_nil]
                cases lexFrom [] rest <;> simp

theorem cuts_of_signs {s : String} {ts : List Token} (h : signs? s.toList = some ts) : Cuts s ts :=
  fun _ => lexFrom_signs h

theorem detached_of_signs {s : String} {ts : List Token} (h : signs? s.toList = some ts) :
    Detached s := by
  intro c hc
  cases hs : s.toList with
  | nil => simp [hs] at hc
  | cons d rest =>
      rw [hs] at hc h
      cases hc
      unfold signs? at h
      split at h
      · cases h
      · rename_i hd
        exact Bool.eq_false_iff.mpr hd

theorem isNamePart_of_isNameStart {c : Char} (h : isNameStart c = true) : isNamePart c = true := by
  unfold isNameStart at h
  unfold isNamePart Char.isAlphanum
  rw [Bool.or_eq_true] at h ⊢
  rw [Bool.or_eq_true]
  exact h.imp .inl id

theorem isName_iff {s : String} :
    isName s = true ↔ ∃ c rest, s.toList = c :: rest ∧ isNameStart c = true ∧
      rest.all isNamePart = true := by
  unfold isName
  cases s.toList with
  | nil => simp
  | cons c rest =>
      simp only [Bool.and_eq_true, List.cons.injEq]
      exact ⟨fun h => ⟨c, rest, ⟨rfl, rfl⟩, h⟩, fun ⟨_, _, ⟨hc, hrest⟩, h⟩ => hc ▸ hrest ▸ h⟩

theorem lexes_name {s : String} (h : isName s = true) : Lexes s [.name s] := by
  intro rest hrest
  obtain ⟨c, more, hs, hc, hmore⟩ := isName_iff.mp h
  have hall : s.toList.all isNamePart = true := by
    rw [hs, List.all_cons, isNamePart_of_isNameStart hc, hmore]
    rfl
  have hword : wordTokens? s.toList = some [.name s] := by
    rw [← String.ofList_toList (s := s), String.toList_ofList, hs]
    simp [wordTokens?, hc]
  rw [lexFrom_word [] rest hall, List.nil_append]
  exact lexFrom_of_endsWord hword hrest

end TableGraph.GraphQL
