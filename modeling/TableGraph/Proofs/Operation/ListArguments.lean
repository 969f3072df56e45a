import Mathlib.Data.List.TakeWhile
import TableGraph.ArrayLiteral
import TableGraph.FunctionArgs

/-! # Lists as arguments of functions

What a function gets for a list of texts.

* An item that is read is no longer than its text in the literal, and as long only if it is plain
  and stands there as it is (`length_readItem`); so a literal that is no longer than its items and
  the signs around them holds plain items only (`length_readItems`);
* plain items are read back from the literal (`readItems_plain`);
* lists of texts are written without quotes.  So a list is read back exactly if all its texts are
  plain, and two lists have one literal exactly if they are the same once their texts are cut at
  commas (`list_argument_read_iff`). -/

namespace TableGraph

namespace ArrayLiteral

/-! ### Lengths -/

theorem length_quoted {escaped : Bool} {s item rest : List Char}
    (h : quoted escaped s = some (item, rest)) : item.length + 1 + rest.length ≤ s.length := by
  induction s generalizing escaped item with
  | nil => cases h
  | cons c s ih =>
      have hkept (hs : (quoted false s).map (fun p => (c :: p.1, p.2)) = some (item, rest)) :
          item.length + 1 + rest.length ≤ s.length + 1 := by
        obtain ⟨p, hread, hp⟩ := Option.map_eq_some_iff.mp hs
        cases hp
        have := ih hread
        simp only [List.length_cons]
        omega
      rw [List.length_cons]
      unfold quoted at h
      split at h
      · exact hkept h
      · split at h
        · have := ih h
          omega
        · split at h
          · cases h
            simp only [List.length_nil]
            omega
          · exact hkept h

/-- The characters stand for themselves. -/
def AllPlain (ms : List Mark) : Prop := ∀ m ∈ ms, m.escaped = false ∧ isSign m.char = false

/-- Characters without quotes take up as much room as there is of them only if none has a backslash
before it. -/
theorem length_marks {escaped : Bool} {s rest : List Char} {ms : List Mark}
    (h : marks escaped s = some (ms, rest)) :
    ms.length + rest.length ≤ s.length ∧
      (escaped = false → s.length ≤ ms.length + rest.length → AllPlain ms) := by
  induction s generalizing escaped ms with
  | nil => cases h
  | cons c s ih =>
      have hkept {kept : Bool}
          (hs : (marks false s).map (fun p => (⟨c, kept⟩ :: p.1, p.2)) = some (ms, rest)) :
          ms.length + rest.length ≤ s.length + 1 ∧ (kept = false → isSign c = false →
            s.length + 1 ≤ ms.length + rest.length → AllPlain ms) := by
        obtain ⟨p, hread, hp⟩ := Option.map_eq_some_iff.mp hs
        cases hp
        obtain ⟨hle, hplain⟩ := ih hread
        simp only [List.length_cons]
        exact ⟨by omega, fun hk hc hlen =>
          List.forall_mem_cons.mpr ⟨⟨hk, hc⟩, hplain rfl (by omega)⟩⟩
      rw [List.length_cons]
      unfold marks at h
      split at h
      · rename_i hescaped
        exact ⟨(hkept h).1, fun hnot => absurd (hescaped.symm.trans hnot) nofun⟩
      · split at h
        · -- A backslash is read, and what follows has no room for it.
          have := (ih h).1
          exact ⟨by omega, fun _ hlen => by omega⟩
        · split at h
          · cases h
            exact ⟨by simp, fun _ _ => List.forall_mem_nil _⟩
          · split at h
            · cases h
            · rename_i hsign
              obtain ⟨hle, hplain⟩ := hkept h
              exact ⟨hle, fun _ => hplain rfl (eq_false_of_ne_true hsign)⟩

/-- What loses nothing at its front has a head that stays. -/
theorem head_of_length_dropWhile {α : Type} {p : α → Bool} {l : List α}
    (h : l.length ≤ (l.dropWhile p).length) : l.dropWhile p = l ∧ ∀ a ∈ l.head?, p a = false := by
  have heq : l.dropWhile p = l := (List.dropWhile_suffix p).eq_of_length_le h
  refine ⟨heq, fun a ha => ?_⟩
  have hhead := List.head?_dropWhile_not p l
  rw [heq, Option.mem_def.mp ha] at hhead
  exact hhead

theorem length_trim_le (ms : List Mark) : (trim ms).length ≤ ms.length := by
  have hback := List.length_dropWhile_le Mark.isBlank (ms.dropWhile Mark.isBlank).reverse
  have hfront := List.length_dropWhile_le Mark.isBlank ms
  rw [List.length_reverse] at hback
  unfold trim
  rw [List.length_reverse]
  omega

/-- Characters that lose nothing have no blanks around them. -/
theorem trim_of_length {ms : List Mark} (h : ms.length ≤ (trim ms).length) :
    trim ms = ms ∧ (∀ m ∈ ms.head?, m.isBlank = false) ∧ ∀ m ∈ ms.getLast?, m.isBlank = false := by
  have hback := List.length_dropWhile_le Mark.isBlank (ms.dropWhile Mark.isBlank).reverse
  unfold trim at h ⊢
  rw [List.length_reverse] at h hback
  obtain ⟨hfront, hhead⟩ := head_of_length_dropWhile (h.trans hback)
  rw [hfront] at h ⊢
  obtain ⟨hrear, hlast⟩ := head_of_length_dropWhile (by rwa [List.length_reverse])
  rw [hrear, List.reverse_reverse]
  rw [List.head?_reverse] at hlast
  exact ⟨rfl, hhead, hlast⟩

theorem length_bare {ms : List Mark} {item : List Char} (h : bare ms = some (some item)) :
    item.length ≤ ms.length ∧ (ms.length ≤ item.length → AllPlain ms → IsPlain item) := by
  unfold bare at h
  simp only at h
  split at h
  · cases h
  · split at h
    · cases h
    · rename_i hne hnull
      cases h
      rw [List.length_map]
      refine ⟨length_trim_le ms, fun hlen hplain => ?_⟩
      obtain ⟨htrim, hhead, hlast⟩ := trim_of_length hlen
      rw [htrim] at hne hnull ⊢
      have hall : (ms.all fun m => !m.escaped) = true :=
        List.all_eq_true.mpr fun m hm => by rw [(hplain m hm).1]; rfl
      have hblank : ∀ m ∈ ms, m.isBlank = false → isBlank m.char = false := by
        intro m hm h
        rwa [Mark.isBlank, (hplain m hm).1, Bool.not_false, Bool.true_and] at h
      rw [hall, Bool.true_and] at hnull
      refine ⟨by simpa using hne, ?_, ?_, ?_, eq_false_of_ne_true hnull⟩
      · exact List.forall_mem_map.mpr fun m hm => (hplain m hm).2
      · rw [List.head?_map]
        intro c hc
        obtain ⟨m, hm, rfl⟩ := Option.map_eq_some_iff.mp hc
        exact hblank m (List.mem_of_mem_head? hm) (hhead m hm)
      · rw [List.getLast?_map]
        intro c hc
        obtain ⟨m, hm, rfl⟩ := Option.map_eq_some_iff.mp hc
        exact hblank m (List.mem_of_mem_getLast? hm) (hlast m hm)

/-- An item is no longer than its text, and as long only if it is plain. -/
theorem length_readItem {s item rest : List Char} (h : readItem s = some (some item, rest)) :
    item.length + rest.length ≤ s.length ∧
      (s.length ≤ item.length + rest.length → IsPlain item) := by
  have hfront := List.length_dropWhile_le isBlank s
  unfold readItem at h
  split at h
  · rename_i after hs
    obtain ⟨p, hquoted, hp⟩ := Option.map_eq_some_iff.mp h
    cases hp
    have hlen := length_quoted hquoted
    have hend := List.length_dropWhile_le isBlank p.2
    rw [hs, List.length_cons] at hfront
    -- The quotes take up room of their own.
    exact ⟨by omega, fun hle => by omega⟩
  · obtain ⟨p, hmarks, h⟩ := Option.bind_eq_some_iff.mp h
    obtain ⟨text, hbare, hp⟩ := Option.map_eq_some_iff.mp h
    cases hp
    obtain ⟨hle, hall⟩ := length_marks hmarks
    obtain ⟨hle', hplain⟩ := length_bare hbare
    exact ⟨by omega, fun hlen => hplain (by omega) (hall rfl (by omega))⟩

/-- Items with a sign behind each are no longer than their text, and as long only if all are
plain. -/
theorem length_readItems {fuel : Nat} {s rest : List Char} {items : List (List Char)}
    (h : readItems fuel s = some (items.map some, rest)) :
    (items.flatMap (· ++ [','])).length + rest.length ≤ s.length ∧
      (s.length ≤ (items.flatMap (· ++ [','])).length + rest.length →
        ∀ item ∈ items, IsPlain item) := by
  induction fuel generalizing s items with
  | zero => cases h
  | succ fuel ih =>
      unfold readItems at h
      split at h
      · cases h
      · rename_i first after hfirst
        obtain ⟨⟨more, last⟩, hmore, hp⟩ := Option.map_eq_some_iff.mp h
        obtain ⟨hitems, rfl⟩ := Prod.mk.inj hp
        cases items with
        | nil => cases hitems
        | cons item items =>
            obtain ⟨rfl, rfl⟩ := List.cons.inj hitems
            obtain ⟨hle, hplain⟩ := length_readItem hfirst
            obtain ⟨hle', hplain'⟩ := ih hmore
            rw [List.length_cons] at hle hplain
            rw [List.flatMap_cons, List.length_append, List.length_append, List.length_singleton]
            exact ⟨by omega, fun hlen => List.forall_mem_cons.mpr
              ⟨hplain (by omega), hplain' (by omega)⟩⟩
      · rename_i last after hlast
        obtain ⟨hitems, rfl⟩ := Prod.mk.inj (Option.some.inj h)
        cases items with
        | nil => cases hitems
        | cons item items =>
            obtain ⟨rfl, hnil⟩ := List.cons.inj hitems
            cases List.map_eq_nil_iff.mp hnil.symm
            obtain ⟨hle, hplain⟩ := length_readItem hlast
            rw [List.length_cons] at hle hplain
            rw [List.flatMap_singleton, List.length_append, List.length_singleton]
            exact ⟨by omega, fun hlen => List.forall_mem_singleton.mpr (hplain (by omega))⟩
      · cases h

/-! ### Plain items -/

theorem isSign_eq_false_iff {c : Char} : isSign c = false ↔
    c ≠ ',' ∧ c ≠ '\x7b' ∧ c ≠ '\x7d' ∧ c ≠ '"' ∧ c ≠ '\\' := by
  simp [isSign, and_assoc]

theorem dropWhile_of_head {α : Type} {p : α → Bool} {l : List α}
    (h : ∀ a ∈ l.head?, p a = false) : l.dropWhile p = l := by
  cases l with
  | nil => rfl
  | cons a rest => exact List.dropWhile_cons_of_neg (by simpa using h a rfl)

theorem marks_plain {item rest : List Char} {sign : Char} (h : ∀ c ∈ item, isSign c = false)
    (hsign : sign = ',' ∨ sign = '\x7d') :
    marks false (item ++ sign :: rest) = some (item.map (⟨·, false⟩), sign :: rest) := by
  induction item with
  | nil =>
      have hslash : sign ≠ '\\' := by rcases hsign with rfl | rfl <;> decide
      simp [marks, hslash, hsign]
  | cons c item ih =>
      obtain ⟨hc, hitem⟩ := List.forall_mem_cons.mp h
      obtain ⟨hcomma, -, hbrace, -, hslash⟩ := isSign_eq_false_iff.mp hc
      simp [marks, hslash, hcomma, hbrace, hc, ih hitem]

theorem bare_plain {item : List Char} (h : IsPlain item) :
    bare (item.map (⟨·, false⟩)) = some (some item) := by
  have hblank (c : Char) : Mark.isBlank ⟨c, false⟩ = isBlank c := rfl
  have htrim : trim (item.map (⟨·, false⟩)) = item.map (⟨·, false⟩) := by
    have hfront : (item.map (⟨·, false⟩)).dropWhile Mark.isBlank = item.map (⟨·, false⟩) := by
      apply dropWhile_of_head
      simpa [hblank] using h.head_notBlank
    have hback : (item.map (Mark.mk · false)).reverse.dropWhile Mark.isBlank =
        (item.map (⟨·, false⟩)).reverse := by
      apply dropWhile_of_head
      simpa [hblank] using h.last_notBlank
    rw [trim, hfront, hback, List.reverse_reverse]
  have htext : (item.map (⟨·, false⟩)).map Mark.char = item := by
    rw [List.map_map]
    exact List.map_id item
  have hempty : (item.map (Mark.mk · false)).isEmpty = false := by simpa using h.ne_nil
  simp only [bare, htrim, htext, hempty, h.not_null, Bool.and_false, Bool.false_eq_true, if_false]

theorem readItem_plain {item rest : List Char} {sign : Char} (h : IsPlain item)
    (hsign : sign = ',' ∨ sign = '\x7d') :
    readItem (item ++ sign :: rest) = some (some item, sign :: rest) := by
  obtain ⟨c, more, rfl⟩ := List.exists_cons_of_ne_nil h.ne_nil
  have hfront : (c :: more ++ sign :: rest).dropWhile isBlank = c :: more ++ sign :: rest :=
    dropWhile_of_head h.head_notBlank
  have hquote : c ≠ '"' := (isSign_eq_false_iff.mp (h.no_sign c (.head _))).2.2.2.1
  unfold readItem
  rw [hfront]
  split
  · rename_i after heq
    exact absurd (List.cons.inj heq).1 hquote
  · rw [marks_plain h.no_sign hsign, Option.bind_some, bare_plain h, Option.map_some]

theorem readItems_plain {items : List (List Char)} {fuel : Nat} {rest : List Char}
    (hne : items ≠ []) (h : ∀ item ∈ items, IsPlain item) (hfuel : items.length ≤ fuel) :
    readItems fuel ([','].intercalate items ++ '\x7d' :: rest) =
      some (items.map some, rest) := by
  induction items generalizing fuel with
  | nil => exact absurd rfl hne
  | cons item items ih =>
      obtain ⟨fuel, rfl⟩ : ∃ k, fuel = k + 1 := ⟨fuel - 1, by simp at hfuel; omega⟩
      obtain ⟨hitem, hitems⟩ := List.forall_mem_cons.mp h
      cases items with
      | nil =>
          rw [List.intercalate_singleton, readItems, readItem_plain hitem (.inr rfl)]
          rfl
      | cons next items =>
          rw [List.intercalate_cons_cons, List.append_assoc, List.append_assoc,
            List.singleton_append, readItems, readItem_plain hitem (.inl rfl)]
          simp only
          rw [ih nofun hitems (by simpa using hfuel)]
          rfl

theorem intercalate_append_sign {α : Type} (sign : α) {items : List (List α)} (hne : items ≠ []) :
    [sign].intercalate items ++ [sign] = items.flatMap (· ++ [sign]) := by
  induction items with
  | nil => exact absurd rfl hne
  | cons item items ih =>
      cases items with
      | nil => simp
      | cons next items =>
          have hmore := ih nofun
          rw [List.intercalate_cons_cons, List.append_assoc, hmore]
          rfl

theorem length_le_signs (sign : Char) (items : List (List Char)) :
    items.length ≤ (items.flatMap (· ++ [sign])).length := by
  induction items with
  | nil => exact Nat.le_refl 0
  | cons item items ih =>
      rw [List.flatMap_cons, List.length_append, List.length_append, List.length_singleton,
        List.length_cons]
      omega

theorem intercalate_append_eq_cons (c : Char) (item : List Char) (items : List (List Char))
    (rest : List Char) : ∃ tail, [','].intercalate ((c :: item) :: items) ++ rest = c :: tail := by
  cases items with
  | nil => exact ⟨item ++ rest, by rw [List.intercalate_singleton]; rfl⟩
  | cons next items =>
      exact ⟨item ++ [','] ++ [','].intercalate (next :: items) ++ rest, by
        rw [List.intercalate_cons_cons]; rfl⟩

/-- Items that are joined by commas are read back exactly if they are plain. -/
theorem readList_iff (items : List (List Char)) :
    (∃ rest, readList ([','].intercalate items ++ ['\x7d']) = some (items.map some, rest) ∧
      rest.all isBlank = true) ↔ ∀ item ∈ items, IsPlain item := by
  cases items with
  | nil => exact iff_of_true ⟨[], rfl, rfl⟩ (List.forall_mem_nil _)
  | cons first more =>
      have hne : first :: more ≠ [] := List.cons_ne_nil _ _
      have hlength := congrArg List.length (intercalate_append_sign ',' hne)
      rw [List.length_append, List.length_singleton] at hlength
      constructor
      · rintro ⟨rest, h, -⟩
        unfold readList at h
        split at h
        · cases h
        · refine (length_readItems h).2 ?_
          rw [List.length_append, List.length_singleton]
          omega
      · intro hplain
        have hfuel : (first :: more).length ≤
            ([','].intercalate (first :: more) ++ ['\x7d']).length := by
          rw [List.length_append, List.length_singleton, hlength]
          exact length_le_signs _ _
        have hread : readItems _ ([','].intercalate (first :: more) ++ ['\x7d']) = _ :=
          readItems_plain hne hplain hfuel
        refine ⟨[], ?_, rfl⟩
        unfold readList
        split
        · -- The literal does not begin with a brace, as a plain item does not.
          rename_i rest heq
          have hfirst := hplain first (.head _)
          obtain ⟨c, item, rfl⟩ := List.exists_cons_of_ne_nil hfirst.ne_nil
          obtain ⟨tail, htail⟩ := intercalate_append_eq_cons c item more ['\x7d']
          have hc : isBlank c = false := hfirst.head_notBlank c rfl
          rw [htail, List.dropWhile_cons_of_neg (by simp [hc])] at heq
          exact absurd (List.cons.inj heq).1 (isSign_eq_false_iff.mp (hfirst.no_sign c (.head _))).2.2.1
        · exact hread

end ArrayLiteral

open ArrayLiteral

/-! ### Literals of lists of texts -/

theorem toList_arrayLiteral (ss : List String) :
    (arrayLiteral (ss.map .string)).toList =
      '\x7b' :: ([','].intercalate (ss.map String.toList) ++ ['\x7d']) := by
  have hitems : (ss.map Json.string).map arrayItem = ss := by
    rw [List.map_map]
    exact List.map_id ss
  rw [arrayLiteral, hitems, String.toList_append, String.toList_append, String.toList_intercalate]
  rfl

theorem map_ofList_eq_iff (items : List (Option (List Char))) (ss : List String) :
    items.map (·.map String.ofList) = ss.map some ↔ items = (ss.map String.toList).map some := by
  constructor
  · intro h
    have htexts := congrArg (List.map (Option.map String.toList)) h
    simpa [Function.comp_def] using htexts
  · rintro rfl
    simp [Function.comp_def]

/-- A list of texts is read back from its literal exactly if all its texts are plain. -/
theorem read?_arrayLiteral_iff (ss : List String) :
    read? (arrayLiteral (ss.map .string)) = some (ss.map some) ↔ ∀ s ∈ ss, IsPlain s.toList := by
  have hbrace : ¬ isBlank '\x7b' = true := by decide
  rw [← List.forall_mem_map (f := String.toList) (P := IsPlain), ← readList_iff, read?,
    toList_arrayLiteral, List.dropWhile_cons_of_neg hbrace]
  simp only
  cases readList ([','].intercalate (ss.map String.toList) ++ ['\x7d']) with
  | none => simp
  | some p =>
      obtain ⟨items, rest⟩ := p
      simp only [Option.ite_none_right_eq_some, Option.some.injEq, Prod.mk.injEq,
        map_ofList_eq_iff]
      constructor
      · rintro ⟨hrest, hitems⟩
        exact ⟨rest, ⟨hitems, rfl⟩, hrest⟩
      · rintro ⟨_, ⟨hitems, rfl⟩, hrest⟩
        exact ⟨hrest, hitems⟩

/-- The texts of a list when each is cut at its commas; no text gives one that is empty. -/
def cutAtCommas : List String → List (List Char)
  | [] => [[]]
  | ss => ss.flatMap fun s => s.toList.splitOn ','

theorem splitOn_intercalate_eq (ss : List String) :
    ([','].intercalate (ss.map String.toList)).splitOn ',' = cutAtCommas ss := by
  cases ss with
  | nil => rfl
  | cons s ss =>
      rw [cutAtCommas]
      · induction ss generalizing s with
        | nil => simp
        | cons next ss ih =>
            rw [List.map_cons, List.map_cons, List.intercalate_cons_cons, List.append_assoc,
              List.singleton_append, List.splitOn_append_cons_self, ← List.map_cons, ih]
            rfl
      · exact nofun

theorem arrayLiteral_eq_iff (ss ts : List String) :
    arrayLiteral (ss.map .string) = arrayLiteral (ts.map .string) ↔
      cutAtCommas ss = cutAtCommas ts := by
  rw [← String.toList_inj, toList_arrayLiteral, toList_arrayLiteral, List.cons_inj_right,
    List.append_cancel_right_eq, ← splitOn_intercalate_eq, ← splitOn_intercalate_eq]
  constructor
  · exact congrArg (List.splitOn ',')
  · intro h
    have hjoined := congrArg (List.intercalate [',']) h
    rwa [List.intercalate_splitOn, List.intercalate_splitOn] at hjoined

theorem lookup_functionArgs (args : OrderedMap Json) (name : String) :
    (functionArgs args).lookup name = (args.lookup name).map functionArg := by
  induction args with
  | nil => rfl
  | cons a rest ih =>
      obtain ⟨key, value⟩ := a
      rw [functionArgs, List.map_cons, List.lookup_cons, List.lookup_cons]
      cases name == key with
      | true => rfl
      | false => exact ih

/-- A function that is called with a list of texts gets a literal, from which the list is read back
exactly if all its texts are plain.  Another list has the same literal exactly if the two are the
same once their texts are cut at commas, which no two lists of plain texts are. -/
theorem list_argument_read_iff {args : OrderedMap Json} {name : String} {ss : List String}
    (h : args.lookup name = some (.ofStrings ss)) :
    ∃ literal, (functionArgs args).lookup name = some (.string literal) ∧
      (read? literal = some (ss.map some) ↔ ∀ s ∈ ss, IsPlain s.toList) ∧
      ∀ ts, (functionArg (.ofStrings ts) = .string literal ↔ cutAtCommas ts = cutAtCommas ss) ∧
        ((∀ s ∈ ss, IsPlain s.toList) → (∀ t ∈ ts, IsPlain t.toList) →
          functionArg (.ofStrings ts) = .string literal → ts = ss) := by
  refine ⟨arrayLiteral (ss.map .string), ?_, read?_arrayLiteral_iff ss, fun ts => ⟨?_, ?_⟩⟩
  · rw [lookup_functionArgs, h]
    rfl
  · rw [← arrayLiteral_eq_iff]
    exact ⟨Json.string.inj, congrArg Json.string⟩
  · intro hss hts heq
    have hliteral : arrayLiteral (ts.map .string) = arrayLiteral (ss.map .string) :=
      Json.string.inj heq
    have hread := (read?_arrayLiteral_iff ts).mpr hts
    rw [hliteral, (read?_arrayLiteral_iff ss).mpr hss] at hread
    exact ((List.map_inj_right fun _ _ => Option.some.inj).mp (Option.some.inj hread)).symm

/-- Identifiers hold no signs, and the list is read back. -/
theorem list_argument_read_iff_of_identifiers :
    let ids := ["a1", "b 2"]
    let args : OrderedMap Json := [("limit", .ofNat 5), ("ids", .ofStrings ids)]
    args.lookup "ids" = some (.ofStrings ids) ∧ (∀ s ∈ ids, IsPlain s.toList) ∧
    ∃ literal, (functionArgs args).lookup "ids" = some (.string literal) ∧
      read? literal = some (ids.map some) := by
  intro ids args
  have hplain : ∀ s ∈ ids, IsPlain s.toList :=
    List.forall_mem_cons.mpr ⟨⟨by decide, by simp; decide, by simp; decide, by simp; decide,
      by decide⟩, List.forall_mem_singleton.mpr ⟨by decide, by simp; decide, by simp; decide,
        by simp; decide, by decide⟩⟩
  have hlookup : args.lookup "ids" = some (.ofStrings ids) := rfl
  obtain ⟨literal, hargs, hread, -⟩ := list_argument_read_iff hlookup
  exact ⟨hlookup, hplain, literal, hargs, hread.mpr hplain⟩

/-- One text with a comma has the literal of two texts, and is read as these. -/
theorem comma_separates_items :
    ["a,b"] ≠ ["a", "b"] ∧
    functionArgs [("ids", .ofStrings ["a,b"])] = functionArgs [("ids", .ofStrings ["a", "b"])] ∧
    functionArgs [("ids", .ofStrings ["a,b"])] = [("ids", .string "\x7ba,b\x7d")] ∧
    read? "\x7ba,b\x7d" = some [some "a", some "b"] :=
  ⟨by decide, rfl, rfl, by decide +kernel⟩

end TableGraph
