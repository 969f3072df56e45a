import TableGraph.Proofs.GraphQL.Derivation
import TableGraph.Proofs.Variables.Names

/-! # Names in documents

Texts that are names, and texts that are types.

* A name with parts of names after it is a name (`isName_append`);
* whatever a variable is named after, it gets a name (`isName_of_mem_namesOf`);
* a name, a required name and a list of required names are types (`isTypeText_list`). -/

namespace TableGraph.GraphQL

/-! ### Parts of names -/

/-- All characters of the text may stand in a name. -/
def IsPart (s : String) : Prop := s.toList.all isNamePart = true

instance (s : String) : Decidable (IsPart s) := inferInstanceAs (Decidable (_ = _))

theorem isPart_of_isName {s : String} (h : isName s = true) : IsPart s := by
  obtain ⟨c, rest, hs, hc, hrest⟩ := isName_iff.mp h
  unfold IsPart
  rw [hs, List.all_cons, isNamePart_of_isNameStart hc, hrest]
  rfl

theorem IsPart.append {a b : String} (ha : IsPart a) (hb : IsPart b) : IsPart (a ++ b) := by
  unfold IsPart
  rw [String.toList_append, List.all_append, ha, hb]
  rfl

theorem isName_append {a b : String} (ha : isName a = true) (hb : IsPart b) :
    isName (a ++ b) = true := by
  obtain ⟨c, rest, hs, hc, hrest⟩ := isName_iff.mp ha
  refine isName_iff.mpr ⟨c, rest ++ b.toList, ?_, hc, ?_⟩
  · rw [String.toList_append, hs, List.cons_append]
  · rw [List.all_append, hrest, hb]
    rfl

theorem isPart_toString (n : Nat) : IsPart (toString n) := by
  unfold IsPart
  rw [Nat.toString_eq_ofList_toDigits, String.toList_ofList, List.all_eq_true]
  intro c hc
  have hdigit : c.isDigit = true := Nat.isDigit_of_mem_toDigits (by decide) (by decide) hc
  simp [isNamePart, Char.isAlphanum, hdigit]

/-! ### Names of variables -/

/-- Whatever a text is, it is made a name. -/
theorem isName_sanitize (base : String) : isName (Variables.sanitize base) = true := by
  have hpart : ∀ c : Char, isNamePart (if Variables.isNameChar c then c else '_') = true := by
    intro c
    split
    · rename_i hc
      exact hc
    · rfl
  have h : ((base.toList.dropWhile (· == '_')).map fun c =>
      if Variables.isNameChar c then c else '_').all isNamePart = true := by
    rw [List.all_map]
    exact List.all_eq_true.mpr fun c _ => hpart c
  unfold Variables.sanitize
  split
  · decide
  · rename_i c rest hcs
    rw [hcs, List.all_cons, Bool.and_eq_true] at h
    split
    · refine isName_iff.mpr ⟨'_', c :: rest, String.toList_ofList, rfl, ?_⟩
      rw [List.all_cons, h.1, h.2]
      rfl
    · rename_i hdigit
      refine isName_iff.mpr ⟨c, rest, String.toList_ofList, ?_, h.2⟩
      have hc := h.1
      unfold isNamePart Char.isAlphanum at hc
      simpa [isNameStart, hdigit] using hc

theorem isName_numbered {name : String} (h : isName name = true) (k : Nat) :
    isName (Variables.numbered name k) = true := by
  unfold Variables.numbered
  split
  · exact h
  · exact isName_append (isName_append h (by decide)) (isPart_toString k)

theorem isName_of_mem_namesOf (vs : Variables) (sites : List Binding) :
    ∀ name ∈ vs.namesOf sites, isName name = true := by
  induction sites generalizing vs with
  | nil => exact nofun
  | cons b rest ih =>
      intro name hname
      rcases List.mem_cons.mp hname with rfl | hrest
      · exact isName_numbered (isName_sanitize b.base) _
      · exact ih _ name hrest

theorem isName_numberedAlias (i : Nat) : isName (Document.numberedAlias i) = true :=
  isName_append (by decide) (isPart_toString i)

/-! ### Types -/

theorem isTypeText_name {s : String} (h : isName s = true) : IsTypeText s :=
  ⟨.named s false, h, String.append_empty⟩

/-- A required value, whose type is named `s ++ ending`. -/
theorem isTypeText_required {s closing : String} (hs : isName s = true) (ending : String)
    (hending : IsPart ending) (hclosing : ending ++ "!" = closing) : IsTypeText (s ++ closing) := by
  refine ⟨.named (s ++ ending) true, isName_append hs hending, ?_⟩
  rw [← hclosing, ← String.append_assoc]
  rfl

theorem isTypeText_list {s closing : String} (hs : isName s = true) (ending : String)
    (hending : IsPart ending) (hclosing : ending ++ "!]" = closing) :
    IsTypeText ("[" ++ s ++ closing) := by
  refine ⟨.list (.named (s ++ ending) true) false, isName_append hs hending, ?_⟩
  have hmark : "!]" = "!" ++ "]" := rfl
  rw [← hclosing, hmark]
  simp only [TypeRef.text, requiredMark, String.append_assoc]
  simp

theorem isTypeText_requiredList {s closing : String} (hs : isName s = true) (ending : String)
    (hending : IsPart ending) (hclosing : ending ++ "!]!" = closing) :
    IsTypeText ("[" ++ s ++ closing) := by
  refine ⟨.list (.named (s ++ ending) true) true, isName_append hs hending, ?_⟩
  have hmark : "!]!" = "!" ++ "]" ++ "!" := rfl
  rw [← hclosing, hmark]
  simp only [TypeRef.text, requiredMark, String.append_assoc]
  simp

end TableGraph.GraphQL
