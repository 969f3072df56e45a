import TableGraph.GraphQL.Printer
import TableGraph.Proofs.GraphQL.Lexing

/-! # Printed documents are derivable

The text of well-formed syntax has tokens from which the grammar derives that syntax
(`Operation.derives`).

* Syntax is well-formed if all its names are names and no selection in it is empty
  (`QueryField.WellFormed`); what stands at the sites of variables is looked at apart from this;
* every part of a text either cuts or is followed by a sign, so no two names run together. -/

namespace TableGraph.GraphQL

/-! ### Well-formed syntax -/

section
variable {ν : Type}

mutual

/-- All names of members are names. -/
def Value.WellFormed : Value ν → Prop
  | .variable _ => True
  | .object fields => valuesWellFormed fields

/-- All names of values are names. -/
def valuesWellFormed : List (String × Value ν) → Prop
  | [] => True
  | (name, v) :: rest => isName name = true ∧ v.WellFormed ∧ valuesWellFormed rest

end

mutual

/-- All names of a field are names, and a branch has a selection. -/
def QueryField.WellFormed : QueryField ν → Prop
  | .leaf key name arguments =>
    (∀ k ∈ key, isName k = true) ∧ isName name = true ∧ valuesWellFormed arguments
  | .branch key name arguments selection =>
    (∀ k ∈ key, isName k = true) ∧ isName name = true ∧ valuesWellFormed arguments ∧
      selection ≠ [] ∧ fieldsWellFormed selection

/-- All fields are well-formed. -/
def fieldsWellFormed : List (QueryField ν) → Prop
  | [] => True
  | f :: rest => f.WellFormed ∧ fieldsWellFormed rest

end

end

/-- All names of a type are names. -/
def TypeRef.WellFormed : TypeRef → Prop
  | .named name _ => isName name = true
  | .list item _ => item.WellFormed

/-- The text is that of a well-formed type. -/
def IsTypeText (text : String) : Prop := ∃ t : TypeRef, t.WellFormed ∧ t.text = text

/-- A document that can be read: its names are names, its types are types, and it has roots. -/
structure Operation.WellFormed (o : Operation) : Prop where
  name : isName o.name = true
  declarations : ∀ d ∈ o.declarations, isName d.name = true ∧ IsTypeText d.type
  roots : fieldsWellFormed o.roots
  sites : ∀ x ∈ fieldSites o.roots, isName x = true
  ne_nil : o.roots ≠ []

/-! ### Texts in a row -/

theorem detached_empty : Detached "" := endsWord_nil

theorem cuts_empty : Cuts "" [] := cuts_of_signs rfl

theorem cuts_comma : Cuts ", " [] := cuts_of_signs rfl

theorem detached_chained (texts : List String) : Detached (chained ", " ", " texts) := by
  cases texts with
  | nil => exact detached_empty
  | cons text rest =>
      have hcomma : signs? ", ".toList = some [] := rfl
      rw [chained, String.append_assoc]
      exact detached_append (detached_of_signs hcomma) (by decide)

theorem cuts_label {name : String} (h : isName name = true) :
    Cuts (name ++ ": ") [.name name, .colon] :=
  have hcolon : signs? ": ".toList = some [.colon] := rfl
  (lexes_name h).append_cuts (cuts_of_signs hcolon) (detached_of_signs hcolon) (by decide)

section
variable {left s right : String} {ls ts rs : List Token}

/-- A text between signs cuts. -/
theorem Lexes.enclosed (h : Lexes s ts) (hleft : signs? left.toList = some ls)
    (hright : signs? right.toList = some rs) (hne : right ≠ "") :
    Cuts (left ++ s ++ right) (ls ++ ts ++ rs) :=
  ((cuts_of_signs hleft).append_lexes h).append_cuts (cuts_of_signs hright)
    (detached_of_signs hright) hne

theorem detached_enclosed (hleft : signs? left.toList = some ls) (hne : left ≠ "") :
    Detached (left ++ s ++ right) := by
  rw [String.append_assoc]
  exact detached_append (detached_of_signs hleft) hne

end

/-! ### Types and declarations -/

theorem derives_mark (required : Bool) :
    ∃ ts, Lexes (requiredMark required) ts ∧ Detached (requiredMark required) ∧
      IsMark ts required := by
  cases required with
  | false => exact ⟨[], cuts_empty.lexes, detached_empty, .absent⟩
  | true =>
      have hsigns : signs? (requiredMark true).toList = some [.bang] := rfl
      exact ⟨[.bang], (cuts_of_signs hsigns).lexes, detached_of_signs hsigns, .given⟩

theorem TypeRef.derives : ∀ t : TypeRef, t.WellFormed → ∃ ts, Lexes t.text ts ∧ IsType ts t
  | .named name required, h => by
      obtain ⟨ts, hlex, hdetached, hmark⟩ := derives_mark required
      exact ⟨_, (lexes_name h).append hlex hdetached, .named hmark⟩
  | .list item required, h => by
      obtain ⟨ts, hitem, htype⟩ := item.derives h
      obtain ⟨us, hlex, hdetached, hmark⟩ := derives_mark required
      have hclosed : Cuts ("[" ++ item.text ++ "]") ([.bracketLeft] ++ ts ++ [.bracketRight]) :=
        hitem.enclosed rfl rfl (by decide)
      refine ⟨_, hclosed.append_lexes hlex, ?_⟩
      simpa using IsType.list htype hmark

theorem Declaration.derives {d : Declaration} (hname : isName d.name = true)
    (htype : IsTypeText d.type) : ∃ ts, Lexes d.text ts ∧ IsDeclaration ts d := by
  obtain ⟨name, type⟩ := d
  obtain ⟨t, ht, rfl⟩ := htype
  obtain ⟨ts, hlex, htype⟩ := t.derives ht
  have hcolon : Cuts ("$" ++ name ++ ": ") ([.dollar] ++ [.name name] ++ [.colon]) :=
    (lexes_name hname).enclosed rfl rfl (by decide)
  exact ⟨_, hcolon.append_lexes hlex, .declare htype⟩

theorem derives_declarations (lead : String) (hlead : Cuts lead []) (ds : List Declaration)
    (h : ∀ d ∈ ds, isName d.name = true ∧ IsTypeText d.type) :
    ∃ ts, Lexes (chained ", " lead (ds.map Declaration.text)) ts ∧ AreDeclarations ts ds := by
  induction ds generalizing lead with
  | nil => exact ⟨[], cuts_empty.lexes, .nil⟩
  | cons d ds ih =>
      obtain ⟨hname, htype⟩ := h d List.mem_cons_self
      obtain ⟨ts, hd, hderives⟩ := Declaration.derives hname htype
      obtain ⟨us, hds, hmore⟩ := ih ", " cuts_comma
        fun d' hd' => h d' (List.mem_cons_of_mem d hd')
      exact ⟨ts ++ us, (hlead.append_lexes hd).append hds (detached_chained _),
        .cons hderives hmore⟩

theorem derives_header (ds : List Declaration)
    (h : ∀ d ∈ ds, isName d.name = true ∧ IsTypeText d.type) :
    ∃ ts, Lexes (declarationsText ds) ts ∧ Detached (declarationsText ds) ∧ IsHeader ts ds := by
  cases ds with
  | nil => exact ⟨[], cuts_empty.lexes, detached_empty, .absent⟩
  | cons d ds =>
      obtain ⟨ts, hlex, hderives⟩ := derives_declarations "" cuts_empty (d :: ds) h
      rw [chained_empty] at hlex
      have hleft : signs? "(".toList = some [.parenLeft] := rfl
      have hright : signs? ")".toList = some [.parenRight] := rfl
      exact ⟨_, (hlex.enclosed hleft hright (by decide)).lexes,
        detached_enclosed hleft (by decide), .given hderives⟩

/-! ### Values and arguments -/

mutual

theorem Value.derives : ∀ v : Value String, v.WellFormed → (∀ x ∈ v.sites, isName x = true) →
    ∃ ts, Lexes v.text ts ∧ IsValue ts v
  | .variable name, _, hsites => by
      have hname : isName name = true := hsites name List.mem_cons_self
      have hdollar : Cuts "$" [.dollar] := cuts_of_signs rfl
      exact ⟨_, hdollar.append_lexes (lexes_name hname), .variable⟩
  | .object fields, h, hsites => by
      obtain ⟨ts, hlex, hfields⟩ := derives_values "" cuts_empty fields h hsites
      rw [chained_empty] at hlex
      have hleft : signs? "\x7b".toList = some [.braceLeft] := rfl
      have hright : signs? "\x7d".toList = some [.braceRight] := rfl
      exact ⟨_, (hlex.enclosed hleft hright (by decide)).lexes, .object hfields⟩

theorem derives_values : ∀ (lead : String), Cuts lead [] →
    ∀ fields : List (String × Value String), valuesWellFormed fields →
      (∀ x ∈ valueSites fields, isName x = true) →
      ∃ ts, Lexes (chained ", " lead (fieldTexts fields)) ts ∧ AreValues ts fields
  | _, _, [], _, _ => ⟨[], cuts_empty.lexes, .nil⟩
  | lead, hlead, (name, v) :: rest, h, hsites => by
      obtain ⟨hname, hv, hrest⟩ := h
      obtain ⟨ts, hlexv, hvalue⟩ := v.derives hv
        fun x hx => hsites x (List.mem_append_left _ hx)
      obtain ⟨us, hlexrest, hmore⟩ := derives_values ", " cuts_comma rest hrest
        fun x hx => hsites x (List.mem_append_right _ hx)
      have hcolon := cuts_label hname
      have hlex := (hlead.append_lexes (hcolon.append_lexes hlexv)).append hlexrest
        (detached_chained (fieldTexts rest))
      have hvalues : AreValues (.name name :: .colon :: (ts ++ us)) ((name, v) :: rest) :=
        .cons hvalue hmore
      refine ⟨_, hlex, ?_⟩
      simpa using hvalues

end

theorem derives_arguments (arguments : List (String × Value String))
    (h : valuesWellFormed arguments) (hsites : ∀ x ∈ valueSites arguments, isName x = true) :
    ∃ ts, Lexes (argumentsText arguments) ts ∧ Detached (argumentsText arguments) ∧
      AreArguments ts arguments := by
  cases arguments with
  | nil => exact ⟨[], cuts_empty.lexes, detached_empty, .absent⟩
  | cons a rest =>
      obtain ⟨ts, hlex, hvalues⟩ := derives_values "" cuts_empty (a :: rest) h hsites
      rw [chained_empty] at hlex
      have hleft : signs? "(".toList = some [.parenLeft] := rfl
      have hright : signs? ")".toList = some [.parenRight] := rfl
      exact ⟨_, (hlex.enclosed hleft hright (by decide)).lexes,
        detached_enclosed hleft (by decide), .given hvalues⟩

/-! ### Fields -/

theorem derives_alias (key : Option String) (h : ∀ k ∈ key, isName k = true) :
    ∃ ks, Cuts (aliasText key) ks ∧ IsAlias ks key := by
  cases key with
  | none => exact ⟨[], cuts_of_signs rfl, .absent⟩
  | some key =>
      have hname : isName key = true := h key rfl
      exact ⟨_, cuts_label hname, .given⟩

theorem detached_selectionText (fs : List (QueryField String)) : Detached (selectionText fs) := by
  cases fs with
  | nil => exact detached_empty
  | cons f fs =>
      have hblank : signs? " ".toList = some [] := rfl
      rw [selectionText, String.append_assoc]
      exact detached_append (detached_of_signs hblank) (by decide)

/-- The part of a field before its selection. -/
theorem derives_head {key : Option String} {name : String}
    {arguments : List (String × Value String)}
    (hkey : ∀ k ∈ key, isName k = true) (hname : isName name = true)
    (harguments : valuesWellFormed arguments)
    (hsites : ∀ x ∈ valueSites arguments, isName x = true) :
    ∃ ks ts, Lexes (aliasText key ++ name ++ argumentsText arguments) (ks ++ .name name :: ts) ∧
      IsAlias ks key ∧ AreArguments ts arguments := by
  obtain ⟨ks, hcuts, hks⟩ := derives_alias key hkey
  obtain ⟨ts, hlex, hdetached, hts⟩ := derives_arguments arguments harguments hsites
  refine ⟨ks, ts, ?_, hks, hts⟩
  simpa using (hcuts.append_lexes (lexes_name hname)).append hlex hdetached

mutual

theorem QueryField.derives : ∀ f : QueryField String, f.WellFormed →
    (∀ x ∈ f.sites, isName x = true) → ∃ ts, Lexes f.text ts ∧ IsField ts f
  | .leaf key name arguments, ⟨hkey, hname, harguments⟩, hsites => by
      obtain ⟨ks, ts, hlex, hks, hts⟩ := derives_head hkey hname harguments hsites
      exact ⟨_, hlex, .leaf hks hts⟩
  | .branch key name arguments [], h, _ => absurd rfl h.2.2.2.1
  | .branch key name arguments (f :: fs), ⟨hkey, hname, harguments, _, hfs⟩, hsites => by
      obtain ⟨ks, ts, hhead, hks, hts⟩ := derives_head hkey hname harguments
        fun x hx => hsites x (List.mem_append_left _ hx)
      obtain ⟨us, hlex, hus⟩ := derives_selection (f :: fs) hfs
        fun x hx => hsites x (List.mem_append_right _ hx)
      have hleft : signs? " \x7b".toList = some [.braceLeft] := rfl
      have hright : signs? " \x7d".toList = some [.braceRight] := rfl
      have hopen := hhead.append_cuts (cuts_of_signs hleft) (detached_of_signs hleft) (by decide)
      have hclosed := (hopen.append_lexes hlex).append_cuts (cuts_of_signs hright)
        (detached_of_signs hright) (by decide)
      have hfield : IsField (ks ++ .name name :: (ts ++ .braceLeft :: (us ++ [.braceRight])))
          (.branch key name arguments (f :: fs)) := .branch hks hts hus
      refine ⟨_, hclosed.lexes, ?_⟩
      simpa using hfield

theorem derives_selection : ∀ fs : List (QueryField String), fieldsWellFormed fs →
    (∀ x ∈ fieldSites fs, isName x = true) → ∃ ts, Lexes (selectionText fs) ts ∧ AreFields ts fs
  | [], _, _ => ⟨[], cuts_empty.lexes, .nil⟩
  | f :: fs, ⟨hf, hfs⟩, hsites => by
      obtain ⟨ts, hlex, hts⟩ := f.derives hf fun x hx => hsites x (List.mem_append_left _ hx)
      obtain ⟨us, hlexs, hus⟩ := derives_selection fs hfs
        fun x hx => hsites x (List.mem_append_right _ hx)
      have hblank : Cuts " " [] := cuts_of_signs rfl
      exact ⟨_, (hblank.append_lexes hlex).append hlexs (detached_selectionText fs), .cons hts hus⟩

end

/-! ### Documents -/

theorem isName_keyword (type : OperationType) : isName type.keyword = true := by
  cases type <;> decide

theorem selectionText_eq {fs : List (QueryField String)} (h : fs ≠ []) :
    selectionText fs = " " ++ " ".intercalate (fs.map QueryField.text) := by
  have hrest : ∀ fs, selectionText fs = chained " " " " (fs.map QueryField.text) := by
    intro fs
    induction fs with
    | nil => rfl
    | cons f fs ih => rw [selectionText, ih, List.map_cons, chained]
  cases fs with
  | nil => exact absurd rfl h
  | cons f fs =>
      rw [selectionText, hrest fs, ← chained_empty, List.map_cons, chained, String.empty_append,
        String.append_assoc]

theorem Operation.derives {o : Operation} (h : o.WellFormed) :
    ∃ ts, lex? o.text = some ts ∧ IsOperation ts o := by
  obtain ⟨type, name, declarations, roots⟩ := o
  obtain ⟨hname, hdeclarations, hroots, hsites, hne⟩ := h
  obtain ⟨ts, hlexts, hdetached, hts⟩ := derives_header declarations hdeclarations
  obtain ⟨us, hlexus, hus⟩ := derives_selection roots hroots hsites
  have hblank : signs? " ".toList = some [] := rfl
  have hleft : signs? " \x7b".toList = some [.braceLeft] := rfl
  have hright : signs? " \x7d".toList = some [.braceRight] := rfl
  have hkeyword := (lexes_name (isName_keyword type)).append_cuts (cuts_of_signs hblank)
    (detached_of_signs hblank) (by decide)
  have hhead := (hkeyword.append_lexes (lexes_name hname)).append hlexts hdetached
  have hopen := hhead.append_cuts (cuts_of_signs hleft) (detached_of_signs hleft) (by decide)
  have hclosed := (hopen.append_lexes hlexus).append_cuts (cuts_of_signs hright)
    (detached_of_signs hright) (by decide)
  have htext : (Operation.mk type name declarations roots).text =
      type.keyword ++ " " ++ name ++ declarationsText declarations ++ " \x7b" ++
        selectionText roots ++ " \x7d" := by
    have hopening : " \x7b " = " \x7b" ++ " " := rfl
    rw [selectionText_eq hne, Operation.text, hopening]
    simp only [String.append_assoc]
  rw [htext, lex?_of_lexes hclosed.lexes]
  refine ⟨_, rfl, ?_⟩
  cases roots with
  | nil => exact absurd rfl hne
  | cons f fs =>
      have hoperation : IsOperation
          (.name type.keyword :: .name name :: (ts ++ .braceLeft :: (us ++ [.braceRight])))
          ⟨type, name, declarations, f :: fs⟩ := .operation hts hus
      simpa using hoperation

/-! ### Filled syntax -/

section
variable {ν μ : Type} (g : Nat → μ)

mutual

theorem Value.WellFormed.fill : ∀ (k : Nat) (v : Value ν), v.WellFormed → (v.fill g k).WellFormed
  | _, .variable _, _ => trivial
  | k, .object fields, h => valuesWellFormed_fill k fields h

theorem valuesWellFormed_fill : ∀ (k : Nat) (values : List (String × Value ν)),
    valuesWellFormed values → valuesWellFormed (fillValues g k values)
  | _, [], _ => trivial
  | k, (_, v) :: rest, ⟨hname, hv, hrest⟩ =>
      ⟨hname, hv.fill k v, valuesWellFormed_fill (k + v.sites.length) rest hrest⟩

end

theorem fillFields_eq_nil {k : Nat} {fs : List (QueryField ν)} :
    fillFields g k fs = [] ↔ fs = [] := by
  cases fs <;> simp [fillFields]

mutual

theorem QueryField.WellFormed.fill : ∀ (k : Nat) (f : QueryField ν), f.WellFormed →
    (f.fill g k).WellFormed
  | k, .leaf _ _ arguments, ⟨hkey, hname, harguments⟩ =>
      ⟨hkey, hname, valuesWellFormed_fill g k arguments harguments⟩
  | k, .branch _ _ arguments selection, ⟨hkey, hname, harguments, hne, hselection⟩ =>
      ⟨hkey, hname, valuesWellFormed_fill g k arguments harguments,
        mt (fillFields_eq_nil g).mp hne, fieldsWellFormed_fill _ selection hselection⟩

theorem fieldsWellFormed_fill : ∀ (k : Nat) (fs : List (QueryField ν)),
    fieldsWellFormed fs → fieldsWellFormed (fillFields g k fs)
  | _, [], _ => trivial
  | k, f :: rest, ⟨hf, hrest⟩ =>
      ⟨hf.fill k f, fieldsWellFormed_fill (k + f.sites.length) rest hrest⟩

end

end

end TableGraph.GraphQL
