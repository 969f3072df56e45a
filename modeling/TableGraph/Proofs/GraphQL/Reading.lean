import TableGraph.GraphQL.Reader

/-! # Reading derivations

The reader gives back every operation of the grammar (`readOperation_eq`): what is derived from
tokens is read from them, whatever follows, as long as the fuel is at least their number.  Hence a
list of tokens has no two derivations (`IsOperation.unique`). -/

namespace TableGraph.GraphQL

/-! ### Types -/

theorem readMark_append {ts rest : List Token} {required : Bool} (h : IsMark ts required)
    (hrest : rest.head? ≠ some .bang) : readMark (ts ++ rest) = (required, rest) := by
  cases h with
  | absent =>
      cases rest with
      | nil => rfl
      | cons t rest =>
          cases t with
          | bang => exact absurd rfl hrest
          | _ => rfl
  | given => rfl

theorem readType_append {ts rest : List Token} {type : TypeRef} {fuel : Nat} (h : IsType ts type)
    (hrest : rest.head? ≠ some .bang) (hfuel : ts.length ≤ fuel) :
    readType fuel (ts ++ rest) = some (type, rest) := by
  induction h generalizing rest fuel with
  | named hm =>
      obtain ⟨fuel, rfl⟩ : ∃ k, fuel = k + 1 := ⟨fuel - 1, by simp at hfuel; omega⟩
      simp only [List.cons_append, readType, readMark_append hm hrest]
  | @list item ts us required hi hm ih =>
      obtain ⟨fuel, rfl⟩ : ∃ k, fuel = k + 1 := ⟨fuel - 1, by simp at hfuel; omega⟩
      have hitem : readType fuel (ts ++ .bracketRight :: (us ++ rest)) =
          some (item, .bracketRight :: (us ++ rest)) := by
        apply ih (by simp)
        simp only [List.length_cons, List.length_append] at hfuel
        omega
      simp only [List.cons_append, List.append_assoc, readType, hitem, Option.bind_eq_bind,
        Option.bind_some, readMark_append hm hrest]

/-! ### Declarations -/

theorem readDeclarations_append {ts rest : List Token} {ds : List Declaration} {fuel : Nat}
    (h : AreDeclarations ts ds) (hfuel : ts.length < fuel) :
    readDeclarations fuel (ts ++ .parenRight :: rest) = some (ds, rest) := by
  induction h generalizing rest fuel with
  | nil =>
      obtain ⟨fuel, rfl⟩ : ∃ k, fuel = k + 1 := ⟨fuel - 1, by omega⟩
      rfl
  | @cons d ds ts us hd hds ih =>
      obtain ⟨fuel, rfl⟩ : ∃ k, fuel = k + 1 := ⟨fuel - 1, by omega⟩
      obtain ⟨ht⟩ := hd
      rename_i name type ts
      simp only [List.length_cons, List.length_append] at hfuel
      have hhead : (us ++ .parenRight :: rest).head? ≠ some .bang := by
        cases hds with
        | nil => simp
        | cons hd hds =>
            obtain ⟨ht⟩ := hd
            simp
      have htype : readType fuel (ts ++ (us ++ .parenRight :: rest)) =
          some (type, us ++ .parenRight :: rest) := readType_append ht hhead (by omega)
      have hmore : readDeclarations fuel (us ++ .parenRight :: rest) = some (ds, rest) :=
        ih (by omega)
      simp only [List.cons_append, List.append_assoc, readDeclarations, htype, hmore,
        Option.bind_eq_bind, Option.bind_some]

/-! ### Values -/

mutual

theorem readValue_append : ∀ {ts : List Token} {v : Value String}, IsValue ts v →
    ∀ (rest : List Token) (fuel : Nat), ts.length ≤ fuel →
      readValue fuel (ts ++ rest) = some (v, rest)
  | _, _, .variable, rest, fuel + 1, _ => rfl
  | _, _, @IsValue.object ts fields h, rest, fuel + 1, hfuel => by
      simp only [List.length_cons, List.length_append, List.length_nil] at hfuel
      have hfields := readValues_append h .braceRight rest fuel nofun (by omega)
      simp only [List.cons_append, List.append_assoc, List.nil_append, readValue, hfields,
        Option.bind_eq_bind, Option.bind_some]

theorem readValues_append : ∀ {ts : List Token} {fields : List (String × Value String)},
    AreValues ts fields → ∀ (closing : Token) (rest : List Token) (fuel : Nat),
      (∀ name, closing ≠ .name name) → ts.length < fuel →
      readValues closing fuel (ts ++ closing :: rest) = some (fields, rest)
  | _, _, .nil, closing, rest, fuel + 1, hclosing, _ => by
      cases closing with
      | name n => exact absurd rfl (hclosing n)
      | _ => simp [readValues]
  | _, _, @AreValues.cons name v more ts us hv hrest, closing, rest, fuel + 1, hclosing, hfuel => by
      simp only [List.length_cons, List.length_append] at hfuel
      have hvalue := readValue_append hv (us ++ closing :: rest) fuel (by omega)
      have hmore := readValues_append hrest closing rest fuel hclosing (by omega)
      simp only [List.cons_append, List.append_assoc, readValues, hvalue, hmore,
        Option.bind_eq_bind, Option.bind_some]

end

theorem readArguments_append {ts rest : List Token} {arguments : List (String × Value String)}
    {fuel : Nat} (h : AreArguments ts arguments) (hrest : rest.head? ≠ some .parenLeft)
    (hfuel : ts.length ≤ fuel) : readArguments fuel (ts ++ rest) = some (arguments, rest) := by
  cases h with
  | absent =>
      cases rest with
      | nil => rfl
      | cons t rest =>
          cases t with
          | parenLeft => exact absurd rfl hrest
          | _ => rfl
  | @given a as ts h =>
      simp only [List.length_cons, List.length_append, List.length_nil] at hfuel
      have hvalues := readValues_append h .parenRight rest fuel nofun (by omega)
      simp only [List.cons_append, List.append_assoc, List.nil_append, readArguments, hvalues]

/-! ### Fields -/

/-- After a field there is another one or the end of the selection. -/
inductive FollowsField : List Token → Prop where
  | field {name : String} {rest : List Token} : FollowsField (.name name :: rest)
  | closing {rest : List Token} : FollowsField (.braceRight :: rest)

theorem IsField.head {ts : List Token} {f : QueryField String} (h : IsField ts f) :
    ∃ name us, ts = .name name :: us := by
  cases h with
  | leaf hk ha => cases hk <;> exact ⟨_, _, rfl⟩
  | branch hk ha hs => cases hk <;> exact ⟨_, _, rfl⟩

theorem AreFields.follows {us rest : List Token} {fs : List (QueryField String)}
    (h : AreFields us fs) : FollowsField (us ++ .braceRight :: rest) := by
  cases h with
  | nil => exact .closing
  | cons hf hfs =>
      obtain ⟨name, us, rfl⟩ := hf.head
      exact .field

theorem AreArguments.head_ne_colon {ts rest : List Token} {arguments : List (String × Value String)}
    (h : AreArguments ts arguments) (hrest : rest.head? ≠ some .colon) :
    (ts ++ rest).head? ≠ some .colon := by
  cases h with
  | absent => exact hrest
  | given h => simp

theorem readAlias_append {ks rest : List Token} {key : Option String} {name : String}
    (h : IsAlias ks key) (hrest : rest.head? ≠ some .colon) :
    readAlias (ks ++ .name name :: rest) = (key, .name name :: rest) := by
  cases h with
  | absent =>
      cases rest with
      | nil => rfl
      | cons t rest =>
          cases t with
          | colon => exact absurd rfl hrest
          | _ => rfl
  | given => rfl

mutual

theorem readField_append : ∀ {ts : List Token} {f : QueryField String}, IsField ts f →
    ∀ (rest : List Token) (fuel : Nat), FollowsField rest → ts.length ≤ fuel →
      readField fuel (ts ++ rest) = some (f, rest)
  | _, _, @IsField.leaf key name arguments ks ts hk ha, rest, fuel, hrest, hfuel => by
      simp only [List.length_cons, List.length_append] at hfuel
      obtain ⟨fuel, rfl⟩ : ∃ k, fuel = k + 1 := ⟨fuel - 1, by omega⟩
      have hcolon : rest.head? ≠ some .colon := by cases hrest <;> simp
      have hparen : rest.head? ≠ some .parenLeft := by cases hrest <;> simp
      have halias : readAlias (ks ++ .name name :: (ts ++ rest)) =
          (key, .name name :: (ts ++ rest)) := readAlias_append hk (ha.head_ne_colon hcolon)
      have harguments : readArguments fuel (ts ++ rest) = some (arguments, rest) :=
        readArguments_append ha hparen (by omega)
      simp only [List.cons_append, List.append_assoc, readField, halias, harguments,
        Option.bind_eq_bind, Option.bind_some]
      cases hrest <;> rfl
  | _, _, @IsField.branch key name arguments f fs ks ts us hk ha hs, rest, fuel, hrest, hfuel => by
      simp only [List.length_cons, List.length_append, List.length_nil] at hfuel
      obtain ⟨fuel, rfl⟩ : ∃ k, fuel = k + 1 := ⟨fuel - 1, by omega⟩
      have halias :
          readAlias (ks ++ .name name :: (ts ++ .braceLeft :: (us ++ .braceRight :: rest))) =
          (key, .name name :: (ts ++ .braceLeft :: (us ++ .braceRight :: rest))) :=
        readAlias_append hk (ha.head_ne_colon (by simp))
      have harguments : readArguments fuel (ts ++ .braceLeft :: (us ++ .braceRight :: rest)) =
          some (arguments, .braceLeft :: (us ++ .braceRight :: rest)) :=
        readArguments_append ha (by simp) (by omega)
      have hfields := readFields_append hs rest fuel (by omega)
      simp only [List.cons_append, List.append_assoc, List.nil_append, readField, halias, harguments,
        hfields, Option.bind_eq_bind, Option.bind_some]

theorem readFields_append : ∀ {us : List Token} {fs : List (QueryField String)}, AreFields us fs →
    ∀ (rest : List Token) (fuel : Nat), us.length < fuel →
      readFields fuel (us ++ .braceRight :: rest) = some (fs, rest)
  | _, _, .nil, rest, fuel + 1, _ => rfl
  | _, _, @AreFields.cons f fs ts us hf hfs, rest, fuel + 1, hfuel => by
      obtain ⟨name, vs, hts⟩ := hf.head
      simp only [List.length_append] at hfuel
      have hlength : 0 < ts.length := by
        rw [hts]
        exact Nat.succ_pos _
      have hfield := readField_append hf (us ++ .braceRight :: rest) fuel hfs.follows (by omega)
      have hmore := readFields_append hfs rest fuel (by omega)
      rw [hts] at hfield ⊢
      simp only [List.cons_append, List.append_assoc] at hfield ⊢
      simp only [readFields, hfield, hmore, Option.bind_eq_bind, Option.bind_some]

end

/-! ### Operations -/

theorem readHeader_append {ts rest : List Token} {ds : List Declaration} {fuel : Nat}
    (h : IsHeader ts ds) (hfuel : ts.length ≤ fuel) :
    readHeader fuel (ts ++ .braceLeft :: rest) = some (ds, .braceLeft :: rest) := by
  cases h with
  | absent => rfl
  | @given d ds ts h =>
      simp only [List.length_cons, List.length_append, List.length_nil] at hfuel
      have hdeclarations : readDeclarations fuel (ts ++ .parenRight :: .braceLeft :: rest) =
          some (d :: ds, .braceLeft :: rest) := readDeclarations_append h (by omega)
      simp only [List.cons_append, List.append_assoc, List.nil_append, readHeader, hdeclarations]

theorem ofKeyword?_keyword (type : OperationType) :
    OperationType.ofKeyword? type.keyword = some type := by
  cases type <;> rfl

/-- What is derived from all tokens is read from them. -/
theorem readOperation_eq {ts : List Token} {o : Operation} (h : IsOperation ts o) :
    readOperation ts = some o := by
  obtain @⟨type, name, declarations, f, fs, ts, us, hh, hs⟩ := h
  have hheader : readHeader (ts ++ Token.braceLeft :: (us ++ [Token.braceRight])).length
      (ts ++ .braceLeft :: (us ++ [.braceRight])) =
      some (declarations, .braceLeft :: (us ++ [.braceRight])) := by
    apply readHeader_append hh
    simp only [List.length_append]
    omega
  have hfields : readFields (ts ++ Token.braceLeft :: (us ++ [Token.braceRight])).length
      (us ++ [.braceRight]) = some (f :: fs, []) := by
    apply readFields_append hs
    simp only [List.length_append, List.length_cons, List.length_nil]
    omega
  simp only [readOperation, ofKeyword?_keyword, hheader, hfields, Option.bind_eq_bind,
    Option.bind_some]

/-- Tokens stand for one operation at most. -/
theorem IsOperation.unique {ts : List Token} {o o' : Operation} (h : IsOperation ts o)
    (h' : IsOperation ts o') : o = o' :=
  Option.some.inj ((readOperation_eq h).symm.trans (readOperation_eq h'))

end TableGraph.GraphQL
