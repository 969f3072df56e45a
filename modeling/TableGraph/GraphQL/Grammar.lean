import TableGraph.GraphQL.Syntax
import TableGraph.GraphQL.Token

/-!
# Grammar of query documents

Which tokens stand for which syntax: the rules of executable documents for one operation, its
variables, and fields with aliases, arguments and selections.

* `IsOperation tokens o` is a derivation of the operation `o`;
* an object may be empty; lists of declarations and arguments and selections are not, and they are
  left out instead;
* the type of a variable is a name or a list, and either may have a `!`.
-/

namespace TableGraph.GraphQL

/-! ### Types -/

/-- A type of a variable. -/
inductive TypeRef where
  | named (name : String) (required : Bool)
  | list (item : TypeRef) (required : Bool)
  deriving Repr

/-- The mark of a type that is required. -/
def requiredMark (required : Bool) : String := if required then "!" else ""

/-- The text of a type. -/
def TypeRef.text : TypeRef → String
  | .named name required => name ++ requiredMark required
  | .list item required => "[" ++ item.text ++ "]" ++ requiredMark required

/-- Derivations of the mark of a type. -/
inductive IsMark : List Token → Bool → Prop where
  | absent : IsMark [] false
  | given : IsMark [.bang] true

/-- Derivations of types. -/
inductive IsType : List Token → TypeRef → Prop where
  | named {name : String} {ts : List Token} {required : Bool} (hm : IsMark ts required) :
    IsType (.name name :: ts) (.named name required)
  | list {item : TypeRef} {ts us : List Token} {required : Bool} (hi : IsType ts item)
      (hm : IsMark us required) :
    IsType (.bracketLeft :: (ts ++ .bracketRight :: us)) (.list item required)

/-- Derivations of the declarations of variables. -/
inductive IsDeclaration : List Token → Declaration → Prop where
  | declare {name : String} {type : TypeRef} {ts : List Token} (ht : IsType ts type) :
    IsDeclaration (.dollar :: .name name :: .colon :: ts) ⟨name, type.text⟩

/-- Derivations of declarations one after another. -/
inductive AreDeclarations : List Token → List Declaration → Prop where
  | nil : AreDeclarations [] []
  | cons {d : Declaration} {ds : List Declaration} {ts us : List Token} (hd : IsDeclaration ts d)
      (hds : AreDeclarations us ds) : AreDeclarations (ts ++ us) (d :: ds)

/-- Derivations of the header of an operation. -/
inductive IsHeader : List Token → List Declaration → Prop where
  | absent : IsHeader [] []
  | given {d : Declaration} {ds : List Declaration} {ts : List Token}
      (hds : AreDeclarations ts (d :: ds)) :
    IsHeader (.parenLeft :: (ts ++ [.parenRight])) (d :: ds)

/-! ### Values -/

mutual

/-- Derivations of values. -/
inductive IsValue : List Token → Value String → Prop where
  | variable {name : String} : IsValue [.dollar, .name name] (.variable name)
  | object {ts : List Token} {fields : List (String × Value String)} (h : AreValues ts fields) :
    IsValue (.braceLeft :: (ts ++ [.braceRight])) (.object fields)

/-- Derivations of named values one after another. -/
inductive AreValues : List Token → List (String × Value String) → Prop where
  | nil : AreValues [] []
  | cons {name : String} {v : Value String} {rest : List (String × Value String)}
      {ts us : List Token} (hv : IsValue ts v) (hrest : AreValues us rest) :
    AreValues (.name name :: .colon :: (ts ++ us)) ((name, v) :: rest)

end

/-- Derivations of the arguments of a field. -/
inductive AreArguments : List Token → List (String × Value String) → Prop where
  | absent : AreArguments [] []
  | given {a : String × Value String} {as : List (String × Value String)} {ts : List Token}
      (h : AreValues ts (a :: as)) : AreArguments (.parenLeft :: (ts ++ [.parenRight])) (a :: as)

/-! ### Fields -/

/-- Derivations of an alias. -/
inductive IsAlias : List Token → Option String → Prop where
  | absent : IsAlias [] none
  | given {key : String} : IsAlias [.name key, .colon] (some key)

mutual

/-- Derivations of fields. -/
inductive IsField : List Token → QueryField String → Prop where
  | leaf {key : Option String} {name : String} {arguments : List (String × Value String)}
      {ks ts : List Token} (hk : IsAlias ks key) (ha : AreArguments ts arguments) :
    IsField (ks ++ .name name :: ts) (.leaf key name arguments)
  | branch {key : Option String} {name : String} {arguments : List (String × Value String)}
      {f : QueryField String} {fs : List (QueryField String)} {ks ts us : List Token}
      (hk : IsAlias ks key) (ha : AreArguments ts arguments) (hs : AreFields us (f :: fs)) :
    IsField (ks ++ .name name :: (ts ++ .braceLeft :: (us ++ [.braceRight])))
      (.branch key name arguments (f :: fs))

/-- Derivations of fields one after another. -/
inductive AreFields : List Token → List (QueryField String) → Prop where
  | nil : AreFields [] []
  | cons {f : QueryField String} {fs : List (QueryField String)} {ts us : List Token}
      (hf : IsField ts f) (hfs : AreFields us fs) : AreFields (ts ++ us) (f :: fs)

end

/-- Derivations of documents of one operation. -/
inductive IsOperation : List Token → Operation → Prop where
  | operation {type : OperationType} {name : String} {declarations : List Declaration}
      {f : QueryField String} {fs : List (QueryField String)} {ts us : List Token}
      (hh : IsHeader ts declarations) (hs : AreFields us (f :: fs)) :
    IsOperation (.name type.keyword :: .name name :: (ts ++ .braceLeft :: (us ++ [.braceRight])))
      ⟨type, name, declarations, f :: fs⟩

end TableGraph.GraphQL
