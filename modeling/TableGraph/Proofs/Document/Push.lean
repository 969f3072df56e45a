import TableGraph.Document

/-! # Adding roots to a document

What `Document.push` does when it succeeds (`push_eq_ok`): the root is of the document's type, its
alias is new, and it is the last root under this alias.  Hence a document that was filled by
`push` has an alias for every root and none of them twice (`Aliased.push`). -/

namespace TableGraph

theorem Node.withAlias_eq_self {n : Node} {key : String} (h : n.alias = some key) :
    n.withAlias key = n := by
  cases n
  simp only [Node.withAlias]
  rw [← h]

namespace Document

variable {d d' : Document} {n : Node} {key : String}

theorem numberedAlias_injective : Function.Injective numberedAlias :=
  Fresh.append_toString_injective "op"

theorem freeAlias_notMem (d : Document) : d.freeAlias ∉ d.aliases :=
  Fresh.index_free numberedAlias_injective _

/-- A root that is added is of the document's type; it keeps an alias of its own, and its alias is
in no use before. -/
theorem push_eq_ok (h : d.push n = .ok (key, d')) :
    n.kind.type? = some d.type ∧ (n.alias = none ∨ n.alias = some key) ∧ key ∉ d.aliases ∧
      d' = { d with roots := d.roots ++ [n.withAlias key] } := by
  unfold push at h
  split at h
  · rename_i htype
    refine ⟨htype, ?_⟩
    cases halias : n.alias with
    | none =>
        rw [halias] at h
        cases h
        exact ⟨.inl rfl, d.freeAlias_notMem, rfl⟩
    | some own =>
        rw [halias] at h
        simp only at h
        split at h
        · cases h
        · rename_i hnew
          cases h
          exact ⟨.inr rfl, hnew, by rw [Node.withAlias_eq_self halias]⟩
  · cases h

/-! ### Single roots -/

theorem freeAlias_empty (type : OperationType) : (empty type).freeAlias = "op0" := by
  show numberedAlias 0 = "op0"
  decide

theorem single_eq {type : OperationType} (htype : n.kind.type? = some type)
    (halias : n.alias = none) : single n = .ok ("op0", ⟨type, [n.withAlias "op0"]⟩) := by
  unfold single
  rw [htype]
  show (empty type).push n = _
  unfold push
  rw [if_pos (by exact htype), halias]
  simp only [freeAlias_empty]
  rfl

/-! ### Aliases -/

theorem aliases_append (d : Document) (n : Node) (key : String) :
    ({ d with roots := d.roots ++ [n.withAlias key] } : Document).aliases =
      d.aliases ++ [key] := by
  simp [aliases, Node.withAlias]

/-- Every root has an alias, and no two roots have the same. -/
structure Aliased (d : Document) : Prop where
  all : d.roots.map (·.alias) = d.aliases.map some
  nodup : d.aliases.Nodup

theorem Aliased.empty (type : OperationType) : Aliased (.empty type) := ⟨rfl, List.nodup_nil⟩

theorem Aliased.push (hd : d.Aliased) (h : d.push n = .ok (key, d')) : d'.Aliased := by
  obtain ⟨-, -, hnew, rfl⟩ := push_eq_ok h
  constructor
  · rw [aliases_append, List.map_append, List.map_append, hd.all]
    rfl
  · rw [aliases_append, List.nodup_append]
    refine ⟨hd.nodup, by simp, ?_⟩
    intro a ha b hb
    rw [List.mem_singleton.mp hb]
    exact fun he => hnew (he ▸ ha)

end Document

end TableGraph
