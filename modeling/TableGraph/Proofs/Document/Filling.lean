import Mathlib.Order.Bounds.Basic
import TableGraph.Document.Filling
import TableGraph.Proofs.Document.Push

/-! # Filling a document

What becomes of a document to which roots are added one after another, some of them under aliases
of their own and some refused.

* `Filled type d`: all roots are of the type, and each has an alias of its own. It holds of a new
  document, an attempt keeps it (`Filled.attempt`), and so does any number of them
  (`Filled.attemptAll`);
* an attempt fails for the wrong type first (`attempt_eq_mixed_iff`), then for an alias in use
  (`attempt_eq_duplicate_iff`), and for nothing else; a root without an alias gets the first number
  from the number of earlier roots on whose alias is free (`attempt_numbered`). -/

namespace TableGraph.Document

variable {type : OperationType} {d : Document} {n : Node}

/-! ### One attempt -/

theorem attempt_eq_error {e : BuildError} (h : (d.attempt n).1 = .error e) :
    d.push n = .error e ∧ (d.attempt n).2 = d := by
  unfold attempt at h ⊢
  cases hpush : d.push n with
  | error e' =>
      rw [hpush] at h
      cases h
      exact ⟨rfl, rfl⟩
  | ok p =>
      rw [hpush] at h
      cases h

theorem attempt_of_push_error {e : BuildError} (h : d.push n = .error e) :
    d.attempt n = (.error e, d) := by
  unfold attempt
  rw [h]

theorem push_of_type_ne (h : n.kind.type? ≠ some d.type) :
    d.push n = .error (.mixedOperationTypes d.type.keyword n.kind.name) := by
  unfold push
  rw [if_neg h]

theorem push_of_alias_mem (htype : n.kind.type? = some d.type) {key : String}
    (halias : n.alias = some key) (hused : key ∈ d.aliases) :
    d.push n = .error (.duplicateAlias key) := by
  unfold push
  rw [if_pos htype, halias]
  exact if_pos hused

theorem attempt_kept (htype : n.kind.type? = some d.type) {key : String}
    (halias : n.alias = some key) (hnew : key ∉ d.aliases) :
    d.attempt n = (.ok key, { d with roots := d.roots ++ [n.withAlias key] }) := by
  have hpush : d.push n = .ok (key, { d with roots := d.roots ++ [n] }) := by
    unfold push
    rw [if_pos htype, halias]
    exact if_neg hnew
  unfold attempt
  rw [hpush, Node.withAlias_eq_self halias]

theorem attempt_numbered (htype : n.kind.type? = some d.type) (halias : n.alias = none) :
    d.attempt n =
      (.ok d.freeAlias, { d with roots := d.roots ++ [n.withAlias d.freeAlias] }) := by
  unfold attempt push
  rw [if_pos htype, halias]

/-- Every way in which an attempt can fail. -/
theorem push_eq_error {e : BuildError} (h : d.push n = .error e) :
    (n.kind.type? ≠ some d.type ∧ e = .mixedOperationTypes d.type.keyword n.kind.name) ∨
      ∃ key, n.kind.type? = some d.type ∧ n.alias = some key ∧ key ∈ d.aliases ∧
        e = .duplicateAlias key := by
  by_cases htype : n.kind.type? = some d.type
  · refine .inr ?_
    have hattempt := attempt_of_push_error h
    cases halias : n.alias with
    | none =>
        rw [attempt_numbered htype halias] at hattempt
        cases hattempt
    | some key =>
        by_cases hused : key ∈ d.aliases
        · rw [push_of_alias_mem htype halias hused] at h
          cases h
          exact ⟨key, htype, rfl, hused, rfl⟩
        · rw [attempt_kept htype halias hused] at hattempt
          cases hattempt
  · rw [push_of_type_ne htype] at h
    cases h
    exact .inl ⟨htype, rfl⟩

theorem attempt_eq_mixed_iff :
    (d.attempt n).1 = .error (.mixedOperationTypes d.type.keyword n.kind.name) ↔
      n.kind.type? ≠ some d.type := by
  constructor
  · intro h
    rcases push_eq_error (attempt_eq_error h).1 with ⟨htype, -⟩ | ⟨key, -, -, -, he⟩
    · exact htype
    · cases he
  · intro htype
    rw [attempt_of_push_error (push_of_type_ne htype)]

theorem attempt_eq_duplicate_iff {key : String} :
    (d.attempt n).1 = .error (.duplicateAlias key) ↔
      n.kind.type? = some d.type ∧ n.alias = some key ∧ key ∈ d.aliases := by
  constructor
  · intro h
    rcases push_eq_error (attempt_eq_error h).1 with ⟨-, he⟩ | ⟨own, htype, halias, hused, he⟩
    · cases he
    · cases he
      exact ⟨htype, halias, hused⟩
  · rintro ⟨htype, halias, hused⟩
    rw [attempt_of_push_error (push_of_alias_mem htype halias hused)]

/-- The number of a free alias is the least from the number of roots on, and a search that starts
there ends at it. -/
theorem exists_freeAlias (d : Document) :
    ∃ i, d.freeAlias = numberedAlias i ∧
      IsLeast {i | d.roots.length ≤ i ∧ numberedAlias i ∉ d.aliases} i ∧
      Fresh.Ends d.aliases numberedAlias d.roots.length i := by
  refine ⟨_, rfl, ⟨⟨Fresh.le_index _, d.freeAlias_notMem⟩, ?_⟩,
    Fresh.ends_index numberedAlias_injective _⟩
  intro i ⟨hi, hfree⟩
  by_contra hlt
  exact hfree (Fresh.mem_of_lt_index hi (Nat.lt_of_not_le hlt))

/-! ### Any number of attempts -/

/-- A document whose roots are of one type and have aliases of their own. -/
structure Filled (type : OperationType) (d : Document) : Prop where
  type_eq : d.type = type
  types : ∀ root ∈ d.roots, root.kind.type? = some type
  aliased : d.Aliased

theorem Filled.empty (type : OperationType) : Filled type (.empty type) :=
  ⟨rfl, nofun, .empty type⟩

theorem Filled.attempt (h : Filled type d) (n : Node) : Filled type (d.attempt n).2 := by
  cases hpush : d.push n with
  | error e =>
      rw [attempt_of_push_error hpush]
      exact h
  | ok p =>
      obtain ⟨key, d'⟩ := p
      have hattempt : (d.attempt n).2 = d' := by
        unfold Document.attempt
        rw [hpush]
      have haliased := h.aliased.push hpush
      obtain ⟨htype, -, -, rfl⟩ := push_eq_ok hpush
      rw [hattempt]
      refine ⟨h.type_eq, ?_, haliased⟩
      refine List.forall_mem_append.mpr ⟨h.types, List.forall_mem_singleton.mpr ?_⟩
      exact h.type_eq ▸ htype

theorem Filled.attemptAll (h : Filled type d) (nodes : List Node) :
    Filled type (d.attemptAll nodes) := by
  induction nodes generalizing d with
  | nil => exact h
  | cons n rest ih => exact ih (h.attempt n)

/-- After any sequence of attempts all roots are of the document's type and under different
aliases, and the next attempt fails for a wrong type, or else for an alias that is in use, and then
changes nothing; otherwise it appends the node under its own alias, or under the first free number
from the number of earlier roots on. -/
theorem attempts_keep_aliases (type : OperationType) (nodes : List Node) :
    let d := (empty type).attemptAll nodes
    (∀ root ∈ d.roots, root.kind.type? = some type) ∧
    d.roots.map (·.alias) = d.aliases.map some ∧ d.aliases.Nodup ∧
    ∀ n : Node,
      ((d.attempt n).1 = .error (.mixedOperationTypes type.keyword n.kind.name) ↔
        n.kind.type? ≠ some type) ∧
      (n.kind.isRelated = true → n.kind.type? ≠ some type) ∧
      (∀ key, (d.attempt n).1 = .error (.duplicateAlias key) ↔
        n.kind.type? = some type ∧ n.alias = some key ∧ key ∈ d.aliases) ∧
      (∀ e, (d.attempt n).1 = .error e → (d.attempt n).2 = d) ∧
      (n.kind.type? = some type → (∀ key, n.alias = some key → key ∉ d.aliases) →
        ∃ key, d.attempt n = (.ok key, { d with roots := d.roots ++ [n.withAlias key] }) ∧
          (∀ own, n.alias = some own → key = own) ∧
          (n.alias = none → ∃ i, key = numberedAlias i ∧
            IsLeast {i | d.roots.length ≤ i ∧ numberedAlias i ∉ d.aliases} i ∧
            Fresh.Ends d.aliases numberedAlias d.roots.length i)) := by
  intro d
  have hd : Filled type d := (Filled.empty type).attemptAll nodes
  refine ⟨hd.types, hd.aliased.all, hd.aliased.nodup, ?_⟩
  rw [← hd.type_eq]
  intro n
  refine ⟨attempt_eq_mixed_iff, ?_, fun key => attempt_eq_duplicate_iff,
    fun e he => (attempt_eq_error he).2, ?_⟩
  · intro hrelated htype
    unfold NodeKind.isRelated at hrelated
    rw [htype] at hrelated
    cases hrelated
  · intro htype hnew
    cases halias : n.alias with
    | some own =>
        refine ⟨own, attempt_kept htype halias (hnew own halias), ?_, nofun⟩
        intro other hother
        exact Option.some.inj hother
    | none =>
        exact ⟨d.freeAlias, attempt_numbered htype halias, nofun, fun _ => d.exists_freeAlias⟩

/-- An alias that was chosen is passed over, and one that was given out is not given again. -/
example (t : Table) :
    let n : Node := ⟨.selectMany, t, "authors", none, [], [.column "uuid"]⟩
    ((empty .query).attemptAll [n.withAlias "op1", n, n.withAlias "op2", n]).aliases =
      ["op1", "op2", "op3"] := by
  cbv

end TableGraph.Document
