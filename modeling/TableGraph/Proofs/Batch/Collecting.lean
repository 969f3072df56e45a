import TableGraph.Batch.Session
import TableGraph.Proofs.Document.Push

/-! # Batches that are open

What holds of a batch as long as actions are added to it.

* `Collecting type actions b`: the roots of the document are those of the actions, each pending
  root has the alias of its root and the number of its handle, and no handle is settled;
* it holds of a new batch, an action that is added keeps it (`Collecting.defer`), and so does any
  sequence of attempts (`Collecting.attemptAll`);
* an attempt that fails changes nothing (`attempt_eq_error`). -/

namespace TableGraph.Batch

variable {ρ : Type} {type : OperationType} {actions : List (Action ρ)} {b : Batch ρ}

/-- The batch is open, and `actions` were added to it. -/
structure Collecting (type : OperationType) (actions : List (Action ρ)) (b : Batch ρ) : Prop where
  isOpen : b.state = .open
  type_eq : b.document.type = type
  /-- The roots are those of the actions, in order and under the aliases of the pending roots. -/
  roots : b.document.roots =
    List.zipWith (fun a root => a.node.withAlias root.alias) actions b.pending
  /-- All actions are of the type of the document. -/
  types : ∀ a ∈ actions, a.node.kind.type? = some type
  /-- An alias of the caller's own is kept. -/
  kept : ∀ p ∈ actions.zip b.pending, p.1.node.alias = none ∨ p.1.node.alias = some p.2.alias
  reads : b.pending.map (·.read) = actions.map (·.read)
  nodup : (b.pending.map (·.alias)).Nodup
  /-- The pending roots settle all handles that were given out, in order. -/
  numbers : b.pending.map (·.handle) = List.range b.handles.length
  unread : ∀ h ∈ b.handles, h = .pending

namespace Collecting

theorem length_pending (h : Collecting type actions b) : b.pending.length = actions.length := by
  have hlength := congrArg List.length h.reads
  rwa [List.length_map, List.length_map] at hlength

theorem length_handles (h : Collecting type actions b) : b.handles.length = actions.length := by
  have hlength := congrArg List.length h.numbers
  rw [List.length_map, List.length_range] at hlength
  rw [← hlength, h.length_pending]

/-- The pending roots match the roots of the document one to one, alias by alias. -/
theorem map_alias (h : Collecting type actions b) :
    b.document.roots.map (·.alias) = b.pending.map fun root => some root.alias := by
  rw [h.roots, List.map_zipWith]
  have hsnd := List.map_snd_zip (Nat.le_of_eq h.length_pending)
  calc List.zipWith (fun a root => (a.node.withAlias root.alias).alias) actions b.pending
      = ((actions.zip b.pending).map Prod.snd).map (fun root => some root.alias) := by
        rw [List.map_map, List.map_zip_eq_zipWith]
        rfl
    _ = b.pending.map fun root => some root.alias := by rw [hsnd]

theorem aliases_eq (h : Collecting type actions b) :
    b.document.aliases = b.pending.map (·.alias) := by
  have hroots : b.document.aliases = (b.document.roots.map (·.alias)).filterMap id := by
    rw [List.filterMap_map]
    rfl
  rw [hroots, h.map_alias, List.filterMap_map]
  exact congrFun List.filterMap_eq_map b.pending

theorem isEmpty_iff (h : Collecting type actions b) : b.isEmpty = true ↔ actions = [] := by
  unfold Batch.isEmpty Document.isEmpty
  rw [List.isEmpty_iff, ← List.length_eq_zero_iff, ← List.length_eq_zero_iff, h.roots,
    List.length_zipWith, h.length_pending, Nat.min_self]

theorem getElem? (h : Collecting type actions b) {i : Nat} {a : Action ρ}
    (ha : actions[i]? = some a) :
    ∃ root, b.pending[i]? = some root ∧ root.read = a.read ∧
      b.document.roots[i]? = some (a.node.withAlias root.alias) := by
  have hi : i < b.pending.length := by
    rw [h.length_pending]
    exact (List.getElem?_eq_some_iff.mp ha).1
  have hroot := List.getElem?_eq_getElem hi
  refine ⟨b.pending[i], hroot, ?_, ?_⟩
  · have hreads := congrArg (·[i]?) h.reads
    simp only [List.getElem?_map, hroot, ha, Option.map_some] at hreads
    exact Option.some.inj hreads
  · rw [h.roots, List.getElem?_zipWith, ha, hroot]

/-! ### Steps -/

theorem empty (type : OperationType) : Collecting type [] (empty type : Batch ρ) where
  isOpen := rfl
  type_eq := rfl
  roots := rfl
  types := fun _ ha => nomatch ha
  kept := fun _ hp => nomatch hp
  reads := rfl
  nodup := List.nodup_nil
  numbers := rfl
  unread := fun _ hh => nomatch hh

/-- Adding an action gives out the next handle, and the batch goes on collecting. -/
theorem defer (h : Collecting type actions b) {a : Action ρ} {i : Nat} {b' : Batch ρ}
    (hd : b.defer a = .ok (i, b')) :
    i = b.handles.length ∧ Collecting type (actions ++ [a]) b' := by
  unfold Batch.defer at hd
  rw [if_neg (not_not_intro h.isOpen)] at hd
  split at hd
  · cases hd
  · rename_i key document hpush
    cases hd
    obtain ⟨htype, hkept, hnew, rfl⟩ := Document.push_eq_ok hpush
    refine ⟨rfl, ?_⟩
    constructor
    · exact h.isOpen
    · exact h.type_eq
    · show _ ++ _ = _
      rw [List.zipWith_append h.length_pending.symm, h.roots]
      rfl
    · intro other hother
      rcases List.mem_append.mp hother with hother | hother
      · exact h.types other hother
      · rw [List.mem_singleton.mp hother, htype, h.type_eq]
    · intro p hp
      rw [List.zip_append h.length_pending.symm, List.mem_append] at hp
      rcases hp with hp | hp
      · exact h.kept p hp
      · rw [List.mem_singleton.mp hp]
        exact hkept
    · simp only [List.map_append, h.reads]
      rfl
    · rw [h.aliases_eq] at hnew
      simp only [List.map_append, List.map_cons, List.map_nil]
      rw [List.nodup_append]
      refine ⟨h.nodup, by simp, ?_⟩
      intro x hx y hy
      rw [List.mem_singleton.mp hy]
      exact fun he => hnew (he ▸ hx)
    · simp only [List.map_append, h.numbers, List.length_append, List.length_singleton,
        List.range_succ, List.map_cons, List.map_nil]
    · intro handle hh
      rcases List.mem_append.mp hh with hh | hh
      · exact h.unread handle hh
      · exact List.mem_singleton.mp hh

end Collecting

/-! ### Attempts -/

/-- An attempt that fails leaves the document, the pending roots and the handles as they were. -/
theorem attempt_eq_error {a : Except ClientError (Action ρ)} {e : ClientError}
    (h : (b.attempt a).1 = .error e) : (b.attempt a).2 = b := by
  cases a with
  | error e => rfl
  | ok a =>
      simp only [attempt] at h ⊢
      cases hd : b.defer a with
      | error e => rfl
      | ok p =>
          rw [hd] at h
          cases h

theorem mem_added {attempts : List (Except ClientError (Action ρ))} {a : Action ρ}
    (h : a ∈ b.added attempts) : .ok a ∈ attempts := by
  induction attempts generalizing b with
  | nil => cases h
  | cons first rest ih =>
      cases first with
      | error e => exact List.mem_cons_of_mem _ (ih h)
      | ok action =>
          simp only [added] at h
          split at h
          · exact List.mem_cons_of_mem _ (ih h)
          · rcases List.mem_cons.mp h with rfl | h
            · exact List.mem_cons_self
            · exact List.mem_cons_of_mem _ (ih h)

/-- Attempts one after another add the actions of those that succeed. -/
theorem Collecting.attemptAll (h : Collecting type actions b)
    (attempts : List (Except ClientError (Action ρ))) :
    Collecting type (actions ++ b.added attempts) (b.attemptAll attempts) := by
  induction attempts generalizing actions b with
  | nil =>
      simp only [added, Batch.attemptAll, List.append_nil]
      exact h
  | cons a rest ih =>
      cases a with
      | error e => exact ih h
      | ok a =>
          cases hd : b.defer a with
          | error e =>
              simp only [added, Batch.attemptAll, attempt, hd]
              exact ih h
          | ok p =>
              simp only [added, Batch.attemptAll, attempt, hd]
              rw [List.append_cons]
              exact ih (h.defer hd).2

end TableGraph.Batch
