import TableGraph.Proofs.Batch.Collecting

/-! # Settling the handles of a batch

Every handle of an open batch is settled by exactly one pending root.

* On the data of an answer each handle gets what its root reads under its own alias
  (`Collecting.answerAll`): aliases are different, so the answers that other roots took out of the
  data before are not missed;
* on a failure every handle gets the failure (`Collecting.failAll`). -/

namespace TableGraph.Batch

variable {ρ : Type} {type : OperationType} {actions : List (Action ρ)} {b : Batch ρ}

theorem settleAt_length (done rest : List (Deferred ρ)) (d : Deferred ρ)
    (r : Except ClientError ρ) :
    settleAt (done ++ d :: rest) done.length r = (done ++ [d.settle r]) ++ rest := by
  unfold settleAt
  induction done with
  | nil => rfl
  | cons first more ih =>
      rw [List.cons_append, List.length_cons, List.modify_succ_cons, ih]
      rfl

/-- Pending roots whose numbers follow the settled handles settle the handles after these. -/
theorem answerAll_append (data : Json) (done : List (Deferred ρ)) (roots : List (PendingRoot ρ))
    (hnumbers : roots.map (·.handle) = List.range' done.length roots.length)
    (hnodup : (roots.map (·.alias)).Nodup) :
    answerAll data (done ++ List.replicate roots.length .pending) roots =
      done ++ roots.map fun root => .ofResult (root.read (Answer.root data root.alias)) := by
  induction roots generalizing data done with
  | nil => rfl
  | cons root rest ih =>
      simp only [List.map_cons, List.length_cons, List.range'_succ, List.cons.injEq] at hnumbers
      simp only [List.map_cons, List.nodup_cons] at hnodup
      obtain ⟨hnumber, hnumbers⟩ := hnumbers
      have hrest : ∀ other ∈ rest, Answer.root (data.without root.alias) other.alias =
          Answer.root data other.alias := by
        intro other hother
        refine Answer.root_without_ne (fun he => hnodup.1 ?_) data
        exact he ▸ List.mem_map_of_mem hother
      simp only [answerAll, Answer.takeRoot, List.length_cons, List.replicate_succ]
      rw [hnumber, settleAt_length, ih]
      · rw [List.append_assoc, List.singleton_append, List.map_cons, Deferred.settle_pending]
        congr 2
        exact List.map_congr_left fun other hother => by rw [hrest other hother]
      · rw [List.length_append, List.length_singleton]
        exact hnumbers
      · exact hnodup.2

theorem failAll_append (e : ClientError) (done : List (Deferred ρ)) (roots : List (PendingRoot ρ))
    (hnumbers : roots.map (·.handle) = List.range' done.length roots.length) :
    failAll e (done ++ List.replicate roots.length .pending) roots =
      done ++ List.replicate roots.length (.failed e) := by
  induction roots generalizing done with
  | nil => rfl
  | cons root rest ih =>
      simp only [List.map_cons, List.length_cons, List.range'_succ, List.cons.injEq] at hnumbers
      obtain ⟨hnumber, hnumbers⟩ := hnumbers
      simp only [failAll, List.length_cons, List.replicate_succ]
      rw [hnumber, settleAt_length, ih]
      · rw [List.append_assoc, List.singleton_append]
        rfl
      · rw [List.length_append, List.length_singleton]
        exact hnumbers

namespace Collecting

theorem handles_eq (h : Collecting type actions b) :
    b.handles = List.replicate b.pending.length .pending := by
  rw [h.length_pending, ← h.length_handles]
  exact List.eq_replicate_of_mem h.unread

theorem numbers_range' (h : Collecting type actions b) :
    b.pending.map (·.handle) = List.range' 0 b.pending.length := by
  rw [h.numbers, h.length_handles, h.length_pending, List.range_eq_range']

/-- Each handle gets what its root reads under its alias. -/
theorem answerAll (h : Collecting type actions b) (data : Json) :
    Batch.answerAll data b.handles b.pending =
      b.pending.map fun root => .ofResult (root.read (Answer.root data root.alias)) := by
  rw [h.handles_eq]
  exact answerAll_append data [] b.pending h.numbers_range' h.nodup

theorem failAll (h : Collecting type actions b) (e : ClientError) :
    Batch.failAll e b.handles b.pending = List.replicate b.handles.length (.failed e) := by
  rw [h.length_handles, ← h.length_pending, h.handles_eq]
  exact failAll_append e [] b.pending h.numbers_range'

end Collecting

/-! ### Commits -/

section
variable {σ : Type} {t : Transport σ} {s : σ}

theorem commit_eq (hb : b.isEmpty = false) :
    b.commit = .tell (.committingBatch b.size)
      ((Client.execute b.document.compile).bind b.distribute) := by
  unfold commit
  rw [hb]
  rfl

theorem run_commit_of_isEmpty (hb : b.isEmpty = true) :
    b.commit.run t s = ⟨(.ok (), { b with state := .closed }), [], [], s⟩ := by
  unfold commit
  rw [hb]
  rfl

/-- A batch with roots sends its document once. -/
theorem requests_commit (hb : b.isEmpty = false) :
    (b.commit.run t s).requests = [b.document.compile.request] := by
  rw [commit_eq hb]
  show b.document.compile.request :: ((b.distribute _).run t _).requests = _
  unfold distribute
  cases Client.dataOf (t b.document.compile.request s).outcome <;> rfl

theorem result_commit_of_ok (hb : b.isEmpty = false) {data : Json}
    (h : Client.dataOf (t b.document.compile.request s).outcome = .ok data) :
    (b.commit.run t s).result =
      (.ok (), { b with
        state := .closed, pending := [], handles := answerAll data b.handles b.pending }) := by
  rw [commit_eq hb]
  show ((b.distribute (Client.dataOf (t b.document.compile.request s).outcome)).run t _).result = _
  rw [h]
  rfl

theorem result_commit_of_error (hb : b.isEmpty = false) {e : ClientError}
    (h : Client.dataOf (t b.document.compile.request s).outcome = .error e) :
    (b.commit.run t s).result =
      (.error e, { b with
        state := .closed, pending := [], handles := failAll e b.handles b.pending }) := by
  rw [commit_eq hb]
  show ((b.distribute (Client.dataOf (t b.document.compile.request s).outcome)).run t _).result = _
  rw [h]
  rfl

end

end TableGraph.Batch
