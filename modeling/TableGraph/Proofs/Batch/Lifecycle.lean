import TableGraph.Proofs.Batch.Settling
import TableGraph.Sample.Tables

/-! # The life of a batch

Every session of a batch, whatever is attempted and however it ends.

* `EndsAs` lists the ways in which a batch can end, with all that is left in each of them;
* every session ends in one of them (`session_endsAs`), and each of them settles every handle
  (`EndsAs.settled`). -/

namespace TableGraph

namespace Ending

variable {ending : Ending}

theorem sends_of_commits : ending.commits = true → ending.sends = true := by
  cases ending <;> simp [Ending.sends]

theorem eq_cancel_of_sends (hs : ending.sends = true) (hc : ending.commits = false) :
    ending = .cancel := by
  cases ending with
  | cancel => rfl
  | commit => exact absurd hc nofun
  | abort => exact absurd hs nofun
  | drop => exact absurd hs nofun
  | scope result => exact absurd (hs.symm.trans hc) nofun

end Ending

namespace Batch

variable {σ ρ : Type} {t : Transport σ} {s : σ} {type : OperationType} {actions : List (Action ρ)}
  {b : Batch ρ} {attempts : List (Except ClientError (Action ρ))} {ending : Ending}
  {answer : Except ClientError Json} {ended : Ended ρ}

theorem collecting_filled (type : OperationType)
    (attempts : List (Except ClientError (Action ρ))) :
    Collecting type ((empty type).added attempts) (filled type attempts) :=
  (Collecting.empty type).attemptAll attempts

/-! ### Closures -/

theorem scope_ok (type : OperationType) (fill : Batch ρ → Batch ρ) :
    scope type (fun b => ((.ok () : Except ClientError Unit), fill b)) =
      (fill (empty type)).commit := by
  have hdone : (fun p : Except ClientError Unit × Batch ρ =>
      Exchange.done (p.1.map fun _ => (), p.2)) = Exchange.done := by
    funext p
    obtain ⟨result, b⟩ := p
    cases result <;> rfl
  show (fill (empty type)).commit.bind (fun p => Exchange.done (p.1.map fun _ => (), p.2)) = _
  rw [hdone]
  exact Exchange.bind_pure _

theorem scope_error (type : OperationType) (e : ClientError) (fill : Batch ρ → Batch ρ) :
    scope type (fun b => ((.error e : Except ClientError Unit), fill b)) =
      (fill (empty type)).drop.bind fun b => .done (.error e, b) := rfl

theorem drop_eq_abort (h : b.state = .open) : b.drop = b.abort := if_pos h

/-! ### The ways to end -/

/-- What is left of a batch that ended in a given way; `answer` is what the endpoint has for the
document of the batch. -/
inductive EndsAs (b : Batch ρ) (answer : Except ClientError Json) : Ending → Ended ρ → Prop where
  /-- There is nothing to commit. -/
  | nothing {ending : Ending} (hc : ending.commits = true) (hb : b.isEmpty = true) :
    EndsAs b answer ending ⟨some (.ok ()), { b with state := .closed }, []⟩
  /-- The answer has data. -/
  | answered {ending : Ending} {data : Json} (hc : ending.commits = true) (hb : b.isEmpty = false)
      (ha : answer = .ok data) :
    EndsAs b answer ending
      ⟨some (.ok ()), { b with
          state := .closed, pending := [], handles := answerAll data b.handles b.pending },
        [b.document.compile.request]⟩
  /-- The request fails. -/
  | failed {ending : Ending} {e : ClientError} (hc : ending.commits = true)
      (hb : b.isEmpty = false) (ha : answer = .error e) :
    EndsAs b answer ending
      ⟨some (.error e), { b with
          state := .closed, pending := [], handles := failAll e b.handles b.pending },
        [b.document.compile.request]⟩
  | aborted : EndsAs b answer .abort ⟨some (.ok ()), b.aborted, []⟩
  | dropped : EndsAs b answer .drop ⟨some (.ok ()), b.aborted, []⟩
  /-- The closure fails. -/
  | refused {e : ClientError} : EndsAs b answer (.scope (.error e)) ⟨some (.error e), b.aborted, []⟩
  /-- An empty batch is closed before anything can be cancelled. -/
  | cancelledEmpty (hb : b.isEmpty = true) :
    EndsAs b answer .cancel ⟨none, { b with state := .closed }, []⟩
  /-- The document was sent already. -/
  | cancelled (hb : b.isEmpty = false) :
    EndsAs b answer .cancel ⟨none, b.aborted, [b.document.compile.request]⟩

theorem commit_endsAs (hc : ending.commits = true) :
    EndsAs b (Client.dataOf (t b.document.compile.request s).outcome) ending
      ⟨some (b.commit.run t s).result.1, (b.commit.run t s).result.2,
        (b.commit.run t s).requests⟩ := by
  cases hb : b.isEmpty with
  | true =>
      rw [run_commit_of_isEmpty hb]
      exact .nothing hc hb
  | false =>
      rw [requests_commit hb]
      cases ha : Client.dataOf (t b.document.compile.request s).outcome with
      | ok data =>
          rw [result_commit_of_ok hb ha]
          exact .answered hc hb rfl
      | error e =>
          rw [result_commit_of_error hb ha]
          exact .failed hc hb rfl

theorem cancel_endsAs : EndsAs b answer .cancel ⟨none, b.cancel.batch, b.cancel.requests⟩ := by
  unfold cancel
  cases hb : b.isEmpty with
  | true => exact .cancelledEmpty hb
  | false =>
      rw [commit_eq hb]
      exact .cancelled hb

theorem session_endsAs (t : Transport σ) (s : σ) (type : OperationType)
    (attempts : List (Except ClientError (Action ρ))) (ending : Ending) :
    EndsAs (filled type attempts)
      (Client.dataOf (t (filled type attempts).document.compile.request s).outcome) ending
      (session t s type attempts ending) := by
  have hdrop := drop_eq_abort (collecting_filled type attempts).isOpen
  cases ending with
  | commit => exact commit_endsAs rfl
  | abort => exact .aborted
  | drop =>
      simp only [session, hdrop]
      exact .dropped
  | scope result =>
      cases result with
      | ok u =>
          simp only [session, scope_ok type (·.attemptAll attempts)]
          exact commit_endsAs rfl
      | error e =>
          simp only [session, scope_error type e (·.attemptAll attempts)]
          rw [show ((empty type).attemptAll attempts).drop = _ from hdrop]
          exact .refused
  | cancel => exact cancel_endsAs

/-! ### Handles at the end -/

theorem Collecting.eq_nil_of_isEmpty (hb : Collecting type actions b) (h : b.isEmpty = true) :
    b.pending = [] ∧ b.handles = [] := by
  have hactions := hb.isEmpty_iff.mp h
  have hpending := hb.length_pending
  have hhandles := hb.length_handles
  rw [hactions] at hpending hhandles
  exact ⟨List.length_eq_zero_iff.mp hpending, List.length_eq_zero_iff.mp hhandles⟩

theorem Collecting.handles_aborted (hb : Collecting type actions b) :
    b.aborted.handles = List.replicate b.handles.length (.failed Deferred.abortedError) :=
  hb.failAll _

namespace EndsAs

/-- Every handle has a result, and the batch is open no more. -/
theorem settled (h : EndsAs b answer ending ended) (hb : Collecting type actions b) :
    ended.batch.state ≠ .open ∧ ended.batch.pending = [] ∧
      ended.batch.handles.length = b.handles.length ∧
      ∀ d ∈ ended.batch.handles, ∃ r, d = .ofResult r := by
  have hempty : b.isEmpty = true → b.pending = [] ∧ ∀ d ∈ b.handles, ∃ r, d = .ofResult r := by
    intro hb'
    obtain ⟨hpending, hhandles⟩ := hb.eq_nil_of_isEmpty hb'
    rw [hhandles]
    exact ⟨hpending, fun d hd => nomatch hd⟩
  have hfail : ∀ e, (failAll e b.handles b.pending).length = b.handles.length ∧
      ∀ d ∈ failAll e b.handles b.pending, ∃ r, d = .ofResult r := by
    intro e
    rw [hb.failAll]
    exact ⟨List.length_replicate, fun d hd => ⟨.error e, List.eq_of_mem_replicate hd⟩⟩
  cases h with
  | nothing hc hb' => exact ⟨nofun, (hempty hb').1, rfl, (hempty hb').2⟩
  | answered hc hb' ha =>
      refine ⟨nofun, rfl, ?_, ?_⟩
      · rw [hb.answerAll, List.length_map, hb.length_pending, hb.length_handles]
      · intro d hd
        rw [hb.answerAll] at hd
        obtain ⟨root, -, rfl⟩ := List.mem_map.mp hd
        exact ⟨_, rfl⟩
  | failed hc hb' ha => exact ⟨nofun, rfl, (hfail _).1, (hfail _).2⟩
  | aborted => exact ⟨nofun, rfl, (hfail _).1, (hfail _).2⟩
  | dropped => exact ⟨nofun, rfl, (hfail _).1, (hfail _).2⟩
  | refused => exact ⟨nofun, rfl, (hfail _).1, (hfail _).2⟩
  | cancelledEmpty hb' => exact ⟨nofun, (hempty hb').1, rfl, (hempty hb').2⟩
  | cancelled hb' => exact ⟨nofun, rfl, (hfail _).1, (hfail _).2⟩

/-- A batch that is given up fails every handle. -/
theorem givenUp (h : EndsAs b answer ending ended) (hb : Collecting type actions b)
    (hc : ending.commits = false) :
    ∀ d ∈ ended.batch.handles, d = .failed Deferred.abortedError := by
  have haborted : ∀ d ∈ b.aborted.handles, d = .failed Deferred.abortedError := by
    intro d hd
    rw [hb.handles_aborted] at hd
    exact List.eq_of_mem_replicate hd
  cases h with
  | nothing hc' => exact absurd (hc'.symm.trans hc) nofun
  | answered hc' => exact absurd (hc'.symm.trans hc) nofun
  | failed hc' => exact absurd (hc'.symm.trans hc) nofun
  | aborted => exact haborted
  | dropped => exact haborted
  | refused => exact haborted
  | cancelledEmpty hb' =>
      intro d hd
      rw [show _ = b.handles from rfl, (hb.eq_nil_of_isEmpty hb').2] at hd
      cases hd
  | cancelled => exact haborted

/-- If the request fails, every handle of a commit has the failure. -/
theorem handles_of_error (h : EndsAs b answer ending ended) (hb : Collecting type actions b)
    (hc : ending.commits = true) {e : ClientError} (he : answer = .error e) :
    ∀ d ∈ ended.batch.handles, d = .failed e := by
  intro d hd
  cases h with
  | nothing _ hb' =>
      rw [show _ = b.handles from rfl, (hb.eq_nil_of_isEmpty hb').2] at hd
      cases hd
  | answered _ _ ha => exact absurd (ha.symm.trans he) nofun
  | failed _ _ ha =>
      cases ha.symm.trans he
      rw [hb.failAll] at hd
      exact List.eq_of_mem_replicate hd
  | aborted => cases hc
  | dropped => cases hc
  | refused => cases hc
  | cancelledEmpty => cases hc
  | cancelled => cases hc

/-- The requests of a session: the document of the roots, if there are any and they are sent. -/
theorem requests_eq (h : EndsAs b answer ending ended) :
    ended.requests =
      if b.isEmpty = false ∧ ending.sends = true then [b.document.compile.request] else [] := by
  cases h with
  | nothing _ hb => rw [if_neg (by simp [hb])]
  | answered hc hb => rw [if_pos ⟨hb, Ending.sends_of_commits hc⟩]
  | failed hc hb => rw [if_pos ⟨hb, Ending.sends_of_commits hc⟩]
  | aborted => rw [if_neg (by simp [Ending.sends, Ending.commits])]
  | dropped => rw [if_neg (by simp [Ending.sends, Ending.commits])]
  | refused => rw [if_neg (by simp [Ending.sends, Ending.commits])]
  | cancelledEmpty hb => rw [if_neg (by simp [hb])]
  | cancelled hb => rw [if_pos ⟨hb, rfl⟩]

/-- What the caller gets from a commit: nothing wrong, or the failure of the request. -/
theorem result_of_commits (h : EndsAs b answer ending ended) (hc : ending.commits = true) :
    ended.result = some (if b.isEmpty then .ok () else answer.map fun _ => ()) := by
  cases h with
  | nothing _ hb => rw [if_pos hb]
  | answered _ hb ha => rw [if_neg (by simp [hb]), ha]; rfl
  | failed _ hb ha => rw [if_neg (by simp [hb]), ha]; rfl
  | aborted => cases hc
  | dropped => cases hc
  | refused => cases hc
  | cancelledEmpty => cases hc
  | cancelled => cases hc

theorem result_of_refused {e : ClientError} (h : EndsAs b answer (.scope (.error e)) ended) :
    ended.result = some (.error e) := by
  cases h with
  | nothing hc => cases hc
  | answered hc => cases hc
  | failed hc => cases hc
  | refused => rfl

end EndsAs

/-- The life of a batch, from the first attempt to its end.  While it is open, nothing is settled
and the pending roots match the roots of the document; an attempt that fails changes nothing.  A
commit sends the document of all roots once, and a failed request fails all handles; giving the
batch up fails all handles as well.  In the end no handle is pending, and none changes any more. -/
theorem session_lifecycle (t : Transport σ) (s : σ) (type : OperationType)
    (attempts : List (Except ClientError (Action ρ))) (ending : Ending) :
    let b := filled type attempts
    let actions := (empty type).added attempts
    let reply := t b.document.compile.request s
    let ended := session t s type attempts ending
    (b.state = .open ∧ (∀ d ∈ b.handles, d.get = .error Deferred.pendingError) ∧
      b.handles.length = actions.length ∧
      b.document.roots =
        List.zipWith (fun a root => a.node.withAlias root.alias) actions b.pending ∧
      b.document.roots.map (·.alias) = b.pending.map (fun root => some root.alias) ∧
      b.pending.map (·.handle) = List.range b.handles.length) ∧
    (∀ a e, (b.attempt a).1 = .error e → (b.attempt a).2 = b) ∧
    (ending.commits = true → b.document.roots = [] →
      ended.requests = [] ∧ ended.result = some (.ok ())) ∧
    (ending.commits = true → b.document.roots ≠ [] →
      ended.requests = [b.document.compile.request] ∧
      (∀ r data, reply.outcome = .ok r → r.intoData = .ok data → ended.result = some (.ok ())) ∧
      ∀ e, (reply.outcome = .error e ∨ ∃ r, reply.outcome = .ok r ∧ r.intoData = .error e) →
        ended.result = some (.error e) ∧ ∀ d ∈ ended.batch.handles, d.get = .error e) ∧
    (∀ r : Response, (∃ e, r.intoData = .error e) ↔
      r.errors.getD [] ≠ [] ∨ r.error ≠ none ∨ r.data.getD .null = .null) ∧
    (ending.commits = false →
      (∀ d ∈ ended.batch.handles, d.get = .error Deferred.abortedError) ∧
      (ending ≠ .cancel → ended.requests = []) ∧
      (ending = .cancel → ended.requests =
        if b.document.roots = [] then [] else [b.document.compile.request]) ∧
      ∀ e, ending = .scope (.error e) → ended.result = some (.error e)) ∧
    ended.batch.state ≠ .open ∧ ended.batch.pending = [] ∧
    ended.batch.handles.length = actions.length ∧
    ∀ d ∈ ended.batch.handles, d.state ≠ .pending ∧ ∀ r, d.settle r = d := by
  intro b actions reply ended
  have hb : Collecting type actions b := collecting_filled type attempts
  have hend : EndsAs b (Client.dataOf reply.outcome) ending ended :=
    session_endsAs t s type attempts ending
  have hroots : b.document.roots = [] ↔ b.isEmpty = true := List.isEmpty_iff.symm
  have hrequests := hend.requests_eq
  obtain ⟨hstate, hpending, hlength, hsettled⟩ := hend.settled hb
  refine ⟨⟨hb.isOpen, ?_, hb.length_handles, hb.roots, hb.map_alias, hb.numbers⟩,
    fun a e => attempt_eq_error, ?_, ?_, Response.intoData_eq_error_iff, ?_, hstate, hpending,
    ?_, ?_⟩
  · intro d hd
    rw [hb.unread d hd]
    rfl
  · intro hc hr
    have hempty := hroots.mp hr
    rw [hrequests, hend.result_of_commits hc, if_neg (by simp [hempty]), if_pos hempty]
    exact ⟨rfl, rfl⟩
  · intro hc hr
    have hempty : b.isEmpty = false := Bool.eq_false_iff.mpr (mt hroots.mpr hr)
    have hresult := hend.result_of_commits hc
    rw [if_neg (by simp [hempty])] at hresult
    refine ⟨?_, ?_, ?_⟩
    · rw [hrequests, if_pos ⟨hempty, Ending.sends_of_commits hc⟩]
    · intro r data hr hdata
      rw [hresult]
      simp only [Client.dataOf, hr, hdata]
      rfl
    · intro e he
      have hanswer : Client.dataOf reply.outcome = .error e := by
        rcases he with he | ⟨r, hr, he⟩
        · simp only [Client.dataOf, he]
        · simp only [Client.dataOf, hr, he]
      refine ⟨?_, ?_⟩
      · rw [hresult, hanswer]
        rfl
      · intro d hd
        rw [hend.handles_of_error hb hc hanswer d hd]
        rfl
  · intro hc
    refine ⟨?_, ?_, ?_, ?_⟩
    · intro d hd
      rw [hend.givenUp hb hc d hd]
      rfl
    · intro hcancel
      rw [hrequests, if_neg (fun h => hcancel (Ending.eq_cancel_of_sends h.2 hc))]
    · rintro rfl
      rw [hrequests]
      by_cases hr : b.document.roots = []
      · rw [if_pos hr, if_neg (by simp [hroots.mp hr])]
      · rw [if_neg hr, if_pos ⟨Bool.eq_false_iff.mpr (mt hroots.mpr hr), rfl⟩]
    · rintro e rfl
      exact hend.result_of_refused
  · rw [hlength, hb.length_handles]
  · intro d hd
    obtain ⟨r, rfl⟩ := hsettled d hd
    exact ⟨Deferred.state_ofResult_ne r, Deferred.settle_ofResult r⟩

/-- A batch of one list: its document is sent once, and the handle has the rows. -/
example :
    let select : Except ClientError (Action (List Json)) :=
      (ListOperation.select .none).returning Sample.authors .key
    let row : Json := .object [("uuid", .string "A")]
    let data : Json := .object [("op0", .array [row])]
    let ended := session (fun _ _ => ⟨.ok (.ofData data), [], ()⟩) () .query [select] .commit
    ended.result = some (.ok ()) ∧ ended.requests.length = 1 ∧
      ended.batch.handles.map Deferred.get = [.ok [row]] :=
  ⟨rfl, rfl, rfl⟩

end Batch

end TableGraph
