import TableGraph.Proofs.Batch.Lifecycle
import TableGraph.Proofs.Operation.Building
import TableGraph.Sample.Tables

/-! # Batches and single runs

An action reads the same in a batch and on its own.

* `Finalized` are the actions that a caller can add to a batch: those of all operations, with
  their results in any form.  They have no alias of their own (`Finalized.alias_eq_none`), so an
  action on its own answers under `op0` (`Document.single_eq`);
* a single run reads the value under `op0` (`result_run`), and a batch the value under the alias of
  the root (`EndsAs.handles_of_data`). -/

namespace TableGraph

/-- What the calls of a batch try to add. -/
inductive Finalized : {ρ : Type} → Except ClientError (Action ρ) → Prop where
  | record {α : Type} [Decode α] (t : Table) (columns : Columns) (op : RecordOperation) :
    Finalized (op.returning t columns : Except ClientError (Action α))
  | list {α : Type} [Decode α] (t : Table) (columns : Columns) (op : ListOperation) :
    Finalized (op.returning t columns : Except ClientError (Action (List α)))
  | rows {α : Type} [Decode α] (t : Table) (columns : Columns) (op : BulkOperation) :
    Finalized (op.returning t columns : Except ClientError (Action (List α)))
  | affectedRows (t : Table) (op : BulkOperation) : Finalized (op.affectedRows t)
  | rowsWithNumber {α : Type} [Decode α] (t : Table) (columns : Columns) (op : BulkOperation) :
    Finalized (op.returningWithRows t columns : Except ClientError (Action (List α × Nat)))
  | rowsPerUpdate {α : Type} [Decode α] (t : Table) (columns : Columns) (us : DistinctUpdates) :
    Finalized (us.returning t columns : Except ClientError (Action (List (List α))))
  | affectedRowsPerUpdate (t : Table) (us : DistinctUpdates) : Finalized (us.affectedRows t)
  | rowsWithNumberPerUpdate {α : Type} [Decode α] (t : Table) (columns : Columns)
      (us : DistinctUpdates) :
    Finalized (us.returningWithRows t columns : Except ClientError (Action (List (List α × Nat))))
  | aggregates {β ν : Type} [Decode β] [Decode ν] (t : Table) (requested : Aggregates)
      (op : AggregateOperation) :
    Finalized (op.on t requested : Except ClientError (Action (Aggregate β ν)))
  | aggregatesWithNodes {α β ν : Type} [Decode α] [Decode β] [Decode ν] (t : Table)
      (requested : Aggregates) (columns : Columns) (op : AggregateOperation) :
    Finalized (op.withNodes t requested columns :
      Except ClientError (Action (Aggregate β ν × List α)))
  | count (t : Table) (op : AggregateOperation) : Finalized (op.count t)
  /-- The result is put into another form. -/
  | map {α ρ : Type} (f : α → ρ) {a : Except ClientError (Action α)} (h : Finalized a) :
    Finalized (a.map fun action => action.map f)

variable {σ ρ : Type}

theorem Finalized.alias_eq_none {a : Except ClientError (Action ρ)} (h : Finalized a) :
    ∀ action, a = .ok action → action.node.alias = none := by
  induction h with
  | record t columns op =>
      intro action ha
      obtain ⟨n, hn, rfl⟩ := map_eq_ok.mp ha
      exact rootNode_alias (liftBuild_eq_ok.mp hn)
  | list => exact fun action ha => rootNode_alias (actionOf_eq_ok ha)
  | rows => exact fun action ha => rootNode_alias (actionOf_eq_ok ha)
  | affectedRows => exact fun action ha => rootNode_alias (actionOf_eq_ok ha)
  | rowsWithNumber => exact fun action ha => rootNode_alias (actionOf_eq_ok ha)
  | rowsPerUpdate => exact fun action ha => rootNode_alias (actionOf_eq_ok ha)
  | affectedRowsPerUpdate => exact fun action ha => rootNode_alias (actionOf_eq_ok ha)
  | rowsWithNumberPerUpdate => exact fun action ha => rootNode_alias (actionOf_eq_ok ha)
  | aggregates => exact fun action ha => rootNode_alias (actionOf_eq_ok ha)
  | aggregatesWithNodes => exact fun action ha => rootNode_alias (actionOf_eq_ok ha)
  | count => exact fun action ha => rootNode_alias (actionOf_eq_ok ha)
  | map f h ih =>
      intro action ha
      obtain ⟨inner, hinner, rfl⟩ := map_eq_ok.mp ha
      exact ih inner hinner

/-! ### Single runs -/

theorem root_singleton (key : String) (value : Json) :
    Answer.root (.object [(key, value)]) key = value := by
  simp [Answer.root, Json.member?]

theorem result_execute_bind (t : Transport σ) (s : σ) (c : Compiled)
    (next : Except ClientError Json → Exchange ρ) :
    (((Client.execute c).bind next).run t s).result =
      ((next (Client.dataOf (t c.request s).outcome)).run t (t c.request s).state).result := rfl

/-- A single run reads the value under `op0`. -/
theorem result_run {a : Action ρ} {type : OperationType} (htype : a.node.kind.type? = some type)
    (halias : a.node.alias = none) {t : Transport σ} {s : σ} {value : Json}
    (h : ∀ request, Client.dataOf (t request s).outcome = .ok (.object [("op0", value)])) :
    ((Client.run a).run t s).result = a.read value := by
  unfold Client.run
  rw [Document.single_eq htype halias]
  refine (result_execute_bind t s _ _).trans ?_
  rw [h]
  show a.read (Answer.root (.object [("op0", value)]) "op0") = _
  rw [root_singleton]

/-- A run goes on with what its root answered. -/
theorem Client.run_eq {a : Action ρ} {key : String} {document : Document}
    (h : Document.single a.node = .ok (key, document)) :
    run a = (execute document.compile).bind fun answer =>
      .done (answer >>= fun data => a.read (Answer.root data key)) := by
  unfold run
  rw [h]
  refine congrArg (Exchange.bind _) (funext fun answer => ?_)
  cases answer <;> rfl

/-- What a run sends does not depend on the reading, and what is read is one value, if there is
any. -/
theorem Client.exists_answer (node : Node) (t : Transport σ) (s : σ) :
    ∃ (answer : Except ClientError Json) (requests : List Request),
      ∀ {α : Type} (read : Json → Except ClientError α),
        ((run ⟨node, read⟩).run t s).requests = requests ∧
        ((run ⟨node, read⟩).run t s).result = answer >>= read := by
  cases h : Document.single node with
  | error e =>
      refine ⟨.error (.ofBuildError e), [], fun read => ?_⟩
      have hrun : run ⟨node, read⟩ = .done (.error (.ofBuildError e)) := by
        unfold run
        rw [h]
      rw [hrun]
      exact ⟨rfl, rfl⟩
  | ok p =>
      obtain ⟨key, document⟩ := p
      let request := document.compile.request
      let data := dataOf (t request s).outcome
      refine ⟨data.map fun data => Answer.root data key, [request], fun read => ?_⟩
      rw [run_eq h]
      refine ⟨rfl, ?_⟩
      show data >>= (fun data => read (Answer.root data key)) =
        data.map (fun data => Answer.root data key) >>= read
      cases data <;> rfl

/-! ### Batches -/

namespace Batch

variable {type : OperationType} {actions : List (Action ρ)} {b : Batch ρ} {ending : Ending}
  {answer : Except ClientError Json} {ended : Ended ρ}

/-- On data the commit succeeds, and each handle has what its root reads under its alias. -/
theorem EndsAs.handles_of_data (h : EndsAs b answer ending ended) (hb : Collecting type actions b)
    (hc : ending.commits = true) {data : Json} (hdata : answer = .ok data) :
    ended.result = some (.ok ()) ∧ ended.batch.handles =
      b.pending.map fun root => .ofResult (root.read (Answer.root data root.alias)) := by
  refine ⟨?_, ?_⟩
  · rw [h.result_of_commits hc, hdata]
    cases b.isEmpty <;> rfl
  · cases h with
    | nothing _ hb' =>
        obtain ⟨hpending, hhandles⟩ := hb.eq_nil_of_isEmpty hb'
        rw [hpending]
        exact hhandles
    | answered _ _ ha =>
        cases ha.symm.trans hdata
        exact hb.answerAll _
    | failed _ _ ha => exact absurd (ha.symm.trans hdata) nofun
    | aborted => cases hc
    | dropped => cases hc
    | refused => cases hc
    | cancelledEmpty => cases hc
    | cancelled => cases hc

/-- After a commit that is answered with data, each handle reads what a single run of its action
results in when it is answered with the value under the alias of its root. -/
theorem handles_eq_single_runs (t : Transport σ) (s : σ) (type : OperationType)
    (attempts : List (Except ClientError (Action ρ))) (hfinal : ∀ a ∈ attempts, Finalized a)
    (ending : Ending) (hc : ending.commits = true) (r : Response) (data : Json)
    (hr : (t (filled type attempts).document.compile.request s).outcome = .ok r)
    (hdata : r.intoData = .ok data) :
    let actions := (empty type).added attempts
    let roots := (filled type attempts).document.roots
    let ended : Ended ρ := session t s type attempts ending
    ended.result = some (.ok ()) ∧ ended.batch.handles.length = actions.length ∧
    roots.length = actions.length ∧
    ∀ (i : Nat) (a : Action ρ) (n : Node) (key : String),
      actions[i]? = some a → roots[i]? = some n → n.alias = some key →
      ∀ {τ : Type} (single : Transport τ) (u : τ),
        (∀ request, ∃ r', (single request u).outcome = .ok r' ∧
          r'.intoData = .ok (.object [("op0", (data.member? key).getD .null)])) →
        ended.batch.handles[i]?.map Deferred.get = some ((Client.run a).run single u).result := by
  intro actions roots ended
  have hb : Collecting type actions (filled type attempts) := collecting_filled type attempts
  have hanswer : Client.dataOf (t (filled type attempts).document.compile.request s).outcome =
      .ok data := by
    simp only [Client.dataOf, hr]
    exact hdata
  obtain ⟨hresult, hhandles⟩ :=
    (session_endsAs t s type attempts ending).handles_of_data hb hc hanswer
  have hroots : roots.length = actions.length := by
    have hlength := congrArg List.length hb.map_alias
    rw [List.length_map, List.length_map, hb.length_pending] at hlength
    exact hlength
  refine ⟨hresult, ?_, hroots, ?_⟩
  · rw [hhandles, List.length_map, hb.length_pending]
  · intro i a n key ha hn halias τ single u hsingle
    obtain ⟨root, hroot, hread, hnode⟩ := hb.getElem? ha
    have hn' : some n = some (a.node.withAlias root.alias) := hn.symm.trans hnode
    cases hn'
    cases halias
    have haction := mem_added (List.mem_of_getElem? ha)
    have hnone := (hfinal _ haction).alias_eq_none a rfl
    have htype := hb.types a (List.mem_of_getElem? ha)
    have hvalue : ∀ request, Client.dataOf (single request u).outcome =
        .ok (.object [("op0", Answer.root data root.alias)]) := by
      intro request
      obtain ⟨r', hr', hdata'⟩ := hsingle request
      simp only [Client.dataOf, hr']
      exact hdata'
    have hrun := result_run htype hnone hvalue
    rw [hhandles, List.getElem?_map, hroot, hrun, ← hread]
    simp only [Option.map_some, Deferred.get_ofResult]

/-- Two lists of authors, of which only the second is answered, beside a key that nobody asked for.
The commit succeeds. The first handle reads null, as a single run does that is answered with null, and
fails; the second one reads no rows. -/
theorem handles_eq_single_runs_of_lists :
    let select : Except ClientError (Action (List Json)) :=
      (ListOperation.select .none).returning Sample.authors .key
    let data : Json := .object [("op1", .array []), ("other", .null)]
    let answering (value : Json) : Transport Unit :=
      fun _ _ => ⟨.ok (.ofData (.object [("op0", value)])), [], ()⟩
    let ended :=
      session (fun _ _ => ⟨.ok (.ofData data), [], ()⟩) () .query [select, select] .commit
    ended.result = some (.ok ()) ∧ ended.batch.handles.length = 2 ∧
    ended.batch.handles[0]?.map Deferred.get =
      some ((Client.call select).run (answering .null) ()).result ∧
    ((Client.call select).run (answering .null) ()).result =
      .error (.invalidResponse "Expected a list of records, got null") ∧
    ended.batch.handles[1]?.map Deferred.get =
      some ((Client.call select).run (answering (.array [])) ()).result ∧
    ((Client.call select).run (answering (.array [])) ()).result = .ok [] := by
  intro select data answering ended
  have hfinal : ∀ a ∈ [select, select], Finalized a := by
    intro a ha
    have hselect : a = select := by simpa using ha
    rw [hselect]
    exact .list Sample.authors .key (.select .none)
  obtain ⟨hresult, hlength, -, hhandle⟩ :=
    handles_eq_single_runs (fun _ _ => ⟨.ok (.ofData data), [], ()⟩) () .query
      [select, select] hfinal .commit rfl (.ofData data) data rfl rfl
  have hunanswered := hhandle 0 _ _ "op0" rfl rfl rfl (answering .null) () fun _ => ⟨_, rfl, rfl⟩
  have hanswered := hhandle 1 _ _ "op1" rfl rfl (by decide) (answering (.array [])) ()
    fun _ => ⟨_, rfl, rfl⟩
  exact ⟨hresult, hlength, hunanswered, rfl, hanswered, rfl⟩

end Batch

end TableGraph
