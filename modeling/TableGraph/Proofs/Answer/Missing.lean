import TableGraph.Invocation
import TableGraph.Proofs.Answer.Reports
import TableGraph.Proofs.Batch.Immediate

/-! # Roots that answer nothing

A root may be missing from the data, it may answer null, or the data may be no object at all
(`Unanswered`).

* In each case the root reads as null (`Unanswered.root_eq_null`);
* no call reads null (`Calls.read_null`): one that asks for a record says that there is none, with the
  code of its operation and the field that was invoked, and every other call finds its answer to be of
  the wrong form;
* so it fails alike when it is run by itself and when it is committed in a batch
  (`null_never_succeeds`). -/

namespace TableGraph

/-! ### Missing answers -/

/-- The data have no answer for a root. -/
inductive Unanswered (key : String) : Json → Prop where
  | absent {members : OrderedMap Json} (h : members.lookup key = none) :
    Unanswered key (.object members)
  | null {members : OrderedMap Json} (h : members.lookup key = some .null) :
    Unanswered key (.object members)
  | notObject {data : Json} (hnull : data ≠ .null) (h : data.isObject = false) : Unanswered key data

theorem Unanswered.root_eq_null {key : String} {data : Json} (h : Unanswered key data) :
    Answer.root data key = .null := by
  cases h with
  | absent h => simp [Answer.root, Json.member?, h]
  | null h => simp [Answer.root, Json.member?, h]
  | notObject hnull h =>
      cases data with
      | object members => cases h
      | _ => rfl

/-- Whether a record operation has inserted nothing, was a mutation without a record, or found
nothing. -/
def RecordOperation.missingCode : RecordOperation → ErrorCode
  | .insert _ _ => .insertFailed
  | .call .mutation _ _ => .mutationFailed
  | .call .query _ _ => .notFound
  | .selectByKey _ => .notFound
  | .updateByKey _ _ => .notFound
  | .deleteByKey _ => .notFound

namespace Invocation

/-- The code of the failure if nothing is answered. -/
def missingCode : Invocation → ErrorCode
  | .record op _ => op.missingCode
  | _ => .invalidResponse

/-- The failure is that of an invocation for which nothing is answered. -/
structure ReportsMissing (t : Table) (i : Invocation) (e : ClientError) : Prop where
  code : e.code = i.missingCode
  /-- One that asks for a record names the field that was invoked. -/
  names : ∀ op columns, i = .record op columns →
    ∃ before after, e.message = before ++ BuildError.ticked (op.field t) ++ after

/-- The calls of an invocation, for records of any type and with the result in any form. -/
inductive Calls (t : Table) : {ρ : Type} → Invocation → Except ClientError (Action ρ) → Prop where
  | record {α : Type} [Decode α] (op : RecordOperation) (columns : Columns) :
    Calls t (.record op columns) (op.returning t columns : Except ClientError (Action α))
  | list {α : Type} [Decode α] (op : ListOperation) (columns : Columns) :
    Calls t (.list op columns) (op.returning t columns : Except ClientError (Action (List α)))
  | rows {α : Type} [Decode α] (op : BulkOperation) (columns : Columns) :
    Calls t (.bulk op (.returning columns))
      (op.returning t columns : Except ClientError (Action (List α)))
  | affectedRows (op : BulkOperation) : Calls t (.bulk op .affectedRows) (op.affectedRows t)
  | rowsWithNumber {α : Type} [Decode α] (op : BulkOperation) (columns : Columns) :
    Calls t (.bulk op (.returningWithRows columns))
      (op.returningWithRows t columns : Except ClientError (Action (List α × Nat)))
  | rowsPerUpdate {α : Type} [Decode α] (us : DistinctUpdates) (columns : Columns) :
    Calls t (.perUpdate us (.returning columns))
      (us.returning t columns : Except ClientError (Action (List (List α))))
  | affectedRowsPerUpdate (us : DistinctUpdates) :
    Calls t (.perUpdate us .affectedRows) (us.affectedRows t)
  | rowsWithNumberPerUpdate {α : Type} [Decode α] (us : DistinctUpdates) (columns : Columns) :
    Calls t (.perUpdate us (.returningWithRows columns))
      (us.returningWithRows t columns : Except ClientError (Action (List (List α × Nat))))
  | aggregates {β ν : Type} [Decode β] [Decode ν] (op : AggregateOperation)
      (requested : Aggregates) :
    Calls t (.aggregate op requested none)
      (op.on t requested : Except ClientError (Action (Aggregate β ν)))
  | aggregatesWithNodes {α β ν : Type} [Decode α] [Decode β] [Decode ν] (op : AggregateOperation)
      (requested : Aggregates) (columns : Columns) :
    Calls t (.aggregate op requested (some columns))
      (op.withNodes t requested columns : Except ClientError (Action (Aggregate β ν × List α)))
  | count (op : AggregateOperation) : Calls t (.count op) (op.count t)
  | function (op : AggregateOperation) (f : AggregateFunction) (columns : List String) :
    Calls t (.function op f columns) (op.function t f columns)
  /-- The result is put into another form. -/
  | map {α ρ : Type} (f : α → ρ) {i : Invocation} {call : Except ClientError (Action α)}
      (h : Calls t i call) : Calls t i (call.map fun a => a.map f)

variable {ρ : Type} {t : Table} {i : Invocation} {call : Except ClientError (Action ρ)}
  {a : Action ρ}

theorem calls_action (α β ν : Type) [Decode α] [Encode α] [Decode β] [Encode β] [Decode ν] [Encode ν]
    (t : Table) (i : Invocation) : Calls t i (i.action α β ν t) := by
  cases i with
  | record op columns => exact .map _ (.record op columns)
  | list op columns => exact .map _ (.list op columns)
  | bulk op output =>
      cases output with
      | returning columns => exact .map _ (.rows op columns)
      | affectedRows => exact .map _ (.affectedRows op)
      | returningWithRows columns => exact .map _ (.rowsWithNumber op columns)
  | perUpdate us output =>
      cases output with
      | returning columns => exact .map _ (.rowsPerUpdate us columns)
      | affectedRows => exact .map _ (.affectedRowsPerUpdate us)
      | returningWithRows columns => exact .map _ (.rowsWithNumberPerUpdate us columns)
  | aggregate op requested nodes =>
      cases nodes with
      | none => exact .map _ (.aggregates op requested)
      | some columns => exact .map _ (.aggregatesWithNodes op requested columns)
  | count op => exact .map _ (.count op)
  | function op f columns => exact .map _ (.function op f columns)

theorem Calls.node_eq (h : Calls t i call) (ha : call = .ok a) : i.node t = .ok a.node := by
  induction h with
  | record op columns =>
      obtain ⟨n, hn, rfl⟩ := map_eq_ok.mp ha
      exact liftBuild_eq_ok.mp hn
  | map f h ih =>
      obtain ⟨inner, hinner, rfl⟩ := map_eq_ok.mp ha
      exact ih hinner
  | list => exact actionOf_eq_ok ha
  | rows => exact actionOf_eq_ok ha
  | affectedRows => exact actionOf_eq_ok ha
  | rowsWithNumber => exact actionOf_eq_ok ha
  | rowsPerUpdate => exact actionOf_eq_ok ha
  | affectedRowsPerUpdate => exact actionOf_eq_ok ha
  | rowsWithNumberPerUpdate => exact actionOf_eq_ok ha
  | aggregates => exact actionOf_eq_ok ha
  | aggregatesWithNodes => exact actionOf_eq_ok ha
  | count => exact actionOf_eq_ok ha
  | function => exact actionOf_eq_ok ha

theorem single_of_node_eq {n : Node} (h : i.node t = .ok n) :
    ∃ document, Document.single n = .ok ("op0", document) := by
  have hroot : ∀ {kind : NodeKind} {field : String} {arguments selection},
      kind.type?.isSome = true → rootNode kind t field arguments selection = .ok n →
      ∃ document, Document.single n = .ok ("op0", document) := by
    intro kind field arguments selection hkind h
    obtain ⟨type, htype⟩ := Option.isSome_iff_exists.mp hkind
    obtain ⟨as, es, -, -, rfl⟩ := rootNode_eq_ok h
    exact ⟨_, Document.single_eq htype rfl⟩
  cases i with
  | record op columns => exact hroot (by cases op <;> rfl) h
  | list op columns => exact hroot (by cases op <;> rfl) h
  | bulk op output => exact hroot (by cases op <;> rfl) h
  | perUpdate us output => exact hroot rfl h
  | aggregate op requested nodes => exact hroot (by cases op <;> rfl) h
  | count op => exact hroot (by cases op <;> rfl) h
  | function op f columns => exact hroot (by cases op <;> rfl) h

theorem reportsMissing_record (t : Table) (op : RecordOperation) (columns : Columns) :
    ReportsMissing t (.record op columns) (Answer.missingRecord op.kind (op.field t)) := by
  have hnotFound : ∀ field, ∃ before after,
      (ClientError.notFound ("Record of " ++ BuildError.ticked field)).message =
        before ++ BuildError.ticked field ++ after := fun field => ⟨_, _, rfl⟩
  have hfirst : ∀ field text : String, ∃ before after,
      BuildError.ticked field ++ text = before ++ BuildError.ticked field ++ after :=
    fun field text => ⟨"", text, by rw [String.empty_append]⟩
  constructor
  · cases op with
    | call type function args => cases type <;> rfl
    | _ => rfl
  · rintro op' columns' ⟨⟩
    cases op with
    | insert object onConflict => exact hfirst _ _
    | call type function args =>
        cases type with
        | query => exact hnotFound _
        | mutation => exact hfirst _ _
    | selectByKey key => exact hnotFound _
    | updateByKey key ops => exact hnotFound _
    | deleteByKey key => exact hnotFound _

/-- No call reads null. -/
theorem Calls.read_null (h : Calls t i call) (ha : call = .ok a) :
    ∃ e, a.read .null = .error e ∧ ReportsMissing t i e := by
  have hanswer : ∀ {α : Type} {node : Except BuildError Node} {read : Json → Except ClientError α}
      {a : Action α} {e : ClientError} {i : Invocation}, actionOf node read = .ok a →
      read .null = .error e → i.missingCode = .invalidResponse → e.code = .invalidResponse →
      (∀ op columns, i ≠ .record op columns) →
      ∃ e, a.read .null = .error e ∧ ReportsMissing t i e := by
    intro α node read a e i ha hread hcode he hi
    rw [read_of_actionOf ha, hread]
    exact ⟨e, rfl, he.trans hcode.symm, fun op columns hrecord => absurd hrecord (hi op columns)⟩
  induction h with
  | record op columns =>
      obtain ⟨n, hn, rfl⟩ := map_eq_ok.mp ha
      obtain ⟨as, es, -, -, rfl⟩ := rootNode_eq_ok (liftBuild_eq_ok.mp hn)
      exact ⟨_, rfl, reportsMissing_record t op columns⟩
  | map f h ih =>
      obtain ⟨inner, hinner, rfl⟩ := map_eq_ok.mp ha
      obtain ⟨e, he, hreports⟩ := ih hinner
      exact ⟨e, map_eq_error.mpr he, hreports⟩
  | list => exact hanswer ha rfl rfl rfl nofun
  | rows => exact hanswer ha rfl rfl rfl nofun
  | affectedRows => exact hanswer ha rfl rfl rfl nofun
  | rowsWithNumber => exact hanswer ha rfl rfl rfl nofun
  | rowsPerUpdate => exact hanswer ha rfl rfl rfl nofun
  | affectedRowsPerUpdate => exact hanswer ha rfl rfl rfl nofun
  | rowsWithNumberPerUpdate => exact hanswer ha rfl rfl rfl nofun
  | aggregates => exact hanswer ha rfl rfl rfl nofun
  | aggregatesWithNodes => exact hanswer ha rfl rfl rfl nofun
  | count => exact hanswer ha rfl rfl rfl nofun
  | function => exact hanswer ha rfl rfl rfl nofun

/-! ### Runs and batches -/

/-- A root that answers nothing is a failure for whoever asked, and never a value: no record, no
list, no number. A call that is run by itself fails, and so does the handle of a call in a batch that
is committed, whatever else the batch holds. The failure of an operation that asks for a record has
its code and names the field that was invoked, and every other call has an invalid response. -/
theorem null_never_succeeds (h : Calls t i call) (ha : call = .ok a) :
    (∃ document, Document.single a.node = .ok ("op0", document) ∧
      ∀ {σ : Type} (tr : Transport σ) (s : σ) (r : Response) (data : Json),
        (tr document.compile.request s).outcome = .ok r → r.intoData = .ok data →
        Unanswered "op0" data →
        ∃ e, ((Client.run a).run tr s).result = .error e ∧ ReportsMissing t i e) ∧
    ∀ {σ : Type} (tr : Transport σ) (s : σ) (type : OperationType)
      (attempts : List (Except ClientError (Action ρ))) (ending : Ending), ending.commits = true →
      ∀ (r : Response) (data : Json),
        (tr (Batch.filled type attempts).document.compile.request s).outcome = .ok r →
        r.intoData = .ok data →
        ∀ (k : Nat) (n : Node) (key : String), ((Batch.empty type).added attempts)[k]? = some a →
          (Batch.filled type attempts).document.roots[k]? = some n → n.alias = some key →
          Unanswered key data →
          ∃ e, (Batch.session tr s type attempts ending).batch.handles[k]?.map Deferred.get =
            some (.error e) ∧ ReportsMissing t i e := by
  obtain ⟨e, he, hreports⟩ := h.read_null ha
  have hnull : ∀ {key : String} {data : Json}, Unanswered key data →
      a.read (Answer.root data key) = .error e := by
    intro key data hdata
    rw [hdata.root_eq_null, he]
  refine ⟨?_, ?_⟩
  · obtain ⟨document, hsingle⟩ := single_of_node_eq (h.node_eq ha)
    refine ⟨document, hsingle, fun tr s r data hr hdata hmissing => ⟨e, ?_, hreports⟩⟩
    rw [Client.run_eq hsingle]
    refine (result_execute_bind tr s _ _).trans ?_
    simp only [Client.dataOf, hr, hdata]
    exact hnull hmissing
  · intro σ tr s type attempts ending hc r data hr hdata k n key hk hn halias hmissing
    have hb := Batch.collecting_filled type attempts
    have hanswer : Client.dataOf
        (tr (Batch.filled type attempts).document.compile.request s).outcome = .ok data := by
      simp only [Client.dataOf, hr, hdata]
    obtain ⟨-, hhandles⟩ :=
      (Batch.session_endsAs tr s type attempts ending).handles_of_data hb hc hanswer
    obtain ⟨root, hroot, hread, hnode⟩ := hb.getElem? hk
    cases hn.symm.trans hnode
    cases halias
    refine ⟨e, ?_, hreports⟩
    rw [hhandles, List.getElem?_map, hroot, Option.map_some, Option.map_some, Deferred.get_ofResult,
      hread, hnull hmissing]

/-- An author is inserted: the call fails where the root answers null, and so does the handle of a
batch whose data are no object. -/
theorem null_never_succeeds_of_insert :
    let op : RecordOperation := .insert (.object [("name", .string "Ada")]) none
    let call : Except ClientError (Action Json) := op.returning Sample.authors .key
    let alone : Json := .object [("op0", .null)]
    ∃ a, Calls Sample.authors (.record op .key) call ∧ call = .ok a ∧
      Unanswered "op0" alone ∧ Unanswered "op0" (.bool true) ∧
      (∃ e, ((Client.run a).run (fun _ _ => ⟨.ok (.ofData alone), [], ()⟩) ()).result = .error e ∧
        e.code = .insertFailed) ∧
      ∃ e, (Batch.session (fun _ _ => ⟨.ok (.ofData (.bool true)), [], ()⟩) () .mutation [call]
        .commit).batch.handles[0]?.map Deferred.get = some (.error e) ∧ e.code = .insertFailed := by
  intro op call alone
  let a : Action Json := ⟨⟨.insertOne, Sample.authors, "insert_authors_one", none,
    [.bound "object" "authors_insert_input!" (.object [("name", .string "Ada")])],
    [.column "uuid"]⟩, Answer.one (Answer.missingRecord .insertOne "insert_authors_one")⟩
  have hcalls : Calls Sample.authors (.record op .key) call := .record op .key
  have ha : call = .ok a := rfl
  have halone : Unanswered "op0" alone := .null rfl
  have hbatch : Unanswered "op0" (.bool true) := .notObject nofun rfl
  obtain ⟨⟨document, hsingle, hrun⟩, hsession⟩ := null_never_succeeds hcalls ha
  refine ⟨a, hcalls, ha, halone, hbatch, ?_, ?_⟩
  · obtain ⟨e, he, hreports⟩ := hrun (fun _ _ => ⟨.ok (.ofData alone), [], ()⟩) () (.ofData alone)
      alone rfl rfl halone
    exact ⟨e, he, hreports.code⟩
  · obtain ⟨e, he, hreports⟩ := hsession (fun _ _ => ⟨.ok (.ofData (.bool true)), [], ()⟩) ()
      .mutation [call] .commit rfl (.ofData (.bool true)) (.bool true) rfl rfl 0
      (a.node.withAlias "op0") "op0" rfl rfl rfl hbatch
    exact ⟨e, he, hreports.code⟩

end Invocation

end TableGraph
