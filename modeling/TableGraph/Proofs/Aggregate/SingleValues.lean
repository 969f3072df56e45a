import TableGraph.Proofs.Aggregate.Steps
import TableGraph.Proofs.Batch.Immediate

/-! # Single aggregates

A count, or one function, that is asked for by itself.

* The projection of an answer that is asked for one place alone is read and has a value there exactly
  if the member of its name has this value (`Aggregate.ofAnswer_alone_iff`), and the count and the
  functions are read by themselves of the same members (`Aggregate.countOfAnswer_iff`,
  `Aggregate.functionOfAnswer_iff`);
* what a run sends does not depend on how its answer is read (`Client.exists_answer`), so a call for
  one value and the general call for it send the same, and have the same value or none
  (`ReadsOneOf`). -/

namespace TableGraph

/-! ### Calls for one of several values -/

section
variable {α β : Type}

/-- A call that reads one of the values of another call. -/
structure ReadsOneOf (special : Except ClientError (Action β))
    (general : Except ClientError (Action α)) (part : α → Option β) : Prop where
  /-- They fail to build alike. -/
  built : ∀ e, special = .error e ↔ general = .error e
  /-- They have one root, and the one reads a value if the other reads it. -/
  read : ∀ a b, special = .ok a → general = .ok b → a.node = b.node ∧
    ∀ value x, a.read value = .ok x ↔ ∃ y, b.read value = .ok y ∧ part y = some x
  /-- They send the same requests. -/
  sent : ∀ {σ : Type} (t : Transport σ) (s : σ),
    ((Client.call special).run t s).requests = ((Client.call general).run t s).requests
  /-- The one has a value if the other has it. -/
  value : ∀ {σ : Type} (t : Transport σ) (s : σ) (x : β),
    ((Client.call special).run t s).result = .ok x ↔
      ∃ y, ((Client.call general).run t s).result = .ok y ∧ part y = some x
  /-- Where the other has results without this value, the one fails. -/
  absent : ∀ {σ : Type} (t : Transport σ) (s : σ) (y : α),
    ((Client.call general).run t s).result = .ok y →
      ((∃ e, ((Client.call special).run t s).result = .error e) ↔ part y = none)
  /-- Where the other fails, the one fails. -/
  failed : ∀ {σ : Type} (t : Transport σ) (s : σ) (e : ClientError),
    ((Client.call general).run t s).result = .error e →
      ∃ e', ((Client.call special).run t s).result = .error e'

variable {special : Json → Except ClientError β} {general : Json → Except ClientError α}
  {part : α → Option β}

theorem exists_error_iff {x : Except ClientError β} :
    (∃ e, x = .error e) ↔ ∀ b, x ≠ .ok b := by
  cases x with
  | error e => exact iff_of_true ⟨e, rfl⟩ nofun
  | ok b => exact iff_of_false nofun fun h => h b rfl

theorem readsOneOf_actionOf {node : Except BuildError Node}
    (h : ∀ n, node = .ok n → ∀ value x, special value = .ok x ↔
      ∃ y, general value = .ok y ∧ part y = some x) :
    ReadsOneOf (actionOf node special) (actionOf node general) part := by
  have hruns : ∀ {σ : Type} (t : Transport σ) (s : σ),
      ((Client.call (actionOf node special)).run t s).requests =
        ((Client.call (actionOf node general)).run t s).requests ∧
      ∀ x, ((Client.call (actionOf node special)).run t s).result = .ok x ↔
        ∃ y, ((Client.call (actionOf node general)).run t s).result = .ok y ∧ part y = some x := by
    intro σ t s
    cases node with
    | error e => exact ⟨rfl, fun x => iff_of_false nofun fun ⟨y, hy, _⟩ => nomatch hy⟩
    | ok n =>
        obtain ⟨answer, requests, hrun⟩ := Client.exists_answer n t s
        obtain ⟨hsent, hresult⟩ := hrun special
        obtain ⟨hsent', hresult'⟩ := hrun general
        refine ⟨hsent.trans hsent'.symm, fun x => ?_⟩
        show ((Client.run ⟨n, special⟩).run t s).result = .ok x ↔
          ∃ y, ((Client.run ⟨n, general⟩).run t s).result = .ok y ∧ part y = some x
        rw [hresult, hresult']
        cases answer with
        | error e => exact iff_of_false nofun fun ⟨y, hy, _⟩ => nomatch hy
        | ok value => exact h n rfl value x
  have hnone : ∀ {σ : Type} (t : Transport σ) (s : σ) (y : α),
      ((Client.call (actionOf node general)).run t s).result = .ok y →
      ((∃ e, ((Client.call (actionOf node special)).run t s).result = .error e) ↔
        part y = none) := by
    intro σ t s y hy
    rw [exists_error_iff]
    simp only [ne_eq, (hruns t s).2, hy, Except.ok.injEq, exists_eq_left',
      Option.eq_none_iff_forall_ne_some]
  refine ⟨?_, ?_, fun t s => (hruns t s).1, fun t s => (hruns t s).2, hnone, ?_⟩
  · intro e
    cases node with
    | error e' => exact ⟨fun h => by cases h; rfl, fun h => by cases h; rfl⟩
    | ok n => exact iff_of_false nofun nofun
  · intro a b ha hb
    have hnode : node = .ok a.node := actionOf_eq_ok ha
    rw [read_of_actionOf ha, read_of_actionOf hb]
    exact ⟨Except.ok.inj (hnode.symm.trans (actionOf_eq_ok hb)), h a.node hnode⟩
  · intro σ t s e he
    rw [exists_error_iff]
    intro x hx
    obtain ⟨y, hy, -⟩ := ((hruns t s).2 x).mp hx
    cases he.symm.trans hy

end

/-! ### Requests for one value -/

theorem Aggregates.requests_justCount (p : AggregatePlace) :
    Aggregates.justCount.Requests p ↔ p = .count := by
  cases p with
  | count => exact iff_of_true rfl rfl
  | function f => exact iff_of_false (fun ⟨columns, h⟩ => List.not_mem_nil h) nofun

theorem Aggregates.requests_function {f : AggregateFunction} {columns : List String}
    (hne : columns ≠ []) (p : AggregatePlace) :
    (Aggregates.none.withFunction f columns).Requests p ↔ p = .function f := by
  cases p with
  | count => exact iff_of_false nofun nofun
  | function g =>
      simp only [Requests, mem_functions_iff, columns_withFunction, exists_eq_left',
        AggregatePlace.function.injEq]
      by_cases hg : g = f
      · simpa [hg] using hne
      · refine iff_of_false (fun h => h ?_) hg
        rw [if_neg hg]
        rfl

theorem reads_some_iff {α : Type} [Decode α] {o : Option Json} {x : α} :
    Reads o (some x) ↔ ∃ value, o = some value ∧ value ≠ .null ∧ decode value = .ok x := by
  constructor
  · rintro (_ | _ | ⟨hnull, h⟩)
    exact ⟨_, rfl, hnull, h⟩
  · rintro ⟨value, rfl, hnull, h⟩
    exact .value hnull h

theorem decode_nat_iff {value : Json} {n : Nat} :
    (decode value : Except DecodeError Nat) = .ok n ↔ value.nat? = some n := by
  simp only [Decode.decode]
  cases value.nat? <;> simp

namespace Aggregate

section
variable {β ν : Type} [Decode β] [Decode ν] {requested : Aggregates} {p : AggregatePlace}
  {x : p.Value β ν}

/-- The value of a place that is requested alone is what is decoded of the member of its name. -/
theorem project_alone_iff (hp : ∀ q, requested.Requests q ↔ q = p) {members : OrderedMap Json} :
    (∃ a : Aggregate β ν, project requested (.object members) = .ok a ∧ a.value p = some x) ↔
      ∃ value, members.lookup p.name = some value ∧ value ≠ .null ∧ decode value = .ok x := by
  rw [← reads_some_iff]
  constructor
  · rintro ⟨a, ha, hx⟩
    rw [← hx]
    exact (project_eq_ok_iff.mp ha).read p ((hp p).mpr rfl)
  · intro h
    obtain ⟨value, hvalue, hnull, hx⟩ := reads_some_iff.mp h
    -- No other member is kept, so none can fail to decode.
    have hdecodes : ¬ ∃ q reason, Undecodable β ν requested members q reason := by
      rintro ⟨q, reason, hq, value', hvalue', -, hreason⟩
      cases (hp q).mp hq
      cases hvalue.symm.trans hvalue'
      cases hx.symm.trans hreason
    obtain ⟨a, ha⟩ := exists_project_iff.mpr hdecodes
    have hread := (project_eq_ok_iff.mp ha).read p ((hp p).mpr rfl)
    refine ⟨a, ha, ?_⟩
    cases hplace : a.value p with
    | none =>
        rw [hplace, hvalue] at hread
        cases hread
        exact absurd rfl hnull
    | some y =>
        rw [hplace] at hread
        obtain ⟨value', hvalue', -, hy⟩ := reads_some_iff.mp hread
        cases hvalue.symm.trans hvalue'
        cases hx.symm.trans hy
        rfl

/-- The member of a name has a value in the aggregates of an answer. -/
def Answers {α : Type} [Decode α] (name : String) (value : Json) (x : α) : Prop :=
  ∃ fragment member, Answer.field "aggregate" value = .ok fragment ∧
    Answer.field name fragment = .ok member ∧ member ≠ .null ∧ decode member = .ok x

theorem ofAnswer_alone_iff (hp : ∀ q, requested.Requests q ↔ q = p) (x : p.Value β ν)
    (value : Json) :
    (∃ a : Aggregate β ν, ofAnswer requested value = .ok a ∧ a.value p = some x) ↔
      Answers p.name value x := by
  have hfragment : ∀ fragment : Json,
      (∃ a : Aggregate β ν, project requested fragment = .ok a ∧ a.value p = some x) ↔
        ∃ member, Answer.field p.name fragment = .ok member ∧ member ≠ .null ∧
          decode member = .ok x := by
    intro fragment
    simp only [Answer.field_eq_ok_iff]
    cases fragment with
    | object members => exact project_alone_iff hp
    | _ => exact iff_of_false (fun ⟨a, ha, _⟩ => nomatch ha) fun ⟨member, hm, _⟩ => nomatch hm
  simp only [ofAnswer, bind_eq_ok]
  constructor
  · rintro ⟨a, ⟨fragment, hfield, ha⟩, hx⟩
    obtain ⟨member, hmember⟩ := (hfragment fragment).mp ⟨a, ha, hx⟩
    exact ⟨fragment, member, hfield, hmember⟩
  · rintro ⟨fragment, member, hfield, hmember⟩
    obtain ⟨a, ha, hx⟩ := (hfragment fragment).mpr ⟨member, hmember⟩
    exact ⟨a, ⟨fragment, hfield, ha⟩, hx⟩

end

/-- The value of a function, if all functions have values of one type. -/
def ofFunction {β : Type} (a : Aggregate β β) : AggregateFunction → Option β
  | .avg => a.avg
  | .max => a.max
  | .min => a.min
  | .stddev => a.stddev
  | .stddevPop => a.stddevPop
  | .stddevSamp => a.stddevSamp
  | .sum => a.sum
  | .varPop => a.varPop
  | .varSamp => a.varSamp
  | .variance => a.variance

theorem countOfAnswer_eq_ok_iff {value : Json} {n : Nat} :
    countOfAnswer value = .ok n ↔ Answers "count" value n := by
  simp only [countOfAnswer, Answers, bind_eq_ok, decode_nat_iff]
  constructor
  · rintro ⟨fragment, hfragment, member, hmember, h⟩
    have hn : member.nat? = some n := by
      cases hnat : member.nat? with
      | none =>
          rw [hnat] at h
          cases h
      | some m =>
          rw [hnat] at h
          cases h
          rfl
    refine ⟨fragment, member, hfragment, hmember, ?_, hn⟩
    rintro rfl
    cases hn
  · rintro ⟨fragment, member, hfragment, hmember, -, hn⟩
    refine ⟨fragment, hfragment, member, hmember, ?_⟩
    rw [hn]
    rfl

theorem functionOfAnswer_eq_ok_iff {f : AggregateFunction} {value : Json} {x : OpenRecord} :
    functionOfAnswer f value = .ok x ↔ Answers f.name value x := by
  simp only [functionOfAnswer, Answers, bind_eq_ok, liftDecode_eq_ok]
  constructor
  · rintro ⟨fragment, hfragment, member, hmember, h⟩
    refine ⟨fragment, member, hfragment, hmember, ?_, h⟩
    rintro rfl
    cases h
  · rintro ⟨fragment, member, hfragment, hmember, -, h⟩
    exact ⟨fragment, hfragment, member, hmember, h⟩

/-- A count is read by itself exactly if it is read among aggregates. -/
theorem countOfAnswer_iff {value : Json} {n : Nat} : countOfAnswer value = .ok n ↔
    ∃ a : Aggregate OpenRecord OpenRecord, ofAnswer .justCount value = .ok a ∧ a.count = some n :=
  countOfAnswer_eq_ok_iff.trans
    (ofAnswer_alone_iff Aggregates.requests_justCount (n : AggregatePlace.count.Value _ _) value).symm

/-- A count that is null is none of the results, and by itself it is a failure. -/
example :
    let value : Json := .object [("aggregate", .object [("count", .null)])]
    (ofAnswer .justCount value).map (fun a : Aggregate OpenRecord OpenRecord => a.count) =
        .ok none ∧
      countOfAnswer value = .error (.invalidResponse (BuildError.ticked "count" ++ " is not an integer")) :=
  ⟨rfl, rfl⟩

/-- A function is read by itself exactly if it is read among aggregates. -/
theorem functionOfAnswer_iff {f : AggregateFunction} {columns : List String} (hne : columns ≠ [])
    {value : Json} {x : OpenRecord} : functionOfAnswer f value = .ok x ↔
      ∃ a : Aggregate OpenRecord OpenRecord,
        ofAnswer (Aggregates.none.withFunction f columns) value = .ok a ∧ a.ofFunction f = some x := by
  have halone (y : (AggregatePlace.function f).Value OpenRecord OpenRecord) :=
    ofAnswer_alone_iff (Aggregates.requests_function hne) y value
  rw [functionOfAnswer_eq_ok_iff]
  cases f <;> exact (halone x).symm

end Aggregate

/-! ### Calls -/

namespace AggregateOperation

theorem node_eq_error {t : Table} {requested : Aggregates} (h : requested.validate t ≠ .ok ())
    (nodes : Option Columns) (op : AggregateOperation) :
    ∃ e, op.node t requested nodes = .error e := by
  unfold node rootNode aggregateSelection
  cases op.arguments t with
  | error e => exact ⟨e, rfl⟩
  | ok arguments =>
      cases hvalid : requested.validate t with
      | error e => exact ⟨e, rfl⟩
      | ok u => exact absurd hvalid h

/-- A function over no columns or over one that is not declared is not asked for. -/
theorem function_node_eq_error {t : Table} {f : AggregateFunction} {columns : List String}
    (h : columns = [] ∨ ∃ c ∈ columns, c ∉ t.fieldNames) (op : AggregateOperation) :
    ∃ e, op.node t (Aggregates.none.withFunction f columns) none = .error e := by
  refine node_eq_error (fun hvalid => ?_) none op
  obtain ⟨⟨p, hp⟩, hdeclared⟩ := Aggregates.validate_eq_ok_iff.mp hvalid
  by_cases hne : columns = []
  · subst hne
    have hnone : Aggregates.none.withFunction f [] = Aggregates.none := Aggregates.step_none_nil f
    rw [hnone] at hp
    cases p with
    | count => cases hp
    | function g =>
        obtain ⟨columns, hmem⟩ := hp
        cases hmem
  · obtain ⟨c, hc, hundeclared⟩ := h.resolve_left hne
    have hmem : (f, columns) ∈ (Aggregates.none.withFunction f columns).functions := by
      rw [Aggregates.mem_functions_iff, Aggregates.columns_withFunction, if_pos rfl]
      exact ⟨rfl, hne⟩
    refine hundeclared (hdeclared c ?_)
    exact List.mem_append_right _ (List.mem_flatMap.mpr ⟨_, hmem, hc⟩)

/-- A count, and one function over columns, are the same asked by themselves as among aggregates.
Both calls fail to build alike, and they do if there are no columns or one of them is not declared;
both send the same, and whatever is answered, a call for one value has this value exactly if the call
for aggregates has it among its results. So where only one of them succeeds, it is the call for
aggregates, whose results lack the value, and the other is a failure. -/
theorem single_values_agree (t : Table) (op : AggregateOperation) :
    ReadsOneOf (op.count t)
      (op.on t .justCount : Except ClientError (Action (Aggregate OpenRecord OpenRecord)))
      (fun a => a.count) ∧
    ∀ f columns,
      ReadsOneOf (op.function t f columns)
        (op.on t (Aggregates.none.withFunction f columns) :
          Except ClientError (Action (Aggregate OpenRecord OpenRecord)))
        (fun a => a.ofFunction f) ∧
      (columns = [] ∨ (∃ c ∈ columns, c ∉ t.fieldNames) → ∃ e, op.function t f columns = .error e) := by
  refine ⟨readsOneOf_actionOf fun n hn value x => Aggregate.countOfAnswer_iff, fun f columns => ?_⟩
  refine ⟨readsOneOf_actionOf fun n hn value x => ?_, fun h => ?_⟩
  · have hne : columns ≠ [] := by
      intro hnil
      obtain ⟨e, he⟩ := function_node_eq_error (f := f) (.inl hnil) op
      cases hn.symm.trans he
    exact Aggregate.functionOfAnswer_iff hne
  · obtain ⟨e, he⟩ := function_node_eq_error h op
    exact ⟨.ofBuildError e, by rw [function, he]; rfl⟩

/-- A count and a function that are read. -/
example :
    let op : AggregateOperation := .select .none
    let answering (values : List (String × Json)) : Transport Unit := fun _ _ =>
      ⟨.ok (.ofData (.object [("op0", .object [("aggregate", .object values)])])), [], ()⟩
    let likes : OpenRecord := ⟨[("likes", .ofNat 12)]⟩
    ((Client.call (op.count Sample.articles)).run (answering [("count", .ofNat 3)]) ()).result =
        .ok 3 ∧
      ((Client.call (op.function Sample.articles .max ["likes"])).run
        (answering [("max", .object likes.members)]) ()).result = .ok likes :=
  ⟨rfl, rfl⟩

end AggregateOperation

end TableGraph
