import TableGraph.Aggregate.Projection
import TableGraph.Proofs.Operation.Building

/-! # Aggregates that are read

What is read of the aggregates in an answer.

* The count and each function have a place of their own (`AggregatePlace`), with a name in the answer
  and a type of values;
* a value is read as an optional field is (`Reads`), and a projection reads the requested places and
  leaves the others empty (`IsProjection`);
* what is not requested is removed before, which moves other members, but they are found as they were
  (`lookup_kept`).  So two answers that differ in anything else are read alike up to the wording of a
  failure (`project_by_places`), which is that of the member that comes first
  (`order_shows_in_message`). -/

namespace TableGraph

/-! ### Places -/

/-- The places of values in aggregates. -/
inductive AggregatePlace where
  | count
  | function (f : AggregateFunction)

namespace AggregatePlace

/-- The name of the value in an answer. -/
def name : AggregatePlace → String
  | .count => "count"
  | .function f => f.name

/-- The type of the value: a number for the count, the type of records of a column's own values for
`max` and `min`, and that of numeric records for the other functions. -/
def Value (β ν : Type) : AggregatePlace → Type
  | .count => Nat
  | .function .max => β
  | .function .min => β
  | .function _ => ν

instance {β ν : Type} [Decode β] [Decode ν] (p : AggregatePlace) : Decode (p.Value β ν) :=
  match p with
  | .count => inferInstanceAs (Decode Nat)
  | .function .max => inferInstanceAs (Decode β)
  | .function .min => inferInstanceAs (Decode β)
  | .function .avg => inferInstanceAs (Decode ν)
  | .function .stddev => inferInstanceAs (Decode ν)
  | .function .stddevPop => inferInstanceAs (Decode ν)
  | .function .stddevSamp => inferInstanceAs (Decode ν)
  | .function .sum => inferInstanceAs (Decode ν)
  | .function .varPop => inferInstanceAs (Decode ν)
  | .function .varSamp => inferInstanceAs (Decode ν)
  | .function .variance => inferInstanceAs (Decode ν)

end AggregatePlace

/-- The value of the place is requested. -/
def Aggregates.Requests (a : Aggregates) : AggregatePlace → Prop
  | .count => a.count.isSome = true
  | .function f => ∃ columns, (f, columns) ∈ a.functions

namespace Aggregate
variable {β ν : Type}

/-- The value at a place. -/
def value (a : Aggregate β ν) : (p : AggregatePlace) → Option (p.Value β ν)
  | .count => a.count
  | .function .avg => a.avg
  | .function .max => a.max
  | .function .min => a.min
  | .function .stddev => a.stddev
  | .function .stddevPop => a.stddevPop
  | .function .stddevSamp => a.stddevSamp
  | .function .sum => a.sum
  | .function .varPop => a.varPop
  | .function .varSamp => a.varSamp
  | .function .variance => a.variance

end Aggregate

/-! ### Values -/

/-- What is read of a value that may be there: nothing if it is absent or null, and else what it
decodes to. -/
inductive Reads {α : Type} [Decode α] : Option Json → Option α → Prop where
  | absent : Reads none none
  | null : Reads (some .null) none
  | value {value : Json} {x : α} (hnull : value ≠ .null) (h : decode value = .ok x) :
    Reads (some value) (some x)

section
variable {α : Type}

theorem liftDecode_eq_ok {x : Except DecodeError α} {a : α} :
    liftDecode x = .ok a ↔ x = .ok a := by
  cases x <;> simp [liftDecode]

theorem liftDecode_eq_error {x : Except DecodeError α} {e : ClientError} :
    liftDecode x = .error e ↔ ∃ reason, x = .error reason ∧ e = .ofDecodeError reason := by
  cases x <;> simp [liftDecode, eq_comm]

theorem mapError_eq_ok {ε ε' : Type} {x : Except ε α} {f : ε → ε'} {a : α} :
    x.mapError f = .ok a ↔ x = .ok a := by
  cases x <;> simp [Except.mapError]

theorem mapError_eq_error {ε ε' : Type} {x : Except ε α} {f : ε → ε'} {e : ε'} :
    x.mapError f = .error e ↔ ∃ e', x = .error e' ∧ f e' = e := by
  cases x <;> simp [Except.mapError]

variable [Decode α] {members : OrderedMap Json} {name : String}

theorem decode_option {value : Json} (hnull : value ≠ .null) :
    (decode value : Except DecodeError (Option α)) = (decode value).map some := by
  cases value with
  | null => exact absurd rfl hnull
  | _ => rfl

theorem decode_option_eq_ok_iff {value : Json} {x : Option α} :
    decode value = .ok x ↔ Reads (some value) x := by
  by_cases hnull : value = .null
  · subst hnull
    constructor
    · rintro ⟨⟩
      exact .null
    · rintro (_ | _ | ⟨hnull, -⟩)
      · rfl
      · exact absurd rfl hnull
  · rw [decode_option hnull, map_eq_ok]
    constructor
    · rintro ⟨x, hx, rfl⟩
      exact .value hnull hx
    · rintro (_ | _ | ⟨-, hx⟩)
      · exact absurd rfl hnull
      · exact ⟨_, hx, rfl⟩

theorem reads_none_iff {x : Option α} : Reads none x ↔ x = none := by
  constructor
  · rintro ⟨⟩
    rfl
  · rintro rfl
    exact .absent

theorem decode_option_eq_error_iff {value : Json} {reason : DecodeError} :
    (decode value : Except DecodeError (Option α)) = .error reason ↔
      value ≠ .null ∧ (decode value : Except DecodeError α) = .error reason := by
  by_cases hnull : value = .null
  · subst hnull
    exact iff_of_false nofun fun h => h.1 rfl
  · rw [decode_option hnull, map_eq_error, and_iff_right hnull]

theorem read_optional_eq_ok_iff {x : Option α} :
    (FieldReader.optional name).read ⟨members, none⟩ = .ok x ↔ Reads (members.lookup name) x := by
  simp only [FieldReader.optional, Fields.decodeAt, mapError_eq_ok]
  cases members.lookup name with
  | none => simp [reads_none_iff, eq_comm]
  | some value => exact decode_option_eq_ok_iff

/-- Only a value that is there, is not null and does not decode is a failure, where it stands. -/
theorem read_optional_eq_error_iff {e : FieldFailure} :
    (FieldReader.optional name : FieldReader (Option α)).read ⟨members, none⟩ = .error e ↔
      e.place = Fields.place ⟨members, none⟩ name ∧
        ∃ value, members.lookup name = some value ∧ value ≠ .null ∧
          (decode value : Except DecodeError α) = .error e.error := by
  simp only [FieldReader.optional, Fields.decodeAt, mapError_eq_error]
  cases members.lookup name with
  | none => exact iff_of_false (fun ⟨_, h, _⟩ => nomatch h) fun ⟨_, _, h, _⟩ => nomatch h
  | some value =>
      simp only [Option.elim_some, decode_option_eq_error_iff, Option.some.injEq, exists_eq_left']
      constructor
      · rintro ⟨reason, hreason, rfl⟩
        exact ⟨rfl, hreason⟩
      · rintro ⟨hplace, hreason⟩
        exact ⟨e.error, hreason, by rw [← hplace]⟩

end

/-! ### Reading place by place -/

namespace Aggregate
variable {β ν : Type}

/-- Aggregates whose values are read one after another. -/
def gather (field : (p : AggregatePlace) → FieldReader (Option (p.Value β ν))) :
    FieldReader (Aggregate β ν) :=
  Aggregate.mk <$> field .count <*> field (.function .avg) <*> field (.function .max)
    <*> field (.function .min) <*> field (.function .stddev) <*> field (.function .stddevPop)
    <*> field (.function .stddevSamp) <*> field (.function .sum) <*> field (.function .varPop)
    <*> field (.function .varSamp) <*> field (.function .variance)

section
variable {field : (p : AggregatePlace) → FieldReader (Option (p.Value β ν))} {m : Fields}

/-- The values that are read stand at their places. -/
theorem read_gather_eq_ok_iff {a : Aggregate β ν} :
    (gather field).read m = .ok a ↔ ∀ p, (field p).read m = .ok (a.value p) := by
  constructor
  · intro h
    obtain ⟨_, variance, h, hvariance, _⟩ := FieldReader.read_seq_eq_ok h
    obtain ⟨_, varSamp, h, hvarSamp, _⟩ := FieldReader.read_seq_eq_ok h
    obtain ⟨_, varPop, h, hvarPop, _⟩ := FieldReader.read_seq_eq_ok h
    obtain ⟨_, sum, h, hsum, _⟩ := FieldReader.read_seq_eq_ok h
    obtain ⟨_, stddevSamp, h, hstddevSamp, _⟩ := FieldReader.read_seq_eq_ok h
    obtain ⟨_, stddevPop, h, hstddevPop, _⟩ := FieldReader.read_seq_eq_ok h
    obtain ⟨_, stddev, h, hstddev, _⟩ := FieldReader.read_seq_eq_ok h
    obtain ⟨_, min, h, hmin, _⟩ := FieldReader.read_seq_eq_ok h
    obtain ⟨_, max, h, hmax, _⟩ := FieldReader.read_seq_eq_ok h
    obtain ⟨_, avg, h, havg, _⟩ := FieldReader.read_seq_eq_ok h
    obtain ⟨_, count, h, hcount, _⟩ := FieldReader.read_seq_eq_ok h
    cases h
    subst_vars
    intro p
    cases p with
    | count => exact hcount
    | function f => cases f <;> assumption
  · intro h
    unfold gather
    cases a
    iterate 10 refine FieldReader.read_seq ?_ (h _)
    exact FieldReader.read_seq (f := pure Aggregate.mk) rfl (h .count)

/-- If the value at a place is not read, a failure there or at an earlier member is reported. -/
theorem failsBy_gather {p : AggregatePlace} {place : Nat} (h : (field p).FailsBy m place) :
    (gather field).FailsBy m place := by
  unfold gather
  cases p with
  | count =>
      iterate 10 refine .left ?_
      exact .right h
  | function f => cases f <;> repeat first | exact .right h | refine .left ?_

/-- The failure that is reported is that of the first member of those that fail. -/
theorem read_gather_eq_error {e : FieldFailure} (h : (gather field).read m = .error e) :
    (∃ p, (field p).read m = .error e) ∧
      ∀ p e', (field p).read m = .error e' → e.place ≤ e'.place := by
  constructor
  · let Reported (e : FieldFailure) : Prop := ∃ p, (field p).read m = .error e
    have hfield : ∀ p e, (field p).read m = .error e → Reported e := fun p _ hp => ⟨p, hp⟩
    suffices hall : ∀ e, (gather field).read m = .error e → Reported e from hall e h
    unfold gather
    iterate 10 refine FieldReader.forall_error_seq ?_ (hfield _)
    exact FieldReader.forall_error_seq (f := pure Aggregate.mk) nofun (hfield .count)
  · intro p e' hp
    obtain ⟨e'', he'', hle⟩ := failsBy_gather ⟨e', hp, Nat.le_refl _⟩
    cases h.symm.trans he''
    exact hle

end

section
variable [Decode β] [Decode ν] {members : OrderedMap Json}

theorem reader_eq_gather :
    (reader : FieldReader (Aggregate β ν)) = gather fun p => .optional p.name := rfl

theorem decode_eq_ok_iff {a : Aggregate β ν} : decode (.object members) = .ok a ↔
    ∀ p : AggregatePlace, Reads (members.lookup p.name) (a.value p) := by
  simp only [Decode.decode, decodeRecord, mapError_eq_ok, reader_eq_gather, read_gather_eq_ok_iff,
    read_optional_eq_ok_iff]

/-- The value at a place is neither absent nor null, and does not decode, for this reason. -/
def FailsAt (β ν : Type) [Decode β] [Decode ν] (members : OrderedMap Json) (p : AggregatePlace)
    (reason : DecodeError) : Prop :=
  ∃ value, members.lookup p.name = some value ∧ value ≠ .null ∧
    (decode value : Except DecodeError (p.Value β ν)) = .error reason

theorem decode_eq_error {reason : DecodeError}
    (h : (decode (.object members) : Except DecodeError (Aggregate β ν)) = .error reason) :
    ∃ p, FailsAt β ν members p reason ∧ ∀ q reason', FailsAt β ν members q reason' →
      Fields.place ⟨members, none⟩ p.name ≤ Fields.place ⟨members, none⟩ q.name := by
  simp only [Decode.decode, decodeRecord, mapError_eq_error, reader_eq_gather] at h
  obtain ⟨e, he, rfl⟩ := h
  obtain ⟨⟨p, hp⟩, hfirst⟩ := read_gather_eq_error he
  obtain ⟨hplace, hfails⟩ := read_optional_eq_error_iff.mp hp
  refine ⟨p, hfails, fun q reason' hq => ?_⟩
  rw [← hplace]
  exact hfirst q ⟨_, reason'⟩ (read_optional_eq_error_iff.mpr ⟨rfl, hq⟩)

end

end Aggregate

/-! ### Requested places -/

section
variable {requested : Aggregates} {p : AggregatePlace}

theorem isEmpty_columns_iff {f : AggregateFunction} :
    (requested.columns f).isEmpty = true ↔ ¬ requested.Requests (.function f) := by
  simp only [Aggregates.Requests, Aggregates.mem_functions_iff, exists_eq_left', List.isEmpty_iff,
    ne_eq, not_not]

theorem mem_unrequested_iff : p.name ∈ Aggregate.unrequested requested ↔ ¬ requested.Requests p := by
  have hne : ∀ f : AggregateFunction, f.name ≠ "count" := fun f => by cases f <;> decide
  simp only [Aggregate.unrequested, List.mem_append, List.mem_map, List.mem_filter,
    AggregateFunction.mem_all, true_and, isEmpty_columns_iff]
  cases p with
  | count =>
      have hfunctions : ¬ ∃ f : AggregateFunction, ¬ requested.Requests (.function f) ∧
          f.name = "count" := fun ⟨f, _, hf⟩ => hne f hf
      rw [AggregatePlace.name, or_iff_left hfunctions, Aggregates.Requests]
      cases requested.count <;> simp
  | function f =>
      have hcount : f.name ∉ if requested.count.isNone then ["count"] else [] := by
        split
        · simpa using hne f
        · exact List.not_mem_nil
      simp only [AggregatePlace.name, hcount, false_or]
      constructor
      · rintro ⟨g, hg, hname⟩
        rwa [← AggregateFunction.name_injective hname]
      · exact fun hf => ⟨f, hf, rfl⟩

/-- What is not requested is not found in what is left, and all else is as it was. -/
theorem lookup_kept (members : OrderedMap Json) (name : String) :
    (Aggregate.kept requested members).lookup name =
      if name ∈ Aggregate.unrequested requested then none else members.lookup name := by
  rw [Aggregate.kept, OrderedMap.lookup_foldl_swapRemove (OrderedMap.nodup_keys_distinct members),
    OrderedMap.lookup_distinct]

theorem lookup_of_requests (members : OrderedMap Json) (hp : requested.Requests p) :
    (Aggregate.kept requested members).lookup p.name = members.lookup p.name := by
  rw [lookup_kept, if_neg (mt mem_unrequested_iff.mp (not_not_intro hp))]

theorem lookup_of_not_requests (members : OrderedMap Json) (hp : ¬ requested.Requests p) :
    (Aggregate.kept requested members).lookup p.name = none := by
  rw [lookup_kept, if_pos (mem_unrequested_iff.mpr hp)]

end

/-! ### Projections -/

namespace Aggregate
variable {β ν : Type} [Decode β] [Decode ν] {requested : Aggregates}

/-- The aggregates are those that are requested of an object: each requested value is read, and all
else is absent. -/
structure IsProjection (requested : Aggregates) (members : OrderedMap Json) (a : Aggregate β ν) :
    Prop where
  read : ∀ p, requested.Requests p → Reads (members.lookup p.name) (a.value p)
  absent : ∀ p, ¬ requested.Requests p → a.value p = none

/-- The value at a place is requested, is neither absent nor null and does not decode, for this
reason. -/
def Undecodable (β ν : Type) [Decode β] [Decode ν] (requested : Aggregates)
    (members : OrderedMap Json) (p : AggregatePlace) (reason : DecodeError) : Prop :=
  requested.Requests p ∧ FailsAt β ν members p reason

/-- The objects hold the same under the requested names. -/
def Agree (requested : Aggregates) (members members' : OrderedMap Json) : Prop :=
  ∀ p, requested.Requests p → members.lookup p.name = members'.lookup p.name

/-- Where the value at a place stands in what is left of an object. -/
def position (requested : Aggregates) (members : OrderedMap Json) (p : AggregatePlace) : Nat :=
  Fields.place ⟨kept requested members, none⟩ p.name

theorem failsAt_kept_iff {members : OrderedMap Json} {p : AggregatePlace} {reason : DecodeError} :
    FailsAt β ν (kept requested members) p reason ↔ Undecodable β ν requested members p reason := by
  unfold Undecodable FailsAt
  by_cases hp : requested.Requests p
  · rw [lookup_of_requests members hp, and_iff_right hp]
  · rw [lookup_of_not_requests members hp]
    exact iff_of_false (fun ⟨_, h, _⟩ => nomatch h) fun h => hp h.1

section
variable {members members' : OrderedMap Json}

theorem Agree.symm (h : Agree requested members members') : Agree requested members' members :=
  fun p hp => (h p hp).symm

theorem IsProjection.of_agree {a : Aggregate β ν} (h : IsProjection requested members a)
    (hagree : Agree requested members members') : IsProjection requested members' a where
  read p hp := hagree p hp ▸ h.read p hp
  absent := h.absent

variable {p : AggregatePlace} {reason reason' : DecodeError}

theorem Undecodable.of_agree (h : Undecodable β ν requested members p reason)
    (hagree : Agree requested members members') :
    Undecodable β ν requested members' p reason := by
  obtain ⟨hp, value, hvalue, hreason⟩ := h
  exact ⟨hp, value, hagree p hp ▸ hvalue, hreason⟩

theorem Undecodable.reason_eq (h : Undecodable β ν requested members p reason)
    (h' : Undecodable β ν requested members p reason') : reason = reason' := by
  obtain ⟨-, value, hvalue, -, hreason⟩ := h
  obtain ⟨-, value', hvalue', -, hreason'⟩ := h'
  cases hvalue.symm.trans hvalue'
  exact Except.error.inj (hreason.symm.trans hreason')

end

theorem project_object (members : OrderedMap Json) :
    (project requested (.object members) : Except ClientError (Aggregate β ν)) =
      liftDecode (decode (.object (kept requested members))) := rfl

theorem project_eq_ok_iff {members : OrderedMap Json} {a : Aggregate β ν} :
    project requested (.object members) = .ok a ↔ IsProjection requested members a := by
  rw [project_object, liftDecode_eq_ok, decode_eq_ok_iff]
  constructor
  · intro h
    constructor
    · intro p hp
      have hread := h p
      rwa [lookup_of_requests members hp] at hread
    · intro p hp
      have hread := h p
      rwa [lookup_of_not_requests members hp, reads_none_iff] at hread
  · intro h p
    by_cases hp : requested.Requests p
    · rw [lookup_of_requests members hp]
      exact h.read p hp
    · rw [lookup_of_not_requests members hp, reads_none_iff]
      exact h.absent p hp

/-- A failure is that of the first requested value that does not decode. -/
theorem project_eq_error {members : OrderedMap Json} {e : ClientError}
    (h : project requested (.object members) = (.error e : Except ClientError (Aggregate β ν))) :
    ∃ p reason, Undecodable β ν requested members p reason ∧ e = .ofDecodeError reason ∧
      ∀ q reason', Undecodable β ν requested members q reason' →
        position requested members p ≤ position requested members q := by
  rw [project_object, liftDecode_eq_error] at h
  obtain ⟨reason, hdecode, rfl⟩ := h
  obtain ⟨p, hfails, hfirst⟩ := decode_eq_error hdecode
  refine ⟨p, reason, failsAt_kept_iff.mp hfails, rfl, fun q reason' hq => ?_⟩
  exact hfirst q reason' (failsAt_kept_iff.mpr hq)

theorem exists_project_iff {members : OrderedMap Json} :
    (∃ a : Aggregate β ν, project requested (.object members) = .ok a) ↔
      ¬ ∃ p reason, Undecodable β ν requested members p reason := by
  constructor
  · rintro ⟨a, ha⟩ ⟨p, reason, hp, value, hvalue, hnull, hreason⟩
    have hread := (project_eq_ok_iff.mp ha).read p hp
    rw [hvalue] at hread
    generalize a.value p = x at hread
    cases hread with
    | null => exact hnull rfl
    | value _ hx => cases hx.symm.trans hreason
  · intro h
    cases hproject : (project requested (.object members) : Except ClientError (Aggregate β ν)) with
    | ok a => exact ⟨a, rfl⟩
    | error e =>
        obtain ⟨p, reason, hfails, -⟩ := project_eq_error hproject
        exact absurd ⟨p, reason, hfails⟩ h

/-- Objects that hold the same under the requested names fail together. What is said of it differs
only if there is more than one value to say it of. -/
theorem project_eq_error_of_agree {members members' : OrderedMap Json}
    (hagree : Agree requested members members') {e : ClientError}
    (h : project requested (.object members) = (.error e : Except ClientError (Aggregate β ν))) :
    ∃ e' : ClientError, project requested (.object members') =
        (.error e' : Except ClientError (Aggregate β ν)) ∧
      { e with message := "" } = { e' with message := "" } ∧
      ((∀ p q reason reason', Undecodable β ν requested members p reason →
        Undecodable β ν requested members q reason' → p = q) → e = e') := by
  obtain ⟨p, reason, hfails, rfl, -⟩ := project_eq_error h
  have hfails' : Undecodable β ν requested members' p reason := hfails.of_agree hagree
  cases hproject : (project requested (.object members') :
      Except ClientError (Aggregate β ν)) with
  | ok a => exact absurd ⟨p, reason, hfails'⟩ (exists_project_iff.mp ⟨a, hproject⟩)
  | error e' =>
      obtain ⟨q, reason', hq, rfl, -⟩ := project_eq_error hproject
      refine ⟨_, rfl, rfl, fun hone => ?_⟩
      have hq' := hq.of_agree hagree.symm
      cases hone p q _ _ hfails hq'
      rw [hfails.reason_eq hq']

/-- Aggregates are read of an object alone. The values under the requested names decide: one that is
absent or null is absent, and any other is decoded, to a type of its own for each place, or the whole
fails with the reason of the first that does not decode, as the object is ordered when what is not
requested is removed. What is not requested is absent, whatever the object holds under its name, and
objects that hold the same under the requested names are read alike up to the message of a failure,
and altogether if no two requested values fail to decode. -/
theorem project_by_places (requested : Aggregates) :
    (∀ fragment : Json,
      (∃ e, project requested fragment = (.error e : Except ClientError (Aggregate β ν)) ∧
        e.code = .invalidResponse) ↔ fragment.isObject = false) ∧
    (∀ members (a : Aggregate β ν), project requested (.object members) = .ok a ↔
      IsProjection requested members a) ∧
    (∀ members, (∃ a : Aggregate β ν, project requested (.object members) = .ok a) ↔
      ¬ ∃ p reason, Undecodable β ν requested members p reason) ∧
    (∀ members,
      (∃ e, project requested (.object members) =
        (.error e : Except ClientError (Aggregate β ν)) ∧ e.code = .deserializeError) ↔
      ∃ p reason, Undecodable β ν requested members p reason) ∧
    (∀ members e,
      project requested (.object members) = (.error e : Except ClientError (Aggregate β ν)) →
      ∃ p reason, Undecodable β ν requested members p reason ∧ e = .ofDecodeError reason ∧
        ∀ q reason', Undecodable β ν requested members q reason' →
          position requested members p ≤ position requested members q) ∧
    ∀ members members', Agree requested members members' →
      (project requested (.object members) : Except ClientError (Aggregate β ν)).mapError
          (fun e => { e with message := "" }) =
        (project requested (.object members')).mapError (fun e => { e with message := "" }) ∧
      ((∀ p q reason reason', Undecodable β ν requested members p reason →
          Undecodable β ν requested members q reason' → p = q) →
        (project requested (.object members) : Except ClientError (Aggregate β ν)) =
          project requested (.object members')) := by
  refine ⟨?_, fun _ _ => project_eq_ok_iff, fun _ => exists_project_iff, ?_,
    fun _ _ => project_eq_error, ?_⟩
  · intro fragment
    cases fragment with
    | object members =>
        refine ⟨fun ⟨e, he, hcode⟩ => ?_, nofun⟩
        obtain ⟨p, reason, -, rfl, -⟩ := project_eq_error he
        cases hcode
    | _ => exact iff_of_true ⟨_, rfl, rfl⟩ rfl
  · intro members
    constructor
    · rintro ⟨e, he, -⟩
      obtain ⟨p, reason, hfails, -⟩ := project_eq_error he
      exact ⟨p, reason, hfails⟩
    · intro h
      cases hproject : (project requested (.object members) :
          Except ClientError (Aggregate β ν)) with
      | ok a => exact absurd h (exists_project_iff.mp ⟨a, hproject⟩)
      | error e =>
          obtain ⟨p, reason, -, rfl, -⟩ := project_eq_error hproject
          exact ⟨_, rfl, rfl⟩
  · intro members members' hagree
    cases hproject : (project requested (.object members) :
        Except ClientError (Aggregate β ν)) with
    | ok a =>
        have ha' : project requested (.object members') = .ok a :=
          project_eq_ok_iff.mpr ((project_eq_ok_iff.mp hproject).of_agree hagree)
        rw [ha']
        exact ⟨rfl, fun _ => rfl⟩
    | error e =>
        obtain ⟨e', he', hmessage, hone⟩ := project_eq_error_of_agree hagree hproject
        rw [he']
        exact ⟨congrArg Except.error hmessage, fun h => congrArg Except.error (hone h)⟩

/-- What is not requested may have any value. -/
example :
    project (Aggregates.justCount.withFunction .max ["likes"])
        (.object [("avg", .string "high"), ("max", .null), ("count", .ofNat 3)]) =
      (.ok ⟨some 3, none, none, none, none, none, none, none, none, none, none⟩ :
        Except ClientError (Aggregate OpenRecord OpenRecord)) := by
  rfl

/-- Of two requested values that do not decode, the one that the object has first is reported. So
objects that hold the same under the requested names can fail with different messages. -/
theorem order_shows_in_message :
    let requested := Aggregates.justCount.withFunction .max ["likes"]
    let countFirst : OrderedMap Json := [("count", .string "x"), ("max", .ofNat 5)]
    let maxFirst : OrderedMap Json := [("max", .ofNat 5), ("count", .string "x")]
    Agree requested countFirst maxFirst ∧
    (project requested (.object countFirst) :
        Except ClientError (Aggregate OpenRecord OpenRecord)) =
      .error (.deserialize "invalid type: string \"x\", expected u64") ∧
    (project requested (.object maxFirst) :
        Except ClientError (Aggregate OpenRecord OpenRecord)) =
      .error (.deserialize "invalid type: integer `5`, expected a map") ∧
    (project requested (.object countFirst) :
        Except ClientError (Aggregate OpenRecord OpenRecord)) ≠
      project requested (.object maxFirst) := by
  intro requested countFirst maxFirst
  have hdiffer : ∀ {x y : Except ClientError (Aggregate OpenRecord OpenRecord)} {a b : String},
      x = .error (.deserialize a) → y = .error (.deserialize b) → a ≠ b →
      x = .error (.deserialize a) ∧ y = .error (.deserialize b) ∧ x ≠ y := by
    rintro x y a b rfl rfl hne
    exact ⟨rfl, rfl, fun h => hne (congrArg ClientError.message (Except.error.inj h))⟩
  constructor
  · intro p _
    cases p with
    | count => rfl
    | function f => cases f <;> rfl
  · apply hdiffer
    · rfl
    · rfl
    · decide

end Aggregate

end TableGraph
