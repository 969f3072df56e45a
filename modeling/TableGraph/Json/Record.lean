import TableGraph.Json.Decode

/-!
# Records

How the fields of a record are read.

* A record is an object, whose unknown members are passed over, or a list with exactly one item per
  field in the order of the fields;
* of an object the members are decoded in its own order, so of several that fail the first one is
  reported; a field that is missing is reported after all of them;
* an optional field may be absent of an object or null, and both read as nothing; a defaulted one
  may be left out at the end of a list too.
-/

namespace TableGraph

/-- What the fields of a record are read of. -/
structure Fields where
  members : OrderedMap Json
  /-- What is said of a field without an item, if the record is a list. -/
  noItem : Option DecodeError

/-- A field that is not read, by the place where that shows. -/
structure FieldFailure where
  place : Nat
  error : DecodeError

/-- Reads fields of a record. -/
structure FieldReader (α : Type) where
  names : List String
  read : Fields → Except FieldFailure α

namespace Fields

/-- The place of a member; a name that is not there has its place behind all members. -/
def place (m : Fields) (name : String) : Nat := m.members.findIdx (·.1 == name)

/-- Decodes a member, or else takes what stands for it. -/
def decodeAt {α : Type} [Decode α] (m : Fields) (name : String) (absent : Except DecodeError α) :
    Except FieldFailure α :=
  ((m.members.lookup name).elim absent decode).mapError (⟨m.place name, ·⟩)

end Fields

namespace FieldReader
variable {α β : Type}

/-- Reads fields one after another. Of two that fail, the earlier member is reported. -/
instance : Applicative FieldReader where
  pure x := ⟨[], fun _ => .ok x⟩
  seq f x := ⟨f.names ++ (x ()).names, fun m =>
    match f.read m, (x ()).read m with
    | .ok g, .ok a => .ok (g a)
    | .ok _, .error e => .error e
    | .error e, .ok _ => .error e
    | .error e, .error e' => .error (if e'.place < e.place then e' else e)⟩

/-- A field that has to be there. -/
def required [Decode α] (name : String) : FieldReader α :=
  ⟨[name], fun m => m.decodeAt name (.error (m.noItem.getD (.missingField name)))⟩

/-- A field that may be null, and that an object may leave out. -/
def optional [Decode α] (name : String) : FieldReader (Option α) :=
  ⟨[name], fun m => m.decodeAt name (m.noItem.elim (.ok none) .error)⟩

/-- A field that may be null or left out. -/
def defaulted [Decode α] (name : String) : FieldReader (Option α) :=
  ⟨[name], fun m => m.decodeAt name (.ok none)⟩

/-- The fields are not read, for a reason that shows at this place at the latest. -/
def FailsBy (r : FieldReader α) (m : Fields) (place : Nat) : Prop :=
  ∃ e, r.read m = .error e ∧ e.place ≤ place

section
variable {f : FieldReader (α → β)} {x : FieldReader α} {m : Fields}

theorem read_seq {g : α → β} {a : α} (hf : f.read m = .ok g) (hx : x.read m = .ok a) :
    (f <*> x).read m = .ok (g a) := by
  simp only [Seq.seq, hf, hx]

theorem read_seq_eq_ok {b : β} (h : (f <*> x).read m = .ok b) :
    ∃ g a, f.read m = .ok g ∧ x.read m = .ok a ∧ g a = b := by
  simp only [Seq.seq] at h
  split at h
  · rename_i g a hf hx
    cases h
    exact ⟨g, a, hf, hx, rfl⟩
  all_goals cases h

theorem forall_error_seq {P : FieldFailure → Prop} (hf : ∀ e, f.read m = .error e → P e)
    (hx : ∀ e, x.read m = .error e → P e) : ∀ e, (f <*> x).read m = .error e → P e := by
  intro e h
  simp only [Seq.seq] at h
  split at h
  · cases h
  · rename_i hread
    cases h
    exact hx _ hread
  · rename_i hread _
    cases h
    exact hf _ hread
  · rename_i hread hread'
    split at h <;> cases h
    · exact hx _ hread'
    · exact hf _ hread

theorem FailsBy.left {place : Nat} (h : f.FailsBy m place) : (f <*> x).FailsBy m place := by
  obtain ⟨e, he, hle⟩ := h
  unfold FailsBy
  simp only [Seq.seq, he]
  cases x.read m with
  | ok a => exact ⟨e, rfl, hle⟩
  | error e' =>
      refine ⟨_, rfl, ?_⟩
      split <;> omega

theorem FailsBy.right {place : Nat} (h : x.FailsBy m place) : (f <*> x).FailsBy m place := by
  obtain ⟨e, he, hle⟩ := h
  unfold FailsBy
  simp only [Seq.seq, he]
  cases f.read m with
  | ok g => exact ⟨e, rfl, hle⟩
  | error e' =>
      refine ⟨_, rfl, ?_⟩
      split <;> omega

end

end FieldReader

/-- Reads a record of these fields. -/
def decodeRecord {α : Type} (record : String) (r : FieldReader α) : Json → Except DecodeError α
  | .object members => (r.read ⟨members, none⟩).mapError (·.error)
  | .array items => do
    let count := r.names.length
    let elements := toString count ++ if count = 1 then " element" else " elements"
    let noItem := .wrongLength items.length ("struct " ++ record ++ " with " ++ elements)
    let x ← (r.read ⟨r.names.zip items, some noItem⟩).mapError (·.error)
    if items.length ≤ count then pure x
    else throw (.wrongLength items.length "fewer elements in array")
  | got => .error (.wrongType got ("struct " ++ record))

end TableGraph
