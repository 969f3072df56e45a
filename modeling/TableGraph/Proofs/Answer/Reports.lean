import TableGraph.Proofs.Operation.Building

/-! # Reports of mutations

What a mutation of any number of rows reports: the rows that it touched, their number, or both.

* The rows are taken out of the answer before their number is read, and the number is read from what
  is left; all the same both are read exactly if each is (`returningWithRows_eq_ok_iff`);
* of one answer for each update the first that cannot be read decides (`perUpdate_eq_error_iff`);
* two reports for each update are read exactly if each is, and come in pairs
  (`ReadsBoth.perUpdate_iff`). -/

namespace TableGraph.Answer

/-! ### One answer -/

section
variable {value : Json}

theorem takeField_eq (key : String) (value : Json) :
    takeField key value = (field key value).map fun member => (member, value.without key) := by
  unfold takeField
  cases field key value <;> rfl

/-- The number of rows is read as before the rows were taken out. -/
theorem affectedRows_without_returning (value : Json) :
    affectedRows (value.without "returning") = affectedRows value := by
  have hkey : "affected_rows" ≠ "returning" := by decide
  unfold affectedRows
  rw [field_without_ne hkey]

variable {α : Type} [Decode α]

theorem returning_eq_ok_iff {rows : List α} : returning value = .ok rows ↔
    ∃ member, field "returning" value = .ok member ∧ many member = .ok rows :=
  bind_eq_ok

theorem returningWithRows_eq_ok_iff {rows : List α} {n : Nat} :
    returningWithRows value = .ok (rows, n) ↔
      returning value = .ok rows ∧ affectedRows value = .ok n := by
  rw [returning_eq_ok_iff, ← affectedRows_without_returning value]
  unfold returningWithRows
  simp only [takeField_eq, bind_eq_ok, map_eq_ok]
  constructor
  · rintro ⟨_, ⟨member, hmember, rfl⟩, count, hcount, items, hitems, h⟩
    cases h
    exact ⟨⟨member, hmember, hitems⟩, hcount⟩
  · rintro ⟨⟨member, hmember, hitems⟩, hcount⟩
    exact ⟨_, ⟨member, hmember, rfl⟩, n, hcount, rows, hitems, rfl⟩

end

/-! ### One answer for each update -/

section
variable {α : Type} {read : Json → Except ClientError α} {items : List Json}

theorem readEach_eq_mapM (read : Json → Except ClientError α) (items : List Json) :
    readEach read items = items.mapM read := by
  induction items with
  | nil => rfl
  | cons item rest ih =>
      rw [List.mapM_cons, ← ih]
      rfl

/-- The answers are those of the items of an array, one for each and in their order. -/
theorem perUpdate_eq_ok_iff {value : Json} {results : List α} :
    perUpdate read value = .ok results ↔
      ∃ items, value = .array items ∧
        List.Forall₂ (fun item result => read item = .ok result) items results := by
  cases value with
  | array items =>
      simp only [perUpdate, readEach_eq_mapM, mapM_eq_ok_iff, Json.array.injEq, exists_eq_left']
  | _ => exact iff_of_false nofun fun ⟨items, h, _⟩ => nomatch h

/-- The failure is that of the first item that cannot be read. -/
theorem perUpdate_eq_error_iff {e : ClientError} :
    perUpdate read (.array items) = .error e ↔
      ∃ before item after, items = before ++ item :: after ∧
        (∀ earlier ∈ before, ∃ result, read earlier = .ok result) ∧ read item = .error e := by
  rw [perUpdate, readEach_eq_mapM, mapM_eq_error_iff]

end

/-! ### Two reports -/

section
variable {α β : Type} {both : Json → Except ClientError (α × β)}
  {first : Json → Except ClientError α} {second : Json → Except ClientError β}

/-- Two reports are read exactly if each of them is. -/
def ReadsBoth (both : Json → Except ClientError (α × β)) (first : Json → Except ClientError α)
    (second : Json → Except ClientError β) : Prop :=
  ∀ value x y, both value = .ok (x, y) ↔ first value = .ok x ∧ second value = .ok y

theorem ReadsBoth.forall₂_iff (h : ReadsBoth both first second) {items : List Json}
    {pairs : List (α × β)} :
    List.Forall₂ (fun item pair => both item = .ok pair) items pairs ↔
      List.Forall₂ (fun item x => first item = .ok x) items (pairs.map Prod.fst) ∧
        List.Forall₂ (fun item y => second item = .ok y) items (pairs.map Prod.snd) := by
  induction items generalizing pairs with
  | nil => cases pairs <;> simp
  | cons item rest ih =>
      cases pairs with
      | nil => simp
      | cons pair more =>
          simp only [List.map_cons, List.forall₂_cons, ih, h item pair.1 pair.2]
          tauto

/-- Both reports for every update are read exactly if each is, and stand in pairs. -/
theorem ReadsBoth.perUpdate_iff (h : ReadsBoth both first second) {value : Json}
    {pairs : List (α × β)} :
    perUpdate both value = .ok pairs ↔
      ∃ xs ys, perUpdate first value = .ok xs ∧ perUpdate second value = .ok ys ∧
        pairs = xs.zip ys := by
  simp only [perUpdate_eq_ok_iff]
  constructor
  · rintro ⟨items, rfl, hpairs⟩
    obtain ⟨hfirst, hsecond⟩ := h.forall₂_iff.mp hpairs
    exact ⟨_, _, ⟨items, rfl, hfirst⟩, ⟨items, rfl, hsecond⟩, List.zip_of_prod rfl rfl⟩
  · rintro ⟨xs, ys, ⟨items, rfl, hxs⟩, ⟨items', hitems, hys⟩, rfl⟩
    cases hitems
    have hlength : xs.length = ys.length := hxs.length_eq.symm.trans hys.length_eq
    refine ⟨items, rfl, h.forall₂_iff.mpr ⟨?_, ?_⟩⟩
    · rwa [List.map_fst_zip (Nat.le_of_eq hlength)]
    · rwa [List.map_snd_zip (Nat.le_of_eq hlength.symm)]

end

/-! ### Calls -/

/-- A mutation reports its rows with their number exactly if it reports the rows and the number, each
from the same answer. For several updates the answers are an array, and both reports of every item are
read exactly if all rows are and all numbers, and then they stand in pairs, one for each item and in
their order; the first item that cannot be read gives its failure to the whole. -/
theorem reports_agree {α : Type} [Decode α] :
    (∀ value (rows : List α) n, returningWithRows value = .ok (rows, n) ↔
      returning value = .ok rows ∧ affectedRows value = .ok n) ∧
    (∀ value (pairs : List (List α × Nat)), perUpdate returningWithRows value = .ok pairs ↔
      ∃ items rows counts, value = .array items ∧ perUpdate returning value = .ok rows ∧
        perUpdate affectedRows value = .ok counts ∧ pairs = rows.zip counts) ∧
    (∀ items (pairs : List (List α × Nat)), perUpdate returningWithRows (.array items) = .ok pairs →
      List.Forall₂ (fun item pair => returningWithRows item = .ok pair) items pairs) ∧
    (∀ items e, (perUpdate returningWithRows (.array items) :
        Except ClientError (List (List α × Nat))) = .error e ↔
      ∃ before item after, items = before ++ item :: after ∧
        (∀ earlier ∈ before, ∃ pair : List α × Nat, returningWithRows earlier = .ok pair) ∧
        (returningWithRows item : Except ClientError (List α × Nat)) = .error e) ∧
    (∀ (t : Table) (columns : Columns) (op : BulkOperation) (rows : Action (List α)) count both,
      op.returning t columns = .ok rows → op.affectedRows t = .ok count →
      op.returningWithRows t columns = .ok both → ReadsBoth both.read rows.read count.read) ∧
    ∀ (t : Table) (columns : Columns) (us : DistinctUpdates) (rows : Action (List (List α)))
      (count : Action (List Nat)) (both : Action (List (List α × Nat))),
      us.returning t columns = .ok rows → us.affectedRows t = .ok count →
      us.returningWithRows t columns = .ok both → ∀ value pairs, both.read value = .ok pairs ↔
        ∃ xs ys, rows.read value = .ok xs ∧ count.read value = .ok ys ∧ pairs = xs.zip ys := by
  have hboth : ReadsBoth (returningWithRows : Json → Except ClientError (List α × Nat)) returning
      affectedRows := fun value rows n => returningWithRows_eq_ok_iff
  refine ⟨hboth, ?_, ?_, fun items e => perUpdate_eq_error_iff, ?_, ?_⟩
  · intro value pairs
    constructor
    · intro h
      obtain ⟨items, hitems, -⟩ := perUpdate_eq_ok_iff.mp h
      obtain ⟨rows, counts, hrows, hcounts, hpairs⟩ := hboth.perUpdate_iff.mp h
      exact ⟨items, rows, counts, hitems, hrows, hcounts, hpairs⟩
    · rintro ⟨items, rows, counts, -, hrows, hcounts, hpairs⟩
      exact hboth.perUpdate_iff.mpr ⟨rows, counts, hrows, hcounts, hpairs⟩
  · intro items pairs h
    obtain ⟨items', hitems, hpairs⟩ := perUpdate_eq_ok_iff.mp h
    cases hitems
    exact hpairs
  · intro t columns op rows count both hrows hcount hwith
    rw [read_of_actionOf hrows, read_of_actionOf hcount, read_of_actionOf hwith]
    exact hboth
  · intro t columns us rows count both hrows hcount hwith value pairs
    rw [read_of_actionOf hrows, read_of_actionOf hcount, read_of_actionOf hwith]
    exact hboth.perUpdate_iff

/-- The rows of each update, with their number. -/
example :
    let row : Json := .object [("uuid", .string "A")]
    let update : Json := .object [("affected_rows", .ofNat 1), ("returning", .array [row])]
    let nothing : Json := .object [("returning", .array []), ("affected_rows", .ofNat 0)]
    perUpdate returningWithRows (.array [update, nothing]) = .ok [([row], 1), ([], 0)] := by
  rfl

end TableGraph.Answer
