import Mathlib.Data.List.Induction
import TableGraph.Aggregates.Steps
import TableGraph.Proofs.Aggregate.Projection
import TableGraph.Proofs.Table.Lookups

/-! # Requests made step by step

Whatever the steps were, the last one about an aggregate decides.

* A step is about one place (`AggregateStep.place`), and steps about different places commute
  (`step_comm`), while a step replaces an earlier one about its place (`step_step_of_place_eq`);
* so the count and each function are those of the last step about them (`count_ofSteps_iff`,
  `mem_functions_ofSteps_iff`), and the functions stand in their order;
* an array with a slot for each function holds the same requests after every step (`Holds.step`,
  `holds_ofSteps`);
* a check fails for the first column that is not declared (`validate_eq_error_iff`). -/

namespace TableGraph

/-! ### Requests -/

namespace Aggregates
variable {a b : Aggregates}

theorem eq_of_columns (hcount : a.count = b.count) (hcolumns : ∀ f, a.columns f = b.columns f) :
    a = b := by
  have hfunctions : a.functions = b.functions := by
    rw [a.functions_ordered, b.functions_ordered]
    exact congrArg AggregateFunction.ordered (funext hcolumns)
  cases a
  cases b
  cases hcount
  cases hfunctions
  rfl

theorem eq_of_mem (hcount : ∀ c, a.count = some c ↔ b.count = some c)
    (hfunctions : ∀ f columns, (f, columns) ∈ a.functions ↔ (f, columns) ∈ b.functions) : a = b := by
  refine eq_of_columns (Option.ext hcount) fun f => ?_
  have hmem := hfunctions f
  simp only [mem_functions_iff] at hmem
  by_cases hnil : a.columns f = []
  · by_contra hne
    have hb : b.columns f ≠ [] := fun hb => hne (hnil.trans hb.symm)
    exact hne ((hmem _).mpr ⟨rfl, hb⟩).1
  · exact ((hmem _).mp ⟨rfl, hnil⟩).1.symm

theorem isEmpty_iff : a.isEmpty = true ↔ ¬ ∃ p, a.Requests p := by
  have hfunctions : a.functions = [] ↔ ∀ f columns, (f, columns) ∉ a.functions := by
    rw [List.eq_nil_iff_forall_not_mem]
    exact ⟨fun h f columns => h _, fun h p => h p.1 p.2⟩
  rw [isEmpty, Bool.and_eq_true, Option.isNone_iff_eq_none, List.isEmpty_iff, hfunctions]
  constructor
  · rintro ⟨hcount, hnone⟩ ⟨p, hp⟩
    cases p with
    | count =>
        rw [Requests, hcount] at hp
        cases hp
    | function f =>
        obtain ⟨columns, hmem⟩ := hp
        exact hnone f columns hmem
  · intro h
    refine ⟨?_, fun f columns hmem => h ⟨.function f, columns, hmem⟩⟩
    cases hcount : a.count with
    | none => rfl
    | some c => exact absurd ⟨.count, by rw [Requests, hcount]; rfl⟩ h

end Aggregates

/-! ### Checks -/

section
variable {t : Table} {columns : List String} {e : BuildError}

/-- The column is the first one that is not declared. -/
def FirstUndeclared (t : Table) (columns : List String) (c : String) : Prop :=
  ∃ before after, columns = before ++ c :: after ∧ c ∉ t.fieldNames ∧ ∀ b ∈ before, b ∈ t.fieldNames

theorem find?_undeclared_iff {c : String} :
    columns.find? (fun c => (t.field? c).isNone) = some c ↔ FirstUndeclared t columns c := by
  rw [List.find?_eq_some_iff_append]
  simp only [FirstUndeclared, Option.isNone_iff_eq_none, Table.field?_eq_none_iff, Bool.not_eq_true',
    Option.isNone_eq_false_iff, Table.field?_isSome_iff]
  constructor
  · rintro ⟨hc, before, after, hcolumns, hbefore⟩
    exact ⟨before, after, hcolumns, hc, hbefore⟩
  · rintro ⟨before, after, hcolumns, hc, hbefore⟩
    exact ⟨hc, before, after, hcolumns, hbefore⟩

theorem checkColumns_eq_ok_iff :
    checkColumns t columns = .ok () ↔ ∀ c ∈ columns, c ∈ t.fieldNames := by
  have hnone : columns.find? (fun c => (t.field? c).isNone) = none ↔
      ∀ c ∈ columns, c ∈ t.fieldNames := by
    simp only [List.find?_eq_none, Option.isNone_iff_eq_none, Table.field?_eq_none_iff, not_not]
  rw [← hnone, checkColumns]
  cases columns.find? fun c => (t.field? c).isNone with
  | none => exact iff_of_true rfl rfl
  | some c => exact iff_of_false nofun nofun

theorem checkColumns_eq_error_iff :
    checkColumns t columns = .error e ↔
      ∃ c, e = .unknownField t.qualified c ∧ FirstUndeclared t columns c := by
  simp only [← find?_undeclared_iff, checkColumns]
  cases columns.find? fun c => (t.field? c).isNone with
  | none => exact iff_of_false nofun fun ⟨c, _, hc⟩ => nomatch hc
  | some c =>
      constructor
      · rintro ⟨⟩
        exact ⟨c, rfl, rfl⟩
      · rintro ⟨c', rfl, hc⟩
        cases hc
        rfl

namespace Aggregates
variable {a : Aggregates}

theorem validate_of_requests (h : ∃ p, a.Requests p) :
    a.validate t = checkColumns t a.namedColumns := by
  have hempty : ¬ a.isEmpty = true := fun he => isEmpty_iff.mp he h
  rw [validate, if_neg hempty]

theorem validate_of_not_requests (h : ¬ ∃ p, a.Requests p) :
    a.validate t = .error .missingAggregate := by
  rw [validate, if_pos (isEmpty_iff.mpr h)]

theorem validate_eq_ok_iff : a.validate t = .ok () ↔
    (∃ p, a.Requests p) ∧ ∀ c ∈ a.namedColumns, c ∈ t.fieldNames := by
  by_cases h : ∃ p, a.Requests p
  · rw [validate_of_requests h, checkColumns_eq_ok_iff, and_iff_right h]
  · rw [validate_of_not_requests h]
    exact iff_of_false nofun fun hall => h hall.1

theorem validate_eq_missing_iff :
    a.validate t = .error .missingAggregate ↔ ¬ ∃ p, a.Requests p := by
  by_cases h : ∃ p, a.Requests p
  · rw [validate_of_requests h, checkColumns_eq_error_iff]
    exact iff_of_false (fun ⟨c, hc, _⟩ => nomatch hc) fun hnone => hnone h
  · exact iff_of_true (validate_of_not_requests h) h

theorem validate_eq_error_iff (he : e ≠ .missingAggregate) : a.validate t = .error e ↔
    (∃ p, a.Requests p) ∧
      ∃ c, e = .unknownField t.qualified c ∧ FirstUndeclared t a.namedColumns c := by
  by_cases h : ∃ p, a.Requests p
  · rw [validate_of_requests h, checkColumns_eq_error_iff, and_iff_right h]
  · rw [validate_of_not_requests h]
    refine iff_of_false (fun hmissing => he ?_) fun hall => h hall.1
    cases hmissing
    rfl

end Aggregates

end

/-! ### Steps -/

deriving instance DecidableEq for AggregatePlace

namespace AggregateStep

/-- What a step is about. -/
def place : AggregateStep → AggregatePlace
  | .count => .count
  | .countOf _ _ => .count
  | .function f _ => .function f

/-- What a step asks to count. -/
def countSpec? : AggregateStep → Option CountSpec
  | .count => some ⟨none, none⟩
  | .countOf columns distinct => some ⟨columns, distinct⟩
  | .function _ _ => none

end AggregateStep

/-- The step is the last one about a place. -/
def IsLast (steps : List AggregateStep) (p : AggregatePlace) (s : AggregateStep) : Prop :=
  ∃ before after, steps = before ++ s :: after ∧ s.place = p ∧ ∀ later ∈ after, later.place ≠ p

section
variable {steps : List AggregateStep} {p : AggregatePlace} {s last : AggregateStep}

theorem not_isLast_nil : ¬ IsLast [] p s := by
  rintro ⟨before, after, h, -⟩
  exact List.append_ne_nil_of_right_ne_nil before (List.cons_ne_nil s after) h.symm

/-- A further step is the last one about its own place and about no other. -/
theorem isLast_concat : IsLast (steps ++ [s]) p last ↔
    s.place = p ∧ last = s ∨ s.place ≠ p ∧ IsLast steps p last := by
  constructor
  · rintro ⟨before, after, h, hplace, hafter⟩
    rcases List.eq_nil_or_concat' after with rfl | ⟨more, s', rfl⟩
    · obtain ⟨-, h⟩ := List.append_inj' h rfl
      cases h
      exact .inl ⟨hplace, rfl⟩
    · rw [← List.cons_append, ← List.append_assoc] at h
      obtain ⟨hsteps, h⟩ := List.append_inj' h rfl
      cases h
      have hs : s.place ≠ p := hafter s (List.mem_append_right _ (List.mem_singleton_self s))
      refine .inr ⟨hs, before, more, hsteps, hplace, fun later hlater => ?_⟩
      exact hafter later (List.mem_append_left _ hlater)
  · rintro (⟨hplace, rfl⟩ | ⟨hs, before, after, rfl, hplace, hafter⟩)
    · exact ⟨steps, [], rfl, hplace, nofun⟩
    · refine ⟨before, after ++ [s], by simp, hplace, fun later hlater => ?_⟩
      rcases List.mem_append.mp hlater with hlater | hlater
      · exact hafter later hlater
      · rw [List.mem_singleton.mp hlater]
        exact hs

end

namespace Aggregates
variable {a : Aggregates} {steps : List AggregateStep} {s s' : AggregateStep}

/-- The columns that a step leaves to a function. -/
theorem columns_step (a : Aggregates) (s : AggregateStep) (g : AggregateFunction) :
    (a.step s).columns g = match s with
      | .function f columns => if g = f then columns else a.columns g
      | _ => a.columns g := by
  cases s with
  | function f columns => exact columns_withFunction a f g columns
  | count => rfl
  | countOf columns distinct => rfl

theorem count_step (a : Aggregates) (s : AggregateStep) :
    (a.step s).count = s.countSpec?.or a.count := by
  cases s <;> rfl

/-- Steps about different places commute. -/
theorem step_comm (h : s.place ≠ s'.place) : (a.step s).step s' = (a.step s').step s := by
  apply eq_of_columns
  · cases s <;> cases s' <;> first | rfl | exact absurd rfl h
  · intro g
    simp only [columns_step]
    cases s with
    | function f columns =>
        cases s' with
        | function f' columns' =>
            have hne : f ≠ f' := fun hf => h (congrArg AggregatePlace.function hf)
            by_cases hg : g = f
            · have hg' : g ≠ f' := hg ▸ hne
              simp [hg, hne]
            · simp [hg]
        | count => rfl
        | countOf columns' distinct => rfl
    | count => rfl
    | countOf columns distinct => rfl

/-- A step replaces what an earlier one asked of its place. -/
theorem step_step_of_place_eq (h : s.place = s'.place) : (a.step s).step s' = a.step s' := by
  apply eq_of_columns
  · cases s <;> cases s' <;> first | rfl | cases h
  · intro g
    simp only [columns_step]
    cases s with
    | function f columns =>
        cases s' with
        | function f' columns' =>
            cases h
            by_cases hg : g = f <;> simp [hg]
        | count => cases h
        | countOf columns' distinct => cases h
    | count => rfl
    | countOf columns distinct => rfl

theorem ofSteps_concat (steps : List AggregateStep) (s : AggregateStep) :
    ofSteps (steps ++ [s]) = (ofSteps steps).step s := by
  rw [ofSteps, List.foldl_append]
  rfl

theorem step_none_nil (f : AggregateFunction) : none.step (.function f []) = none := by
  refine eq_of_columns rfl fun g => ?_
  rw [columns_step]
  show (if g = f then [] else []) = _
  rw [ite_self]
  rfl

/-- A step about a place makes the steps about it before as if they had not been. -/
theorem foldl_step_filter (steps : List AggregateStep) (a : Aggregates) (s : AggregateStep) :
    (steps.foldl step a).step s =
      (steps.filter fun other => other.place ≠ s.place).foldl step (a.step s) := by
  -- For any requests at the start: the step moves to the front, past those about other places.
  induction steps generalizing a with
  | nil => rfl
  | cons first rest ih =>
      rw [List.foldl_cons, ih]
      by_cases h : first.place = s.place
      · rw [step_step_of_place_eq h, List.filter_cons_of_neg (by simpa using h)]
      · rw [List.filter_cons_of_pos (by simpa using h), List.foldl_cons, step_comm h]

/-- The count is that of the last step that asks for one. -/
theorem count_ofSteps_iff {c : CountSpec} : (ofSteps steps).count = some c ↔
    ∃ s, IsLast steps .count s ∧ s.countSpec? = some c := by
  induction steps using List.reverseRecOn with
  | nil => exact iff_of_false nofun fun ⟨s, hs, _⟩ => not_isLast_nil hs
  | append_singleton steps s ih =>
      rw [ofSteps_concat, count_step]
      simp only [isLast_concat]
      cases s with
      | function f columns => simp [AggregateStep.countSpec?, AggregateStep.place, ih]
      | count => simp [AggregateStep.countSpec?, AggregateStep.place]
      | countOf columns distinct => simp [AggregateStep.countSpec?, AggregateStep.place]

/-- The requested functions are those whose last step has columns. -/
theorem mem_functions_ofSteps_iff {f : AggregateFunction} {columns : List String} :
    (f, columns) ∈ (ofSteps steps).functions ↔
      IsLast steps (.function f) (.function f columns) ∧ columns ≠ [] := by
  rw [mem_functions_iff]
  refine and_congr_left fun hne => ?_
  induction steps using List.reverseRecOn with
  | nil => exact iff_of_false (fun h => hne h.symm) not_isLast_nil
  | append_singleton steps s ih =>
      rw [ofSteps_concat, columns_step, isLast_concat]
      cases s with
      | function g columns' =>
          by_cases hf : f = g
          · subst hf
            simp [AggregateStep.place, eq_comm]
          · have hg : g ≠ f := fun h => hf h.symm
            simp [AggregateStep.place, hf, hg, ih]
      | count => simp [AggregateStep.place, ih]
      | countOf columns' distinct => simp [AggregateStep.place, ih]

end Aggregates

/-! ### Slots -/

namespace AggregateSlots
variable {s : AggregateSlots} {a : Aggregates}

/-- The slots hold what is requested. -/
structure Holds (s : AggregateSlots) (a : Aggregates) : Prop where
  count : s.count = a.count
  columns? : ∀ f, s.columns? f = if a.columns f = [] then Option.none else some (a.columns f)

theorem columns?_none (f : AggregateFunction) : none.columns? f = Option.none :=
  Vector.getElem_replicate f.number.isLt

theorem columns?_step (s : AggregateSlots) (f g : AggregateFunction) (columns : List String) :
    (s.step (.function f columns)).columns? g =
      if g = f then (if columns = [] then Option.none else some columns) else s.columns? g := by
  show (s.slots.set f.number _)[(g.number : Nat)] = _
  rw [Vector.getElem_set]
  by_cases hg : g = f
  · subst hg
    simp
  · have hnumber : (f.number : Nat) ≠ g.number := fun hn =>
      hg (AggregateFunction.number_injective (Fin.ext hn.symm))
    rw [if_neg hnumber, if_neg hg]
    rfl

theorem holds_none : Holds none Aggregates.none where
  count := rfl
  columns? f := (columns?_none f).trans (if_pos rfl).symm

theorem Holds.step (h : Holds s a) (next : AggregateStep) : Holds (s.step next) (a.step next) := by
  cases next with
  | count => exact ⟨rfl, h.columns?⟩
  | countOf columns distinct => exact ⟨rfl, h.columns?⟩
  | function f columns =>
      refine ⟨h.count, fun g => ?_⟩
      rw [columns?_step, Aggregates.columns_step, h.columns?]
      by_cases hg : g = f <;> simp [hg]

theorem holds_ofSteps (steps : List AggregateStep) :
    Holds (ofSteps steps) (Aggregates.ofSteps steps) := by
  induction steps using List.reverseRecOn with
  | nil => exact holds_none
  | append_singleton steps next ih =>
      rw [Aggregates.ofSteps_concat, ofSteps, List.foldl_append]
      exact ih.step next

/-- What is read back is what is requested, in the order of the functions. -/
theorem Holds.functions_eq (h : Holds s a) : s.functions = a.functions := by
  rw [a.functions_ordered]
  unfold functions AggregateFunction.ordered
  congr 1
  funext f
  rw [h.columns?, Aggregates.columns]
  cases AggregateFunction.columnsIn a.functions f with
  | nil => rfl
  | cons c cs => rfl

theorem Holds.isEmpty_eq (h : Holds s a) : s.isEmpty = a.isEmpty := by
  have hslots : s.slots.all (·.isNone) = true ↔ ∀ f, s.columns? f = Option.none := by
    rw [Vector.all_eq_true]
    constructor
    · intro hall f
      exact Option.isNone_iff_eq_none.mp (hall f.number f.number.isLt)
    · intro hall i hi
      obtain ⟨f, hf⟩ := AggregateFunction.number_surjective ⟨i, hi⟩
      have hnone : s.slots[(f.number : Nat)] = Option.none := hall f
      simp only [hf] at hnone
      exact Option.isNone_iff_eq_none.mpr hnone
  have hfunctions : a.functions = [] ↔ ∀ f, s.columns? f = Option.none := by
    rw [← h.functions_eq, functions, List.filterMap_eq_nil_iff]
    simp [AggregateFunction.mem_all]
  rw [Bool.eq_iff_iff, AggregateSlots.isEmpty, Aggregates.isEmpty, Bool.and_eq_true,
    Bool.and_eq_true, h.count, hslots, List.isEmpty_iff, hfunctions]

end AggregateSlots

/-! ### Runs -/

namespace Aggregates

/-- What is requested after any steps. The count is that of the last step that asks for one; the
requested functions are those whose last step has columns, with these, and they stand in their order,
as they do if they are kept in slots. So steps with the same last step about every place request the
same, steps about different places may change places, and a function without columns is as if it had
never been asked for. A check passes if something is requested and every named column is
declared, and else it fails for the first one that is not. -/
theorem requests_of_steps (steps : List AggregateStep) :
    let a := ofSteps steps
    let slots := AggregateSlots.ofSteps steps
    (∀ c, a.count = some c ↔ ∃ s, IsLast steps .count s ∧ s.countSpec? = some c) ∧
    (∀ f columns, (f, columns) ∈ a.functions ↔
      IsLast steps (.function f) (.function f columns) ∧ columns ≠ []) ∧
    (a.functions.map Prod.fst).Sublist AggregateFunction.all ∧
    (slots.count = a.count ∧ slots.functions = a.functions ∧ slots.isEmpty = a.isEmpty) ∧
    (∀ steps', (∀ p s, IsLast steps' p s ↔ IsLast steps p s) → ofSteps steps' = a) ∧
    (∀ s s' more, s.place ≠ s'.place →
      ofSteps (steps ++ s :: s' :: more) = ofSteps (steps ++ s' :: s :: more)) ∧
    (∀ f, ofSteps (steps ++ [.function f []]) =
      ofSteps (steps.filter fun s => s.place ≠ .function f)) ∧
    ∀ t : Table,
      (a.validate t = .ok () ↔
        (∃ p, a.Requests p) ∧ ∀ c ∈ a.namedColumns, c ∈ t.fieldNames) ∧
      (a.validate t = .error .missingAggregate ↔ ¬ ∃ p, a.Requests p) ∧
      ∀ e, e ≠ .missingAggregate → (a.validate t = .error e ↔
        (∃ p, a.Requests p) ∧
          ∃ c, e = .unknownField t.qualified c ∧ FirstUndeclared t a.namedColumns c) := by
  intro a slots
  have hslots : slots.Holds a := AggregateSlots.holds_ofSteps steps
  refine ⟨fun c => count_ofSteps_iff, fun f columns => mem_functions_ofSteps_iff, ?_,
    ⟨hslots.count, hslots.functions_eq, hslots.isEmpty_eq⟩, ?_, ?_, ?_, fun t =>
    ⟨validate_eq_ok_iff, validate_eq_missing_iff, fun e he => validate_eq_error_iff he⟩⟩
  · rw [a.functions_ordered]
    exact AggregateFunction.ordered_sublist _
  · intro steps' hlast
    apply eq_of_mem
    · intro c
      simp only [a, count_ofSteps_iff, hlast]
    · intro f columns
      simp only [a, mem_functions_ofSteps_iff, hlast]
  · intro s s' more hplace
    have hsplit : ∀ s s', ofSteps (steps ++ s :: s' :: more) =
        more.foldl step ((a.step s).step s') := fun s s' => List.foldl_append
    rw [hsplit, hsplit, step_comm hplace]
  · intro f
    rw [ofSteps_concat, ofSteps, foldl_step_filter, step_none_nil]
    rfl

/-- The columns of the last step, and the order of the functions. -/
example :
    (ofSteps [.function .sum ["age"], .count, .function .max ["age"], .function .avg ["age"],
      .function .max ["age", "uuid"], .function .sum []]).functions =
      [(.avg, ["age"]), (.max, ["age", "uuid"])] := by
  decide

end Aggregates

end TableGraph
