import TableGraph.Proofs.Operation.ArgumentForms
import TableGraph.Sample.Tables

/-! # Several updates in one root

When several updates are accepted in one root, beside when each of them is accepted alone.

* Both ways refuse the same filters, the same outputs, and updates without an operator
  (`UpdateEntry.isOk_value`, `BulkOperation.isOk_update`);
* alone, an update has objects as the values of its operators (`UpdateOps.isOk_arguments`).  Among
  others it may have any, and they are sent as they are (`updateValues_eq`);
* so the two ways agree exactly on updates whose operators all have objects
  (`distinct_updates_accepted_iff`), and not on a number to set (`number_is_set_among_others`). -/

namespace TableGraph

/-! ### Success of computations -/

section
variable {α β ε : Type} {x : Except ε α} {f : α → Except ε β}

theorem isOk_iff : x.isOk = true ↔ ∃ a, x = .ok a := by
  cases x with
  | error e => exact ⟨nofun, nofun⟩
  | ok a => exact ⟨fun _ => ⟨a, rfl⟩, fun _ => rfl⟩

theorem isOk_bind_pure (x : Except ε α) (g : α → β) : (x >>= fun a => pure (g a)).isOk = x.isOk := by
  cases x <;> rfl

theorem isOk_bind {ok : Bool} (h : ∀ a, (f a).isOk = ok) : (x >>= f).isOk = (x.isOk && ok) := by
  cases x with
  | error e => rfl
  | ok a => exact h a

end

theorem isOk_membersOf (value : Json) (table argument : String) :
    (membersOf value table argument).isOk = value.isObject := by
  cases value <;> rfl

theorem isOk_rootNode (kind : NodeKind) (t : Table) (field : String)
    (arguments : Except BuildError (List Argument)) (selection : Except BuildError (List Entry)) :
    (rootNode kind t field arguments selection).isOk = (arguments.isOk && selection.isOk) :=
  isOk_bind fun _ => isOk_bind_pure selection _

/-! ### An update alone -/

/-- All operators have objects as their values. -/
def UpdateOps.takesObjects (ops : UpdateOps) : Bool := ops.entries.all fun e => e.2.isObject

theorem UpdateOps.isOk_entryArguments (t : Table) :
    ∀ entries : List (String × Json),
      (entryArguments t entries).isOk = entries.all fun e => e.2.isObject
  | [] => rfl
  | (name, value) :: rest => by
      have hrest := isOk_entryArguments t rest
      rw [List.all_cons, ← hrest, ← isOk_membersOf value t.qualified name]
      exact isOk_bind fun _ => isOk_bind_pure _ _

theorem UpdateOps.isOk_arguments (t : Table) (ops : UpdateOps) :
    (ops.arguments t).isOk = (!ops.isEmpty && ops.takesObjects) := by
  unfold arguments
  cases hempty : ops.isEmpty with
  | true => rfl
  | false => exact isOk_entryArguments t ops.entries

theorem BulkOperation.isOk_update (t : Table) (output : MutationOutput) (filter : Json)
    (ops : UpdateOps) :
    ((BulkOperation.update filter ops).node t output).isOk =
      ((compileFilter t filter).isOk && (!ops.isEmpty && ops.takesObjects) &&
        (output.selection t).isOk) := by
  have hwhere : (whereArgument t filter).isOk = (compileFilter t filter).isOk :=
    isOk_bind_pure _ _
  have harguments : ((BulkOperation.update filter ops).arguments t).isOk =
      ((compileFilter t filter).isOk && (!ops.isEmpty && ops.takesObjects)) := by
    rw [← hwhere, ← ops.isOk_arguments t]
    exact isOk_bind fun _ => isOk_bind_pure _ _
  rw [← harguments]
  exact isOk_rootNode ..

/-! ### Updates among others -/

/-- The value of an update as it is sent among others. -/
def UpdateEntry.sent (u : UpdateEntry) : Json := .object (("where", u.filter) :: u.ops.entries)

theorem UpdateEntry.isOk_value (t : Table) (u : UpdateEntry) :
    (u.value t).isOk = ((compileFilter t u.filter).isOk && !u.ops.isEmpty) := by
  refine isOk_bind fun _ => ?_
  cases u.ops.isEmpty <;> rfl

theorem UpdateEntry.value_eq (t : Table) (u : UpdateEntry) : Yields (u.value t) (· = u.sent) := by
  refine yields_true.bind fun _ _ => ?_
  cases u.ops.isEmpty with
  | true => exact yields_error
  | false => exact yields_ok rfl

theorem isOk_updateValues (t : Table) :
    ∀ us : List UpdateEntry, (updateValues t us).isOk = us.all fun u => (u.value t).isOk
  | [] => rfl
  | u :: rest => by
      rw [List.all_cons, ← isOk_updateValues t rest]
      exact isOk_bind fun _ => isOk_bind_pure _ _

theorem updateValues_eq (t : Table) (us : List UpdateEntry) :
    Yields (updateValues t us) (· = us.map UpdateEntry.sent) := by
  induction us with
  | nil => exact yields_ok rfl
  | cons u rest ih =>
      refine (u.value_eq t).bind fun value hvalue => ih.bind fun values hvalues => yields_ok ?_
      rw [hvalue, hvalues, List.map_cons]

namespace DistinctUpdates

theorem isOk_arguments (t : Table) (us : DistinctUpdates) :
    (us.arguments t).isOk = (!us.entries.isEmpty && us.entries.all fun u => (u.value t).isOk) := by
  refine (isOk_bind_pure (updatesArgument t us) _).trans ?_
  unfold updatesArgument
  cases us.entries.isEmpty with
  | true => rfl
  | false => exact (isOk_bind_pure _ _).trans (isOk_updateValues t us.entries)

theorem arguments_eq (t : Table) (us : DistinctUpdates) :
    Yields (us.arguments t) fun as =>
      as = [.bound "updates" ("[" ++ t.qualified ++ "_updates!]!")
        (.array (us.entries.map UpdateEntry.sent))] := by
  have hargument : Yields (updatesArgument t us) fun a =>
      a = .bound "updates" ("[" ++ t.qualified ++ "_updates!]!")
        (.array (us.entries.map UpdateEntry.sent)) := by
    unfold updatesArgument
    split
    · exact yields_error
    · exact (updateValues_eq t us.entries).bind fun values hvalues => yields_ok (by rw [hvalues])
  exact hargument.bind fun a ha => yields_ok (by rw [ha])

/-- Several updates are accepted if there is one, each has a filter that is accepted and an
operator, and the output can be selected. -/
theorem accepted_iff (t : Table) (output : MutationOutput) (us : DistinctUpdates) :
    (∃ n, us.node t output = .ok n) ↔ us.entries ≠ [] ∧
      (∀ u ∈ us.entries, (∃ entries, compileFilter t u.filter = .ok entries) ∧
        u.ops.entries ≠ []) ∧
      ∃ entries, output.selection t = .ok entries := by
  have hnode : (us.node t output).isOk = ((us.arguments t).isOk && (output.selection t).isOk) :=
    isOk_rootNode ..
  rw [← isOk_iff, hnode, us.isOk_arguments t]
  simp only [Bool.and_eq_true, Bool.not_eq_true', List.isEmpty_eq_false_iff, List.all_eq_true,
    UpdateEntry.isOk_value, UpdateOps.isEmpty, isOk_iff, and_assoc]

/-- An update is accepted alone on the same conditions, and if all its operators have objects. -/
theorem accepted_alone_iff (t : Table) (output : MutationOutput) (u : UpdateEntry) :
    (∃ n, (BulkOperation.update u.filter u.ops).node t output = .ok n) ↔
      ((∃ entries, compileFilter t u.filter = .ok entries) ∧ u.ops.entries ≠ []) ∧
      (∀ e ∈ u.ops.entries, e.2.isObject = true) ∧
      ∃ entries, output.selection t = .ok entries := by
  rw [← isOk_iff, BulkOperation.isOk_update]
  simp only [Bool.and_eq_true, Bool.not_eq_true', List.isEmpty_eq_false_iff, List.all_eq_true,
    UpdateOps.isEmpty, UpdateOps.takesObjects, isOk_iff, and_assoc]

/-- Updates are accepted each alone exactly if they are accepted in one root and all their
operators have objects as values.  So the two ways of updating accept the same if and only if the
updates are not accepted in one root with an operator whose value is no object; in one root the
values of the operators are sent as they are. -/
theorem distinct_updates_accepted_iff (t : Table) (output : MutationOutput)
    (us : DistinctUpdates) :
    let together : Prop := ∃ n, us.node t output = .ok n
    let alone : Prop := us.entries ≠ [] ∧
      ∀ u ∈ us.entries, ∃ n, (BulkOperation.update u.filter u.ops).node t output = .ok n
    let objects : Prop := ∀ u ∈ us.entries, ∀ e ∈ u.ops.entries, e.2.isObject = true
    (alone ↔ together ∧ objects) ∧
    ((together ↔ alone) ↔ ¬ (together ∧ ¬ objects)) ∧
    ∀ n, us.node t output = .ok n →
      n.arguments = [.bound "updates" ("[" ++ t.qualified ++ "_updates!]!")
        (.array (us.entries.map UpdateEntry.sent))] := by
  intro together alone objects
  have halone : alone ↔ together ∧ objects := by
    constructor
    · rintro ⟨hne, hall⟩
      have heach := fun u hu => (accepted_alone_iff t output u).mp (hall u hu)
      -- There is an update, and it shows that the output can be selected.
      obtain ⟨first, hfirst⟩ := List.exists_mem_of_ne_nil _ hne
      have hselection := (heach first hfirst).2.2
      have htogether : together :=
        (us.accepted_iff t output).mpr ⟨hne, fun u hu => (heach u hu).1, hselection⟩
      exact ⟨htogether, fun u hu => (heach u hu).2.1⟩
    · rintro ⟨htogether, hobjects⟩
      obtain ⟨hne, hall, hselection⟩ := (us.accepted_iff t output).mp htogether
      exact ⟨hne, fun u hu =>
        (accepted_alone_iff t output u).mpr ⟨hall u hu, hobjects u hu, hselection⟩⟩
  refine ⟨halone, ?_, fun n hn => ?_⟩
  · rw [halone, iff_self_and]
    exact ⟨fun h hodd => hodd.2 (h hodd.1), fun h htogether => Classical.byContradiction fun hnot =>
      h ⟨htogether, hnot⟩⟩
  · obtain ⟨as, es, has, -, rfl⟩ := rootNode_eq_ok hn
    exact us.arguments_eq t as has

/-- Setting the columns of authors to a number is refused alone and accepted among several updates,
and the number is sent. -/
theorem number_is_set_among_others :
    let ops : UpdateOps := { UpdateOps.none with set := some (.ofNat 5) }
    let us : DistinctUpdates := ⟨[⟨.object [], ops⟩]⟩
    let argument := Argument.bound "updates" "[authors_updates!]!"
      (.array [.object [("where", .object []), ("_set", .ofNat 5)]])
    (BulkOperation.update (.object []) ops).node Sample.authors .affectedRows =
      .error (.invalidArgument "authors" "_set" "object") ∧
    us.node Sample.authors .affectedRows =
      .ok ⟨.updateManyDistinct, Sample.authors, "update_authors_many", none, [argument],
        [.affectedRows]⟩ :=
  ⟨rfl, rfl⟩

end DistinctUpdates

end TableGraph
