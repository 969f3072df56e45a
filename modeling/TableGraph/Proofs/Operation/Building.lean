import Mathlib.Data.List.Forall2
import TableGraph.Action

/-! # Building nodes

What it takes to build a node.  A computation of several steps succeeds if each step does
(`bind_eq_ok`), and one for each item of a list fails with the first item that fails
(`mapM_eq_error_iff`); a root that is built has the arguments and the selection that it was built from
and no alias (`rootNode_eq_ok`), and so has the node of a relation but for its alias
(`relatedNode_eq_ok`).  What holds of all results of a computation is found step by step
(`Yields.bind`), and so is what the results of two computations have in common
(`AgreeBy.bind`). -/

namespace TableGraph

variable {α β ε : Type}

theorem bind_eq_ok {x : Except ε α} {f : α → Except ε β} {b : β} :
    x >>= f = .ok b ↔ ∃ a, x = .ok a ∧ f a = .ok b := by
  cases x with
  | error e => exact ⟨nofun, fun ⟨_, h, _⟩ => nomatch h⟩
  | ok a => exact ⟨fun h => ⟨a, rfl, h⟩, fun ⟨_, h, hf⟩ => by cases h; exact hf⟩

theorem map_eq_ok {x : Except ε α} {f : α → β} {b : β} :
    x.map f = .ok b ↔ ∃ a, x = .ok a ∧ f a = b := by
  cases x with
  | error e => exact ⟨nofun, fun ⟨_, h, _⟩ => nomatch h⟩
  | ok a => exact ⟨fun h => ⟨a, rfl, by cases h; rfl⟩, fun ⟨_, h, hf⟩ => by cases h; rw [← hf]; rfl⟩

theorem map_eq_error {x : Except ε α} {f : α → β} {e : ε} :
    x.map f = .error e ↔ x = .error e := by
  cases x with
  | error e' => exact ⟨fun h => by cases h; rfl, fun h => by cases h; rfl⟩
  | ok a => exact ⟨nofun, nofun⟩

theorem liftBuild_eq_ok {x : Except BuildError α} {a : α} : liftBuild x = .ok a ↔ x = .ok a := by
  cases x with
  | error e => exact ⟨nofun, nofun⟩
  | ok b => simp [liftBuild]

/-! ### Computations for all items of a list -/

section
variable {f : α → Except ε β} {xs : List α}

theorem mapM_eq_ok_iff {ys : List β} :
    xs.mapM f = .ok ys ↔ List.Forall₂ (fun x y => f x = .ok y) xs ys := by
  induction xs generalizing ys with
  | nil =>
      rw [List.mapM_nil, List.forall₂_nil_left_iff]
      exact ⟨fun h => by cases h; rfl, fun h => by rw [h]; rfl⟩
  | cons x xs ih =>
      rw [List.mapM_cons, bind_eq_ok, List.forall₂_cons_left_iff]
      constructor
      · rintro ⟨y, hy, h⟩
        obtain ⟨more, hmore, h⟩ := bind_eq_ok.mp h
        cases h
        exact ⟨y, more, hy, ih.mp hmore, rfl⟩
      · rintro ⟨y, more, hy, hmore, rfl⟩
        exact ⟨y, hy, bind_eq_ok.mpr ⟨more, ih.mpr hmore, rfl⟩⟩

theorem mapM_append_error {before : List α} {x : α} {e : ε}
    (hbefore : ∀ b ∈ before, ∃ y, f b = .ok y) (hx : f x = .error e) (after : List α) :
    (before ++ x :: after).mapM f = .error e := by
  induction before with
  | nil =>
      rw [List.nil_append, List.mapM_cons, hx]
      rfl
  | cons b before ih =>
      rw [List.forall_mem_cons] at hbefore
      obtain ⟨⟨y, hy⟩, hbefore⟩ := hbefore
      rw [List.cons_append, List.mapM_cons, hy, ih hbefore]
      rfl

/-- The error that is given is that of the first computation that fails. -/
theorem exists_of_mapM_error {e : ε} (h : xs.mapM f = .error e) :
    ∃ before x after, xs = before ++ x :: after ∧ (∀ b ∈ before, ∃ y, f b = .ok y) ∧
      f x = .error e := by
  induction xs with
  | nil => cases h
  | cons first rest ih =>
      rw [List.mapM_cons] at h
      cases hfirst : f first with
      | error e' =>
          rw [hfirst] at h
          cases h
          exact ⟨[], first, rest, rfl, nofun, hfirst⟩
      | ok y =>
          cases hrest : rest.mapM f with
          | ok more =>
              rw [hfirst, hrest] at h
              cases h
          | error e' =>
              rw [hfirst, hrest] at h
              cases h
              obtain ⟨before, x, after, rfl, hbefore, hx⟩ := ih hrest
              exact ⟨first :: before, x, after, rfl,
                List.forall_mem_cons.mpr ⟨⟨y, hfirst⟩, hbefore⟩, hx⟩

theorem mapM_eq_error_iff {e : ε} :
    xs.mapM f = .error e ↔ ∃ before x after, xs = before ++ x :: after ∧
      (∀ b ∈ before, ∃ y, f b = .ok y) ∧ f x = .error e := by
  constructor
  · exact exists_of_mapM_error
  · rintro ⟨before, x, after, rfl, hbefore, hx⟩
    exact mapM_append_error hbefore hx after

/-- All computations have to succeed. -/
theorem exists_mapM_iff : (∃ ys, xs.mapM f = .ok ys) ↔ ∀ x ∈ xs, ∃ y, f x = .ok y := by
  induction xs with
  | nil => exact iff_of_true ⟨[], rfl⟩ (List.forall_mem_nil _)
  | cons x rest ih =>
      rw [List.forall_mem_cons, ← ih]
      simp only [mapM_eq_ok_iff, List.forall₂_cons_left_iff]
      constructor
      · rintro ⟨-, y, ys, hy, hys, rfl⟩
        exact ⟨⟨y, hy⟩, ys, hys⟩
      · rintro ⟨⟨y, hy⟩, ys, hys⟩
        exact ⟨y :: ys, y, ys, hy, hys, rfl⟩

theorem forall₂_congr_of_mem {R S : α → β → Prop} {ys : List β}
    (h : ∀ x ∈ xs, ∀ y, R x y ↔ S x y) : List.Forall₂ R xs ys ↔ List.Forall₂ S xs ys := by
  induction xs generalizing ys with
  | nil => rw [List.forall₂_nil_left_iff, List.forall₂_nil_left_iff]
  | cons x xs ih =>
      rw [List.forall_mem_cons] at h
      simp only [List.forall₂_cons_left_iff, h.1, ih h.2]

end

/-! ### Properties of results -/

/-- Whatever the computation gives has the property. -/
def Yields (x : Except ε α) (P : α → Prop) : Prop := ∀ a, x = .ok a → P a

section
variable {x : Except ε α} {f : α → Except ε β} {P : α → Prop} {Q : β → Prop} {a : α} {e : ε}

theorem yields_ok (h : P a) : Yields (.ok a : Except ε α) P := by
  intro b hb
  cases hb
  exact h

theorem yields_error : Yields (.error e : Except ε α) P := nofun

theorem yields_true : Yields x fun _ => True := fun _ _ => trivial

theorem Yields.bind (hx : Yields x P) (hf : ∀ a, P a → Yields (f a) Q) : Yields (x >>= f) Q := by
  intro b hb
  obtain ⟨a, ha, hb⟩ := bind_eq_ok.mp hb
  exact hf a (hx a ha) b hb

end

/-! ### Two computations -/

/-- Whatever the two computations give looks the same through `f`. -/
def AgreeBy {γ : Type} (f : α → γ) (x y : Except ε α) : Prop :=
  ∀ a b, x = .ok a → y = .ok b → f a = f b

section
variable {γ δ : Type} {f : α → γ} {g : β → δ} {x y : Except ε α} {a b : α}

theorem agreeBy_ok (h : f a = f b) : AgreeBy f (.ok a : Except ε α) (.ok b) := by
  intro c d hc hd
  cases hc
  cases hd
  exact h

theorem agreeBy_error {e : ε} : AgreeBy f (.error e) y := nofun

theorem AgreeBy.refl (x : Except ε α) : AgreeBy f x x := by
  intro a b ha hb
  rw [ha] at hb
  cases hb
  rfl

theorem agreeBy_of_yields {c : γ} (hx : Yields x fun a => f a = c)
    (hy : Yields y fun a => f a = c) : AgreeBy f x y :=
  fun a b ha hb => (hx a ha).trans (hy b hb).symm

/-- What looks the same for all values does so for any two. -/
theorem agreeBy_of_constant {z : β → Except ε α} {c : γ} (h : ∀ b, Yields (z b) fun a => f a = c)
    (b b' : β) : AgreeBy f (z b) (z b') := agreeBy_of_yields (h b) (h b')

/-- What looks the same for all values that are there does so for any two that are both there or
both absent. -/
theorem agreeBy_of_isSome {z : Option β → Except ε α} {c : γ} {o o' : Option β}
    (h : o.isSome = o'.isSome) (hsome : ∀ b, Yields (z (some b)) fun a => f a = c) :
    AgreeBy f (z o) (z o') := by
  cases o with
  | none =>
      cases o' with
      | none => exact .refl _
      | some b' => cases h
  | some b =>
      cases o' with
      | none => cases h
      | some b' => exact agreeBy_of_constant hsome b b'

theorem AgreeBy.bind {k l : α → Except ε β} (hxy : AgreeBy f x y)
    (h : ∀ a b, f a = f b → AgreeBy g (k a) (l b)) : AgreeBy g (x >>= k) (y >>= l) := by
  intro c d hc hd
  obtain ⟨a, ha, hc⟩ := bind_eq_ok.mp hc
  obtain ⟨b, hb, hd⟩ := bind_eq_ok.mp hd
  exact h a b (hxy a b ha hb) c d hc hd

end

/-! ### Nodes -/

section
variable {kind : NodeKind} {t : Table} {field ending : String} {key : Option String}
  {relation : Except BuildError Relation} {arguments : Except BuildError (List Argument)}
  {selection : Except BuildError (List Entry)} {n : Node}

theorem rootNode_eq_ok (h : rootNode kind t field arguments selection = .ok n) :
    ∃ as es, arguments = .ok as ∧ selection = .ok es ∧ n = ⟨kind, t, field, none, as, es⟩ := by
  obtain ⟨as, has, h⟩ := bind_eq_ok.mp h
  obtain ⟨es, hes, h⟩ := bind_eq_ok.mp h
  cases h
  exact ⟨as, es, has, hes, rfl⟩

theorem relatedNode_eq_ok
    (h : relatedNode kind t ending key relation arguments selection = .ok n) :
    ∃ r as es, relation = .ok r ∧ arguments = .ok as ∧ selection = .ok es ∧
      n = ⟨kind, t, r.name ++ ending, key, as, es⟩ := by
  obtain ⟨r, hr, h⟩ := bind_eq_ok.mp h
  obtain ⟨as, has, h⟩ := bind_eq_ok.mp h
  obtain ⟨es, hes, h⟩ := bind_eq_ok.mp h
  cases h
  exact ⟨r, as, es, hr, has, hes, rfl⟩

theorem checkSelection_self (t : Table) (entries : List Entry) :
    Yields (checkSelection t entries) (· = entries) := by
  unfold checkSelection
  split
  · exact yields_error
  · split
    · exact yields_error
    · exact yields_ok rfl

theorem rootNode_alias (h : rootNode kind t field arguments selection = .ok n) :
    n.alias = none := by
  obtain ⟨_, _, _, _, rfl⟩ := rootNode_eq_ok h
  rfl

end

/-! ### Actions -/

theorem actionOf_eq_ok {node : Except BuildError Node} {read : Json → Except ClientError α}
    {a : Action α} (h : actionOf node read = .ok a) : node = .ok a.node := by
  obtain ⟨n, hn, rfl⟩ := map_eq_ok.mp h
  exact liftBuild_eq_ok.mp hn

theorem read_of_actionOf {node : Except BuildError Node} {read : Json → Except ClientError α}
    {a : Action α} (h : actionOf node read = .ok a) : a.read = read := by
  obtain ⟨n, -, rfl⟩ := map_eq_ok.mp h
  rfl

end TableGraph
