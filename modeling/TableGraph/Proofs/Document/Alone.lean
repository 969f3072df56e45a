import Mathlib.Data.List.GetD
import Mathlib.Data.List.Induction
import Mathlib.Data.List.Nodup
import Mathlib.Data.Set.Function
import TableGraph.Proofs.Document.Filling
import TableGraph.Proofs.Document.TwoPhase
import TableGraph.Proofs.GraphQL.Renaming
import TableGraph.Sample.Tables

/-! # Roots in a batch and on their own

A root is sent in a document of many roots as it is sent on its own, but for its alias and for the
names of its variables.

* Nodes without aliases are added under `op0`, `op1`, … (`attemptAll_eq`);
* the sites of a root are bound after those of all earlier roots, and `renameAfter` takes the names
  that they have when the root is alone to those that they have there;
* the variables of the document are those of the single roots, renamed, one root after another
  (`entries_flatten`), and its roots are the single roots, renamed (`roots_eq_mapIdx`). -/

namespace TableGraph

open GraphQL

/-! ### Substitutions -/

/-- Takes each of the first names to the one at its place among the second. -/
def substitution (names others : List String) (name : String) : String :=
  others.getD (names.idxOf name) ""

section
variable {names others : List String} (hnodup : names.Nodup)
include hnodup

theorem substitution_getD {i : Nat} (hi : i < names.length) :
    substitution names others (names.getD i "") = others.getD i "" := by
  unfold substitution
  rw [List.getD_eq_getElem names "" hi, hnodup.idxOf_getElem i hi]

theorem map_substitution (hlength : names.length = others.length) :
    names.map (substitution names others) = others := by
  apply List.ext_getElem
  · rw [List.length_map, hlength]
  · intro i hi hi'
    rw [List.length_map] at hi
    have hname : substitution names others (names.getD i "") = others.getD i "" :=
      substitution_getD hnodup hi
    rw [List.getD_eq_getElem names "" hi, List.getD_eq_getElem others "" hi'] at hname
    rw [List.getElem_map, hname]

end

/-! ### Lists made of parts -/

/-- What grows by a part for each element is made of these parts. -/
theorem eq_flatten_mapIdx {α β : Type} (whole : List α → List β) (part : List α → α → List β)
    (hnil : whole [] = [])
    (hconcat : ∀ l a, whole (l ++ [a]) = whole l ++ part l a) (l : List α) :
    whole l = (l.mapIdx fun i a => part (l.take i) a).flatten := by
  induction l using List.reverseRecOn with
  | nil => exact hnil
  | append_singleton l a ih =>
      have htake : (l.mapIdx fun i a => part (l.take i) a) =
          l.mapIdx fun i b => part ((l ++ [a]).take i) b := by
        apply List.ext_getElem
        · simp
        · intro i hi hi'
          rw [List.length_mapIdx] at hi
          rw [List.getElem_mapIdx, List.getElem_mapIdx,
            List.take_append_of_le_length (Nat.le_of_lt hi)]
      rw [hconcat, ih, htake, List.mapIdx_concat, List.flatten_concat, List.take_left]

theorem map_flatten_mapIdx {α β γ : Type} (g : β → γ) (part : Nat → α → List β) (l : List α) :
    (l.mapIdx part).flatten.map g = (l.mapIdx fun i a => (part i a).map g).flatten := by
  have hmap : (l.mapIdx part).map (List.map g) = l.mapIdx fun i a => (part i a).map g := by
    apply List.ext_getElem?
    intro i
    simp only [List.getElem?_map, List.getElem?_mapIdx, Option.map_map, Function.comp_def]
  rw [List.map_flatten, hmap]

section
variable {α β : Type} {part : Nat → α → List β} {l : List α}
  (hnodup : (l.mapIdx part).flatten.Nodup)
include hnodup

theorem nodup_part {i : Nat} {a : α} (ha : l[i]? = some a) : (part i a).Nodup := by
  apply (List.nodup_flatten.mp hnodup).1
  obtain ⟨hi, rfl⟩ := List.getElem?_eq_some_iff.mp ha
  exact List.mem_mapIdx.mpr ⟨i, hi, rfl⟩

theorem eq_of_mem_parts {i j : Nat} {a b : α} (ha : l[i]? = some a) (hb : l[j]? = some b) {x : β}
    (hx : x ∈ part i a) (hy : x ∈ part j b) : i = j := by
  obtain ⟨hi, rfl⟩ := List.getElem?_eq_some_iff.mp ha
  obtain ⟨hj, rfl⟩ := List.getElem?_eq_some_iff.mp hb
  have hdisjoint := List.pairwise_iff_getElem.mp (List.nodup_flatten.mp hnodup).2
  simp only [List.length_mapIdx, List.getElem_mapIdx] at hdisjoint
  rcases Nat.lt_trichotomy i j with hlt | heq | hgt
  · exact absurd hy (hdisjoint i j hi hj hlt hx)
  · exact heq
  · exact absurd hx (hdisjoint j i hj hi hgt hy)

end

/-! ### Nodes under aliases -/

theorem Node.sites_withAlias (n : Node) (key : String) : (n.withAlias key).sites = n.sites := by
  cases n
  rfl

theorem Node.outline_withAlias (n : Node) (key : String) :
    (n.withAlias key).outline = n.outline.keyed key := by
  cases n
  rfl

namespace Document

variable {type : OperationType} {nodes : List Node}

/-! ### Aliases by number -/

theorem attemptAll_append (d : Document) (first second : List Node) :
    d.attemptAll (first ++ second) = (d.attemptAll first).attemptAll second := by
  induction first generalizing d with
  | nil => rfl
  | cons n rest ih => exact ih _

/-- The roots under numbers in order. -/
def numberedRoots (nodes : List Node) : List Node :=
  nodes.mapIdx fun i n => n.withAlias (numberedAlias i)

theorem length_numberedRoots (nodes : List Node) :
    (numberedRoots nodes).length = nodes.length := List.length_mapIdx

theorem numberedRoots_concat (nodes : List Node) (n : Node) :
    numberedRoots (nodes ++ [n]) =
      numberedRoots nodes ++ [n.withAlias (numberedAlias nodes.length)] := List.mapIdx_concat

/-- The next number is free. -/
theorem freeAlias_numberedRoots (type : OperationType) (nodes : List Node) :
    (Document.mk type (numberedRoots nodes)).freeAlias = numberedAlias nodes.length := by
  have hfree : numberedAlias nodes.length ∉ (Document.mk type (numberedRoots nodes)).aliases := by
    intro hmem
    obtain ⟨root, hroot, halias⟩ := List.mem_filterMap.mp hmem
    obtain ⟨i, hi, rfl⟩ := List.mem_mapIdx.mp hroot
    have hnumber : i = nodes.length := numberedAlias_injective (Option.some.inj halias)
    omega
  unfold freeAlias
  simp only [length_numberedRoots]
  rw [Fresh.index_eq_start hfree]

/-- Nodes without aliases are added under numbers in order. -/
theorem attemptAll_eq (htype : ∀ n ∈ nodes, n.kind.type? = some type)
    (halias : ∀ n ∈ nodes, n.alias = none) :
    (empty type).attemptAll nodes = ⟨type, numberedRoots nodes⟩ := by
  induction nodes using List.reverseRecOn with
  | nil => rfl
  | append_singleton l n ih =>
      simp only [List.forall_mem_append, List.forall_mem_singleton] at htype halias
      rw [attemptAll_append, ih htype.1 halias.1]
      show ((Document.mk type (numberedRoots l)).attempt n).2 = _
      rw [attempt_numbered htype.2 halias.2, freeAlias_numberedRoots, numberedRoots_concat]

/-! ### Sites and names -/

/-- The name that a variable of a root has after earlier roots, by the name that it has when the
root is alone. -/
def renameAfter (earlier : List Node) (n : Node) : String → String :=
  substitution (Variables.empty.namesOf n.sites)
    ((Variables.empty.bindAll (earlier.flatMap Node.sites)).namesOf n.sites)

theorem map_renameAfter (earlier : List Node) (n : Node) :
    (Variables.empty.namesOf n.sites).map (renameAfter earlier n) =
      (Variables.empty.bindAll (earlier.flatMap Node.sites)).namesOf n.sites := by
  apply map_substitution (Variables.nodup_namesOf_empty n.sites)
  rw [Variables.length_namesOf, Variables.length_namesOf]

theorem sites_numberedRoots (type : OperationType) (nodes : List Node) :
    (Document.mk type (numberedRoots nodes)).sites = nodes.flatMap Node.sites := by
  induction nodes using List.reverseRecOn with
  | nil => rfl
  | append_singleton l n ih =>
      unfold sites at ih ⊢
      simp only [numberedRoots_concat, List.flatMap_append] at ih ⊢
      rw [ih]
      simp [Node.sites_withAlias]

/-- The variables of many roots are those of the single roots, renamed. -/
theorem entries_flatten (nodes : List Node) :
    (Variables.empty.bindAll (nodes.flatMap Node.sites)).entries =
      (nodes.mapIdx fun i n => (Variables.empty.bindAll n.sites).entries.map fun v =>
        { v with name := renameAfter (nodes.take i) n v.name }).flatten := by
  refine eq_flatten_mapIdx (fun l => (Variables.empty.bindAll (l.flatMap Node.sites)).entries)
    (fun l n => (Variables.empty.bindAll n.sites).entries.map fun v =>
      { v with name := renameAfter l n v.name }) rfl ?_ nodes
  intro l n
  show (Variables.empty.bindAll ((l ++ [n]).flatMap Node.sites)).entries = _
  rw [List.flatMap_append, Variables.bindAll_append, Variables.entries_bindAll]
  congr 1
  rw [List.flatMap_singleton, ← map_renameAfter, Variables.entries_bindAll, List.zipWith_map_left]
  show _ = List.map _ ([] ++ List.zipWith _ _ _)
  rw [List.nil_append, List.map_zipWith]

/-! ### Roots -/

/-- The field of a root with the names that its sites have when it is alone. -/
def aloneField (n : Node) : QueryField String :=
  n.outline.fill (fun i => (Variables.empty.namesOf n.sites).getD i "") 0

/-- Among other roots the field has its names replaced. -/
theorem map_aloneField (earlier later : List Node) (n : Node) :
    (aloneField n).map (renameAfter earlier n) =
      n.outline.fill
        (fun i => (Variables.empty.namesOf ((earlier ++ n :: later).flatMap Node.sites)).getD i "")
        (earlier.flatMap Node.sites).length := by
  apply QueryField.map_fill
  intro i hi
  rw [n.sites_outline] at hi
  have hlength : (Variables.empty.namesOf (earlier.flatMap Node.sites)).length =
      (earlier.flatMap Node.sites).length := Variables.length_namesOf _ _
  have hi' : i < (Variables.empty.namesOf n.sites).length := by
    rw [Variables.length_namesOf]
    exact hi
  simp only [Nat.zero_add]
  rw [renameAfter, substitution_getD (Variables.nodup_namesOf_empty n.sites) hi',
    List.flatMap_append, Variables.namesOf_append, List.flatMap_cons, Variables.namesOf_append,
    ← hlength, List.getD_append_right _ _ _ _ (Nat.le_add_right _ i), Nat.add_sub_cancel_left,
    List.getD_append _ _ _ _ (by rw [Variables.length_namesOf]; exact hi)]

theorem take_numberedRoots (nodes : List Node) (i : Nat) :
    (numberedRoots nodes).take i = numberedRoots (nodes.take i) := by
  apply List.ext_getElem?
  intro j
  simp only [numberedRoots, List.getElem?_take, List.getElem?_mapIdx]
  split <;> simp_all

/-- The roots of a document of many are the single roots, renamed and under their own aliases. -/
theorem roots_eq_mapIdx (type : OperationType) (nodes : List Node) :
    (Document.mk type (numberedRoots nodes)).operation.roots =
      nodes.mapIdx fun i n =>
        ((aloneField n).map (renameAfter (nodes.take i) n)).keyed (numberedAlias i) := by
  apply List.ext_getElem?
  intro i
  have hbefore : fieldSites (((numberedRoots nodes).map Node.outline).take i) =
      (nodes.take i).flatMap Node.sites := by
    rw [← List.map_take, take_numberedRoots]
    exact (fieldSites_outline ⟨type, numberedRoots (nodes.take i)⟩).trans
      (sites_numberedRoots type (nodes.take i))
  simp only [operation, siteNames, sites_numberedRoots]
  rw [getElem?_fillFields, hbefore, List.getElem?_map, List.getElem?_mapIdx, numberedRoots,
    List.getElem?_mapIdx, Nat.zero_add]
  cases hn : nodes[i]? with
  | none => rfl
  | some n =>
      obtain ⟨hi, rfl⟩ := List.getElem?_eq_some_iff.mp hn
      have hsplit : nodes.take i ++ nodes[i] :: nodes.drop (i + 1) = nodes := by
        rw [← List.drop_eq_getElem_cons hi, List.take_append_drop]
      have hfield := map_aloneField (nodes.take i) (nodes.drop (i + 1)) nodes[i]
      rw [hsplit] at hfield
      simp only [Option.map_some]
      rw [hfield, Node.outline_withAlias, QueryField.fill_keyed]

/-! ### Documents -/

/-- What is written before the roots. -/
def opening (d : Document) : String :=
  d.type.keyword ++ " " ++ d.type.name ++ declarationsText d.operation.declarations ++ " \x7b "

theorem query_eq_opening (d : Document) :
    d.compile.query =
      d.opening ++ " ".intercalate (d.operation.roots.map QueryField.text) ++ " \x7d" :=
  d.query_eq

theorem declarations_eq_map (d : Document) :
    d.operation.declarations =
      (Variables.empty.bindAll d.sites).entries.map fun v => ⟨v.name, v.type⟩ := by
  rw [d.entries_draft, List.map_zipWith]
  rfl

theorem variables_eq_map (d : Document) :
    d.compile.variables =
      (Variables.empty.bindAll d.sites).entries.map fun v => (v.name, v.value) := by
  rw [d.variables_eq, d.entries_draft, List.map_zipWith]

theorem nodup_keys_variables (d : Document) : (OrderedMap.keys d.compile.variables).Nodup := by
  rw [d.keys_variables]
  exact Variables.nodup_namesOf_empty d.sites

theorem sites_alone (type : OperationType) (n : Node) (key : String) :
    (Document.mk type [n.withAlias key]).sites = n.sites := by
  simp [sites, Node.sites_withAlias]

theorem roots_alone (type : OperationType) (n : Node) (key : String) :
    (Document.mk type [n.withAlias key]).operation.roots = [(aloneField n).keyed key] := by
  simp only [operation, siteNames, sites_alone, List.map_cons, List.map_nil, fillFields]
  rw [Node.outline_withAlias, QueryField.fill_keyed]
  rfl

/-- A batch of nodes without aliases is the documents of its roots, one after another: each body is
that of the root alone under the alias of its number, with its variables renamed; the declarations
and the values are those of the root alone under the new names. No two variables of a root get one
name, and neither do variables of two roots. -/
theorem batch_eq_single_documents {type : OperationType} {nodes : List Node}
    (htype : ∀ n ∈ nodes, n.kind.type? = some type) (halias : ∀ n ∈ nodes, n.alias = none) :
    let batch := (empty type).attemptAll nodes
    let alone : Node → Document := fun n => ⟨type, [n.withAlias "op0"]⟩
    let rename : Nat → Node → String → String := fun i => renameAfter (nodes.take i)
    (∀ n ∈ nodes, single n = .ok ("op0", alone n) ∧
      (alone n).compile.query =
        (alone n).opening ++ ((aloneField n).keyed "op0").text ++ " \x7d") ∧
    batch.roots = (nodes.mapIdx fun i n => n.withAlias ("op" ++ toString i)) ∧
    batch.compile.query =
      batch.opening ++ " ".intercalate (nodes.mapIdx fun i n =>
        (((aloneField n).map (rename i n)).keyed ("op" ++ toString i)).text) ++ " \x7d" ∧
    batch.operation.declarations =
      (nodes.mapIdx fun i n => (alone n).operation.declarations.map fun v =>
        ⟨rename i n v.name, v.type⟩).flatten ∧
    batch.compile.variables =
      (nodes.mapIdx fun i n => (alone n).compile.variables.map fun v =>
        (rename i n v.1, v.2)).flatten ∧
    (∀ i n, nodes[i]? = some n →
      Set.InjOn (rename i n) {x | x ∈ OrderedMap.keys (alone n).compile.variables}) ∧
    ∀ i j n m x y, nodes[i]? = some n → nodes[j]? = some m →
      x ∈ OrderedMap.keys (alone n).compile.variables →
      y ∈ OrderedMap.keys (alone m).compile.variables → rename i n x = rename j m y → i = j := by
  intro batch alone rename
  have hbatch : batch = ⟨type, numberedRoots nodes⟩ := attemptAll_eq htype halias
  have hsites : batch.sites = nodes.flatMap Node.sites := by
    rw [hbatch]
    exact sites_numberedRoots type nodes
  have halone : ∀ n, (alone n).sites = n.sites := fun n => sites_alone type n "op0"
  have hvariables : batch.compile.variables =
      (nodes.mapIdx fun i n => (alone n).compile.variables.map fun v =>
        (rename i n v.1, v.2)).flatten := by
    simp only [variables_eq_map, hsites, halone]
    rw [entries_flatten, map_flatten_mapIdx]
    simp only [List.map_map]
    rfl
  have hkeys : OrderedMap.keys batch.compile.variables =
      (nodes.mapIdx fun i n =>
        (OrderedMap.keys (alone n).compile.variables).map (rename i n)).flatten := by
    unfold OrderedMap.keys
    rw [hvariables, map_flatten_mapIdx]
    simp only [List.map_map]
    rfl
  have hnodup := hkeys ▸ batch.nodup_keys_variables
  refine ⟨?_, ?_, ?_, ?_, hvariables, ?_, ?_⟩
  · intro n hn
    refine ⟨single_eq (htype n hn) (halias n hn), ?_⟩
    rw [query_eq_opening, roots_alone]
    simp
  · rw [hbatch]
    rfl
  · rw [query_eq_opening, hbatch, roots_eq_mapIdx]
    congr 3
    apply List.ext_getElem?
    intro i
    simp only [List.getElem?_map, List.getElem?_mapIdx, Option.map_map]
    rfl
  · simp only [declarations_eq_map, hsites, halone]
    rw [entries_flatten, map_flatten_mapIdx]
    simp only [List.map_map]
    rfl
  · intro i n hn x hx y hy heq
    exact List.inj_on_of_nodup_map (nodup_part hnodup hn) hx hy heq
  · intro i j n m x y hn hm hx hy heq
    refine eq_of_mem_parts hnodup hn hm (List.mem_map_of_mem hx) ?_
    rw [heq]
    exact List.mem_map_of_mem hy

/-- Two roots that are filtered by titles: beside the first the second has its variable `title`
under the name `title_2`, since it brings a variable `title_1` of its own. -/
theorem batch_eq_single_documents_of_titles :
    let filtered : Table → List String → Node := fun t keys =>
      ⟨.selectMany, t, t.qualified, none,
        [⟨"where", .object (keys.map fun key =>
          (key, .variable ⟨key, "String_comparison_exp", .string key⟩))⟩], [.column "title"]⟩
    let nodes := [filtered Sample.articles ["title"],
      filtered Sample.reviewers ["title_1", "title"]]
    let batch := (empty .query).attemptAll nodes
    (∀ n ∈ nodes, n.kind.type? = some .query) ∧ (∀ n ∈ nodes, n.alias = none) ∧
    OrderedMap.keys batch.compile.variables = ["title", "title_1", "title_2"] ∧
    batch.compile.variables =
      (nodes.mapIdx fun i n =>
        (Document.mk .query [n.withAlias "op0"]).compile.variables.map fun v =>
          (renameAfter (nodes.take i) n v.1, v.2)).flatten := by
  intro filtered nodes batch
  have htype : ∀ n ∈ nodes, n.kind.type? = some .query :=
    List.forall_mem_cons.mpr ⟨rfl, List.forall_mem_singleton.mpr rfl⟩
  have halias : ∀ n ∈ nodes, n.alias = none :=
    List.forall_mem_cons.mpr ⟨rfl, List.forall_mem_singleton.mpr rfl⟩
  exact ⟨htype, halias, by decide +kernel, (batch_eq_single_documents htype halias).2.2.2.2.1⟩

end Document

end TableGraph
