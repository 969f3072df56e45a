import TableGraph.Proofs.Document.Alone
import TableGraph.Proofs.Operation.RequiredValues
import TableGraph.Sample.Tables

/-! # Required values of documents

Which documents declare a variable of a required type and bind it to null.

* A document is assembled from requests that their tables accept, each under any alias
  (`Document.Assembled`);
* its variables of required types have values exactly if its sites do (`allProvided_sites_iff`),
  and the sites of each root are known from its request;
* so what is missing is missing from keys alone (`required_values_iff`): an object with null for a
  key column is accepted, and the null is bound (`null_in_key_is_bound`). -/

namespace TableGraph

/-! ### Assembled documents -/

/-- The node of a request that the table accepts, perhaps under a name of its own. -/
inductive Node.Accepted (t : Table) (i : Invocation) : Node → Prop where
  | node {n : Node} (h : i.node t = .ok n) : Node.Accepted t i n
  | withAlias {n : Node} (key : String) (hn : Node.Accepted t i n) :
    Node.Accepted t i (n.withAlias key)

theorem Node.Accepted.provided_iff {t : Table} {i : Invocation} {n : Node}
    (h : Node.Accepted t i n) :
    AllProvided n.sites ↔ ∀ key ∈ i.key?, t.KeyProvided key := by
  induction h with
  | node h => exact i.node_provided_iff t _ h
  | withAlias key _ ih => rwa [Node.sites_withAlias]

namespace Document

/-- A document to which requests to tables were added one after another. -/
inductive Assembled : Document → List (Table × Invocation) → Prop where
  | empty (type : OperationType) : Assembled (.empty type) []
  | push {d d' : Document} {requests : List (Table × Invocation)} {t : Table} {i : Invocation}
    {n : Node} {key : String} (hd : Assembled d requests) (hn : Node.Accepted t i n)
    (h : d.push n = .ok (key, d')) : Assembled d' (requests ++ [(t, i)])

/-- The keys of the requests are the only place where values may be missing. -/
theorem Assembled.provided_iff {d : Document} {requests : List (Table × Invocation)}
    (h : d.Assembled requests) :
    AllProvided d.sites ↔ ∀ r ∈ requests, ∀ key ∈ r.2.key?, r.1.KeyProvided key := by
  induction h with
  | empty type => exact iff_of_true (List.forall_mem_nil _) (List.forall_mem_nil _)
  | push _ hn h ih =>
      obtain ⟨-, -, -, rfl⟩ := push_eq_ok h
      unfold sites AllProvided at ih ⊢
      rw [List.flatMap_append, List.forall_mem_append, ih, List.forall_mem_append,
        List.flatMap_singleton, Node.sites_withAlias, List.forall_mem_singleton]
      exact and_congr_right fun _ => hn.provided_iff

/-! ### Variables -/

theorem lookup_variables (d : Document) {v : Variable}
    (hv : v ∈ (Variables.empty.bindAll d.sites).entries) :
    d.compile.variables.lookup v.name = some v.value := by
  rw [OrderedMap.lookup_eq_some_iff d.nodup_keys_variables, d.variables_eq_map]
  exact List.mem_map_of_mem hv

/-- What is asked of the sites can be asked of the variables that are declared and bound. -/
theorem allProvided_sites_iff (d : Document) :
    AllProvided d.sites ↔ ∀ v ∈ d.operation.declarations, isRequired v.type = true →
      d.compile.variables.lookup v.name ≠ some .null := by
  have htyped : (Variables.empty.bindAll d.sites).entries.map (fun v => (v.type, v.value)) =
      d.sites.map fun b => (b.type, b.value) := Variables.empty.typed_values_bindAll d.sites
  calc AllProvided d.sites
      ↔ ∀ p ∈ d.sites.map fun b => (b.type, b.value), isRequired p.1 = true → p.2 ≠ .null := by
        rw [List.forall_mem_map]
        rfl
    _ ↔ ∀ v ∈ (Variables.empty.bindAll d.sites).entries,
          isRequired v.type = true → v.value ≠ .null := by
        rw [← htyped, List.forall_mem_map]
    _ ↔ ∀ v ∈ (Variables.empty.bindAll d.sites).entries, isRequired v.type = true →
          d.compile.variables.lookup v.name ≠ some .null := by
        refine forall₂_congr fun v hv => ?_
        rw [d.lookup_variables hv, Ne, Ne, Option.some.injEq]
    _ ↔ ∀ v ∈ d.operation.declarations, isRequired v.type = true →
          d.compile.variables.lookup v.name ≠ some .null := by
        rw [d.declarations_eq_map, List.forall_mem_map]

/-- A document that is assembled from accepted requests is written with a header that declares
variables of which each is bound, and those of required types are bound to values, not null,
exactly if no request has a key that is an object with null for a column of the primary key. All
other values of required types are checked: inserted objects, arguments of functions, several
updates, and bare keys. -/
theorem required_values_iff {d : Document} {requests : List (Table × Invocation)}
    (h : d.Assembled requests) :
    d.compile.query = d.operation.text ∧
    (∀ v ∈ d.operation.declarations, ∃ value,
      d.compile.variables.lookup v.name = some value) ∧
    ((∀ v ∈ d.operation.declarations, isRequired v.type = true →
        d.compile.variables.lookup v.name ≠ some .null) ↔
      ∀ r ∈ requests, ∀ key ∈ r.2.key?, ∀ column ∈ r.1.primaryKey,
        key.member? column ≠ some .null) := by
  refine ⟨d.query_eq, ?_, d.allProvided_sites_iff.symm.trans h.provided_iff⟩
  rw [d.declarations_eq_map]
  exact List.forall_mem_map.mpr fun v hv => ⟨v.value, d.lookup_variables hv⟩

/-- A membership by user and group, and under an alias an author by a bare key: all columns of the
keys are bound to values. -/
theorem required_values_iff_of_members :
    let member : Invocation :=
      .record (.selectByKey (.object [("user_id", .ofNat 3), ("group_id", .ofNat 5)])) .key
    let author : Invocation := .record (.selectByKey (.string "a1")) .key
    let requests := [(Sample.memberships, member), (Sample.authors, author)]
    let row : Node := ⟨.selectOne, Sample.memberships, "crm_memberships_by_pk", none,
      [⟨"user_id", .variable ⟨"user_id", "Int!", .ofNat 3⟩⟩,
        ⟨"group_id", .variable ⟨"group_id", "Int!", .ofNat 5⟩⟩],
      [.column "user_id", .column "group_id"]⟩
    let writer : Node := ⟨.selectOne, Sample.authors, "authors_by_pk", none,
      [⟨"uuid", .variable ⟨"uuid", "uuid!", .string "a1"⟩⟩], [.column "uuid"]⟩
    let d : Document := ⟨.query, [row.withAlias "op0", writer.withAlias "writer"]⟩
    d.Assembled requests ∧
    ∀ v ∈ d.operation.declarations, isRequired v.type = true →
      d.compile.variables.lookup v.name ≠ some .null := by
  intro member author requests row writer d
  have hrow : member.node Sample.memberships = .ok row := rfl
  have hwriter : author.node Sample.authors = .ok writer := rfl
  have hd : d.Assembled requests :=
    .push (.push (.empty .query) (.node hrow) rfl) (.withAlias "writer" (.node hwriter)) rfl
  have hmember : ∀ column ∈ Sample.memberships.primaryKey,
      (Json.object [("user_id", .ofNat 3), ("group_id", .ofNat 5)]).member? column ≠
        some .null := by
    simp [Sample.memberships, Json.member?, List.lookup_cons, Json.ofNat]
  refine ⟨hd, (required_values_iff hd).2.2.mpr ?_⟩
  simp only [requests, List.forall_mem_cons]
  refine ⟨fun key hkey => ?_, fun key hkey => ?_, List.forall_mem_nil _⟩
  · cases hkey
    exact hmember
  · cases hkey
    exact fun _ _ hnull => Option.some_ne_none _ hnull.symm

/-- A bare null is refused as a key of authors. As the member of an object it is accepted, and bound
to a variable that the header declares with a type that takes no null. -/
theorem null_in_key_is_bound :
    let byKey : Json → Invocation := fun key => .record (.selectByKey key) .key
    let requests := [(Sample.authors, byKey (.object [("uuid", .null)]))]
    let root : Node := ⟨.selectOne, Sample.authors, "authors_by_pk", none,
      [⟨"uuid", .variable ⟨"uuid", "uuid!", .null⟩⟩], [.column "uuid"]⟩
    let d : Document := ⟨.query, [root.withAlias "op0"]⟩
    (byKey .null).node Sample.authors = .error (.primaryKeyMismatch "authors" ["uuid"] []) ∧
    d.Assembled requests ∧
    d.compile.query =
      "query Query($uuid: uuid!) \x7b op0: authors_by_pk(uuid: $uuid) \x7b uuid \x7d \x7d" ∧
    ⟨"uuid", "uuid!"⟩ ∈ d.operation.declarations ∧ isRequired "uuid!" = true ∧
    d.compile.variables.lookup "uuid" = some .null := by
  intro byKey requests root d
  have hroot : (byKey (.object [("uuid", .null)])).node Sample.authors = .ok root := rfl
  have hd : d.Assembled requests := .push (.empty .query) (.node hroot) rfl
  exact ⟨rfl, hd, by decide +kernel, .head _, by decide, rfl⟩

end Document

end TableGraph
