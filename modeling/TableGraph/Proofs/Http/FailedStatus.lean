import TableGraph.Http.Transport
import TableGraph.Proofs.Batch.Immediate
import TableGraph.Proofs.Http.Attempts

/-! # Answers of a failed status

What a client gets from an answer whose status is no success.

* A body that reports errors is handed on whatever the status below 500 is, and a list of errors
  counts as a report even if it is empty.  Afterwards an empty list reports nothing, so data beside
  it passes for a success (`Message.PassesAs`);
* no other answer of such a status gives data (`dataOf_interpret_iff`), whichever attempt it ends
  (`dataOf_reported`), and then a single run fails and no handle of a batch is fulfilled
  (`failed_status_data_iff`). -/

namespace TableGraph

/-! ### Data of responses -/

theorem Response.intoData_eq_ok_iff (r : Response) (data : Json) :
    r.intoData = .ok data ↔
      r.errors.getD [] = [] ∧ r.error = none ∧ r.data = some data ∧ data ≠ .null := by
  unfold intoData
  cases herrors : r.errors.getD [] with
  | cons e rest => simp
  | nil =>
      cases herror : r.error with
      | some error => simp
      | none =>
          cases hdata : r.data with
          | none => simp
          | some value =>
              cases value with
              | null => simp [eq_comm]
              | _ =>
                  refine ⟨fun h => ?_, fun h => congrArg Except.ok (Option.some.inj h.2.2.1)⟩
                  cases h
                  exact ⟨rfl, rfl, rfl, nofun⟩

namespace Http

/-- The body of a status below 500 is a response with this data and with an empty list of
errors. -/
structure Message.PassesAs (m : Message) (data : Json) : Prop where
  status_lt : m.status < 500
  parse_eq : Response.parse m.body = .ok ⟨some data, some [], none⟩
  ne_null : data ≠ .null

theorem dataOf_error (e : ClientError) (data : Json) :
    Client.dataOf (.error e) = .ok data ↔ False := ⟨nofun, False.elim⟩

/-- A response with data is handed on in spite of its status only if its list of errors is there,
and it has data only if the list is empty. -/
theorem reportsErrors_intoData_iff (r : Response) (data : Json) :
    reportsErrors r = true ∧ r.intoData = .ok data ↔
      r = ⟨some data, some [], none⟩ ∧ data ≠ .null := by
  rw [r.intoData_eq_ok_iff data]
  obtain ⟨rdata, errors, error⟩ := r
  constructor
  · rintro ⟨hreports, herrors, rfl, rfl, hne⟩
    cases errors with
    | none => cases hreports
    | some list =>
        cases herrors
        exact ⟨rfl, hne⟩
  · rintro ⟨h, hne⟩
    cases h
    exact ⟨rfl, rfl, rfl, rfl, hne⟩

theorem dataOf_interpret_iff (complaint : String → String) {m : Message}
    (hstatus : ¬ (200 ≤ m.status ∧ m.status ≤ 299)) (data : Json) :
    Client.dataOf (interpret complaint m) = .ok data ↔ m.PassesAs data := by
  unfold interpret
  cases hparse : Response.parse m.body with
  | error e =>
      have hnot : ¬ m.PassesAs data := fun h => nomatch hparse.symm.trans h.parse_eq
      simp only [if_neg hstatus, hnot, iff_false]
      split <;> exact nofun
  | ok r =>
      have hpasses : m.PassesAs data ↔
          m.status < 500 ∧ reportsErrors r = true ∧ r.intoData = .ok data := by
        rw [reportsErrors_intoData_iff]
        constructor
        · rintro ⟨hlt, heq, hne⟩
          cases hparse.symm.trans heq
          exact ⟨hlt, rfl, hne⟩
        · rintro ⟨hlt, rfl, hne⟩
          exact ⟨hlt, hparse, hne⟩
      simp only [if_neg hstatus, hpasses]
      split
      · rename_i hserver
        rw [dataOf_error, false_iff]
        exact fun h => absurd h.1 (Nat.not_lt_of_le hserver)
      · rename_i hserver
        split
        · rename_i hreports
          exact ⟨fun h => ⟨Nat.lt_of_not_le hserver, hreports, h⟩, fun h => h.2.2⟩
        · rename_i hreports
          rw [dataOf_error, false_iff]
          exact fun h => hreports h.2.1

/-! ### Whole requests -/

theorem dataOf_reported (n : Nat) (o : Outcome) (data : Json) :
    Client.dataOf (reported n o) = .ok data ↔ Client.dataOf o = .ok data := by
  cases o with
  | ok response => exact Iff.rfl
  | error e => exact (dataOf_error _ _).trans (dataOf_error _ _).symm

/-- The last connection of a request decides about its data. -/
theorem dataOf_execute_iff (complaint : String → String) {c : Config} {url : Url}
    (hurl : Url.parse c.url = .ok url) (connections : Nat → Connection) (jitter : Nat → Nat)
    (data : Json) :
    Client.dataOf (execute complaint c connections jitter).outcome = .ok data ↔
      Client.dataOf ((connections (execute complaint c connections jitter).attempts).outcome
        complaint) = .ok data := by
  have hends := ends_attempt c.retry (fun n => attemptOutcome complaint c (connections n)) jitter
  have houtcome : ∀ connection, attemptOutcome complaint c connection =
      connection.outcome complaint := by
    intro connection
    unfold attemptOutcome
    rw [hurl]
  unfold execute
  rw [hends.outcome_eq, dataOf_reported, houtcome]

end Http

/-! ### Clients -/

section
variable {σ α ρ : Type} {t : Transport σ} {s : σ}

theorem Client.run_eq_error (h : ∀ request, ∃ e, dataOf (t request s).outcome = .error e)
    (a : Action α) : ∃ e, ((run a).run t s).result = .error e := by
  unfold run
  cases hsingle : Document.single a.node with
  | error e => exact ⟨_, rfl⟩
  | ok p =>
      obtain ⟨key, document⟩ := p
      obtain ⟨e, he⟩ := h document.compile.request
      refine ⟨e, (result_execute_bind t s _ _).trans ?_⟩
      rw [he]
      rfl

/-- No handle of a batch is fulfilled if no request gets data. -/
theorem Batch.not_fulfilled (h : ∀ request, ∃ e, Client.dataOf (t request s).outcome = .error e)
    (type : OperationType) (attempts : List (Except ClientError (Action ρ))) (ending : Ending) :
    ∀ d ∈ (session t s type attempts ending).batch.handles, d.state ≠ .fulfilled := by
  intro d hd
  have hb := collecting_filled type attempts
  have hend := session_endsAs t s type attempts ending
  obtain ⟨e, he⟩ := h (filled type attempts).document.compile.request
  cases hc : ending.commits with
  | true =>
      rw [hend.handles_of_error hb hc he d hd]
      exact nofun
  | false =>
      rw [hend.givenUp hb hc d hd]
      exact nofun

end

namespace Http

/-- An answer of a status that is no success gives data exactly if its status is below 500 and its
body has data beside an empty list of errors. After any other such answer to its last attempt a
request fails, and with it a single run and all handles of a batch. -/
theorem failed_status_data_iff (complaint : String → String) (c : Config) (jitter : Nat → Nat)
    (s : Endpoint) {url : Url} {bytes : List UInt8} {m : Message}
    (hurl : Url.parse c.url = .ok url)
    (hlast : s.connections (s.used +
      (execute complaint c (fun n => s.connections (s.used + n)) jitter).attempts) =
        .answered bytes)
    (hm : Message.parse bytes = .ok m) (hstatus : ¬ (200 ≤ m.status ∧ m.status ≤ 299)) :
    (∀ request data, Client.dataOf (transport complaint c jitter request s).outcome = .ok data ↔
      m.PassesAs data) ∧
    ((∀ data, ¬ m.PassesAs data) →
      (∀ (α : Type) (a : Action α), ∃ e,
        ((Client.run a).run (transport complaint c jitter) s).result = .error e) ∧
      ∀ (ρ : Type) (type : OperationType) (attempts : List (Except ClientError (Action ρ)))
        (ending : Ending),
        ∀ d ∈ (Batch.session (transport complaint c jitter) s type attempts ending).batch.handles,
          d.state ≠ .fulfilled) := by
  have hdata : ∀ request data,
      Client.dataOf (transport complaint c jitter request s).outcome = .ok data ↔
        m.PassesAs data := by
    intro request data
    refine (dataOf_execute_iff complaint hurl _ jitter data).trans ?_
    have houtcome : (Connection.answered bytes).outcome complaint = interpret complaint m := by
      simp only [Connection.outcome, hm]
    rw [hlast, houtcome]
    exact dataOf_interpret_iff complaint hstatus data
  refine ⟨hdata, fun hnone => ?_⟩
  have herror : ∀ request, ∃ e,
      Client.dataOf (transport complaint c jitter request s).outcome = .error e := by
    intro request
    cases hresult : Client.dataOf (transport complaint c jitter request s).outcome with
    | error e => exact ⟨e, rfl⟩
    | ok data => exact absurd ((hdata request data).mp hresult) (hnone data)
  exact ⟨fun _ a => Client.run_eq_error herror a,
    fun _ type attempts ending => Batch.not_fulfilled herror type attempts ending⟩

/-- A bad request that reports an error: nothing passes for its data, so every single run fails. -/
theorem failed_status_data_iff_of_bad_request :
    let c := Config.ofUrl "http://localhost/v1/graphql"
    let body := "\x7b\"errors\":[\x7b\"message\":\"no\"\x7d]\x7d"
    let bytes := ("HTTP/1.1 400\r\n\r\n" ++ body).toUTF8.toList
    let m : Message := ⟨400, body⟩
    let s : Endpoint := ⟨fun _ => .answered bytes, 0, []⟩
    Url.parse c.url = .ok ⟨"localhost", 80, "/v1/graphql"⟩ ∧ Message.parse bytes = .ok m ∧
    ¬ (200 ≤ m.status ∧ m.status ≤ 299) ∧ (∀ data, ¬ m.PassesAs data) ∧
    ∀ (α : Type) (a : Action α), ∃ e,
      ((Client.run a).run (transport id c fun _ => 0) s).result = .error e := by
  intro c body bytes m s
  have hurl : Url.parse c.url = .ok ⟨"localhost", 80, "/v1/graphql"⟩ := by decide +kernel
  have hm : Message.parse bytes = .ok m := by decide +kernel
  have hstatus : ¬ (200 ≤ m.status ∧ m.status ≤ 299) := by decide
  have hbody : Response.parse body = .ok ⟨none, some [.ofMessage "no"], none⟩ := by
    unfold Response.parse Json.parseAs
    simp only [body, String.reduceToList]
    rfl
  have hnone : ∀ data, ¬ m.PassesAs data := by
    intro data h
    cases hbody.symm.trans h.parse_eq
  exact ⟨hurl, hm, hstatus, hnone,
    ((failed_status_data_iff id c _ s hurl rfl hm hstatus).2 hnone).1⟩

/-- A bad request with data beside an empty list of errors gives the data. -/
theorem bad_request_gives_data :
    let body := "\x7b\"data\":\x7b\"op0\":[]\x7d,\"errors\":[]\x7d"
    let bytes := ("HTTP/1.1 400 Bad Request\r\n\r\n" ++ body).toUTF8.toList
    Message.parse bytes = .ok ⟨400, body⟩ ∧ ¬ (200 ≤ 400 ∧ 400 ≤ 299) ∧
    ∀ complaint, Client.dataOf ((Connection.answered bytes).outcome complaint) =
      .ok (.object [("op0", .array [])]) := by
  intro body bytes
  have hm : Message.parse bytes = .ok ⟨400, body⟩ := by decide +kernel
  have hstatus : ¬ (200 ≤ 400 ∧ 400 ≤ 299) := by decide
  have hbody : Response.parse body = .ok ⟨some (.object [("op0", .array [])]), some [], none⟩ := by
    unfold Response.parse Json.parseAs
    simp only [body, String.reduceToList]
    rfl
  refine ⟨hm, hstatus, fun complaint => ?_⟩
  simp only [Connection.outcome, hm]
  exact (dataOf_interpret_iff complaint hstatus _).mpr ⟨by decide, hbody, fun h => by cases h⟩

end Http

end TableGraph
