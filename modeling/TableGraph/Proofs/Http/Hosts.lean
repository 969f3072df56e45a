import TableGraph.Http.Transport
import TableGraph.Proofs.Http.Addresses
import TableGraph.Proofs.Http.Attempts

/-! # Addresses without a host

* An address that is refused ends a request at its first attempt (`execute_of_refused`);
* an address with neither host nor port is refused. A port alone passes for both, with an empty host
  (`Url.empty_host_iff`). -/

namespace TableGraph.Http

open Text

/-! ### Refusals -/

theorem UrlError.isRetryable_eq_false (e : UrlError) :
    e.toClientError.code.isRetryable = false := by
  cases e <;> rfl

/-- An address that is refused ends a request at its first attempt, whatever a connection would
bring. -/
theorem execute_of_refused (complaint : String → String) {c : Config} {e : UrlError}
    (h : Url.parse c.url = .error e) (connections : Nat → Connection) (jitter : Nat → Nat) :
    execute complaint c connections jitter = ⟨.error e.toClientError, 1, []⟩ := by
  have houtcome : attemptOutcome complaint c (connections 1) = .error e.toClientError := by
    rw [attemptOutcome, h]
  have hstop : c.retry.decide e.toClientError.code 1 (jitter 1) = .stop :=
    (c.retry.decide_eq_stop_iff _ (Nat.le_refl 1) _).mpr (.inr e.isRetryable_eq_false)
  have hfirst : finalError 1 e.toClientError = e.toClientError :=
    if_neg fun hlater => Nat.lt_irrefl 1 hlater.2
  have hends : Ends c.retry (fun n => attemptOutcome complaint c (connections n)) jitter 1
      ⟨.error (finalError 1 e.toClientError), 1, []⟩ := .stopped houtcome hstop
  rw [hfirst] at hends
  exact hends.unique (ends_attempt _ _ _)

/-! ### Missing hosts -/

/-- No host is written. -/
def LacksHost (text : String) : Prop := ∃ a : Address, trim text.toList = a.text ∧ a.host = []

/-- Where the host belongs there is a port alone. -/
def HoldsBarePort (text : String) : Prop :=
  ∃ (a : Address) (digits : List Char) (n : Nat), trim text.toList = a.text ∧ a.host = [] ∧
    a.port = some digits ∧ number? 10 65535 digits = some n

/-- Every request to the address is refused as one to an invalid address, at its first attempt and
whatever a connection would bring. -/
def RefusedAsInvalid (text : String) : Prop :=
  ∃ e : UrlError, Url.parse text = .error e ∧ e.toClientError.code = .invalidUrl ∧
    ∀ (complaint : String → String) (c : Config) (connections : Nat → Connection)
      (jitter : Nat → Nat), c.url = text →
      execute complaint c connections jitter = ⟨.error e.toClientError, 1, []⟩

theorem refusedAsInvalid_of_error {text : String} {e : UrlError} (h : Url.parse text = .error e)
    (hcode : e.toClientError.code = .invalidUrl) : RefusedAsInvalid text :=
  ⟨e, h, hcode, fun complaint _ connections jitter hurl =>
    execute_of_refused complaint (hurl ▸ h) connections jitter⟩

theorem exists_parse_iff_bare_port (text : String) :
    (∃ url, Url.parse text = .ok url ∧ url.host = "") ↔ HoldsBarePort text := by
  constructor
  · rintro ⟨url, hread, hempty⟩
    obtain ⟨a, htext, hdenotes⟩ := Url.parse_iff.mp hread
    have hhost : a.host = [] := by
      rw [← String.toList_ofList (l := a.host), ← hdenotes.host_eq, hempty]
      rfl
    have hport := hdenotes.port_eq
    cases hp : a.port with
    | none =>
        exact absurd ((Address.authority_of_none hp).trans hhost) hdenotes.authority_ne_nil
    | some digits =>
        rw [hp] at hport
        exact ⟨a, digits, url.port, htext, hhost, hp, hport⟩
  · rintro ⟨a, digits, n, htext, hhost, hp, hnumber⟩
    refine ⟨⟨"", n, if a.path = [] then "/" else String.ofList a.path⟩,
      Url.parse_iff.mpr ⟨a, htext, Address.authority_ne_nil_of_some hp, ?_, ?_, rfl⟩, rfl⟩
    · rw [hhost, String.ofList_nil]
    · rw [hp]
      exact hnumber

/-- Without a host and without a port that is a number an address is refused. -/
theorem refusedAsInvalid_of_lacksHost {text : String} (h : LacksHost text)
    (hbare : ¬ HoldsBarePort text) : RefusedAsInvalid text := by
  obtain ⟨a, htext, hhost⟩ := h
  -- what stands before the path is nothing or begins with a colon, so it is no scheme
  have hletter : ∀ (c : Char) (rest : List Char), c ≠ ':' → a.authority ≠ c :: rest := by
    intro c rest hc heq
    cases hp : a.port with
    | none =>
        rw [Address.authority_of_none hp, hhost] at heq
        cases heq
    | some digits =>
        rw [Address.authority_of_some hp, hhost] at heq
        exact hc (List.cons.inj heq).1.symm
  have hsecure := Address.not_secure (hletter 'h' "ttps:".toList (by decide))
  have hscheme := Address.not_prefix_text (by decide) (hletter 'h' "ttp:".toList (by decide))
  have hread := Url.parse_of_address htext hsecure hscheme
  cases hp : a.port with
  | none =>
      have hnil : a.authority = [] := (Address.authority_of_none hp).trans hhost
      rw [if_pos hnil] at hread
      exact refusedAsInvalid_of_error hread rfl
  | some digits =>
      have hnumber : number? 10 65535 digits = none :=
        Option.eq_none_iff_forall_ne_some.mpr fun n hn => hbare ⟨a, digits, n, htext, hhost, hp, hn⟩
      rw [if_neg (Address.authority_ne_nil_of_some hp), Url.ofAuthority_eq, hp] at hread
      simp only [hnumber] at hread
      exact refusedAsInvalid_of_error hread rfl

/-- What is read is written in the address: a host without a slash, the port and a path that begins
with a slash, which may be left out. The host is empty exactly where a port stands alone. Every
other address without a host is refused, and not tried again as if there were no connection. -/
theorem Url.empty_host_iff (text : String) :
    (∀ url, Url.parse text = .ok url →
      '/' ∉ url.host.toList ∧ (∃ rest, url.path.toList = '/' :: rest) ∧
      ∃ a : Address, trim text.toList = a.text ∧ a.Denotes url) ∧
    ((∃ url, Url.parse text = .ok url ∧ url.host = "") ↔ HoldsBarePort text) ∧
    (LacksHost text → (RefusedAsInvalid text ↔ ¬ HoldsBarePort text)) := by
  refine ⟨?_, exists_parse_iff_bare_port text, fun hlacks => ⟨?_, ?_⟩⟩
  · intro url hread
    obtain ⟨a, htext, hdenotes⟩ := Url.parse_iff.mp hread
    refine ⟨?_, ?_, a, htext, hdenotes⟩
    · rw [hdenotes.host_eq, String.toList_ofList]
      exact a.host_part
    · rw [hdenotes.path_eq]
      obtain hnil | ⟨rest, hrest⟩ := a.path_part
      · exact ⟨[], by rw [if_pos hnil]; rfl⟩
      · refine ⟨rest, ?_⟩
        rw [hrest, if_neg (List.cons_ne_nil _ _), String.toList_ofList]
  · rintro ⟨e, hrefused, -⟩ hbare
    obtain ⟨url, hread, -⟩ := (exists_parse_iff_bare_port text).mpr hbare
    cases hrefused.symm.trans hread
  · exact refusedAsInvalid_of_lacksHost hlacks

theorem Url.empty_host_iff_of_missing_host :
    LacksHost "http:///v1" ∧ ¬ HoldsBarePort "http:///v1" ∧ RefusedAsInvalid "http:///v1" ∧
    Url.parse "db:81" = .ok ⟨"db", 81, "/"⟩ ∧ '/' ∉ "db".toList ∧
    ∃ a : Address, trim "db:81".toList = a.text ∧ a.Denotes ⟨"db", 81, "/"⟩ := by
  have hlacks : LacksHost "http:///v1" :=
    ⟨⟨true, [], none, "/v1".toList, by decide, nofun, by decide, .inr ⟨_, rfl⟩⟩, by decide, rfl⟩
  have hrefused : Url.parse "http:///v1" = .error (.missingHost "http:///v1") := by decide +kernel
  have hread : Url.parse "db:81" = .ok ⟨"db", 81, "/"⟩ := by decide +kernel
  have hbare : ¬ HoldsBarePort "http:///v1" := by
    intro hbare
    obtain ⟨url, hurl, -⟩ := (Url.empty_host_iff "http:///v1").2.1.mpr hbare
    cases hrefused.symm.trans hurl
  obtain ⟨hslash, -, hwritten⟩ := (Url.empty_host_iff "db:81").1 _ hread
  exact ⟨hlacks, hbare, ((Url.empty_host_iff "http:///v1").2.2 hlacks).mpr hbare, hread, hslash,
    hwritten⟩

/-- An address with a port alone is read, and a request to it is tried over and over. -/
theorem Url.bare_port_is_read :
    LacksHost "http://:8080/v1/graphql" ∧
    Url.parse "http://:8080/v1/graphql" = .ok ⟨"", 8080, "/v1/graphql"⟩ ∧
    (execute id (.ofUrl "http://:8080/v1/graphql") (fun _ => .refused "") fun _ => 0).attempts =
      5 :=
  ⟨⟨⟨true, [], some "8080".toList, "/v1/graphql".toList, by decide, by decide, nofun,
    .inr ⟨_, rfl⟩⟩, by decide, rfl⟩, by decide +kernel, by decide +kernel⟩

end TableGraph.Http
