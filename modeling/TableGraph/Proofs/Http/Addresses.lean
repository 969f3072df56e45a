import TableGraph.Http.Url
import TableGraph.Proofs.Http.Numbers

/-! # Addresses as they are written

An address is written as an optional scheme, a host, an optional port behind a colon and a path that
begins with a slash (`Address`).

* Whatever is written so, between any blanks, is read as what it says, if there is anything between
  scheme and path and the port is a number; nothing else is read (`Url.parse_iff`);
* so what is printed is read back, whatever host and path hold besides (`Url.parse_printed`). -/

namespace TableGraph.Http

open Text

/-! ### Parts of a text -/

theorem dropFront?_append (front s : List Char) : dropFront? front (front ++ s) = some s := by
  have hprefix : front.isPrefixOf (front ++ s) = true :=
    List.isPrefixOf_iff_prefix.mpr (List.prefix_append _ _)
  rw [dropFront?, if_pos hprefix, List.drop_left]

theorem dropFront?_eq_none_iff {front s : List Char} :
    dropFront? front s = none ↔ ¬ front <+: s := by
  simp [dropFront?, List.isPrefixOf_iff_prefix]

theorem splitLast_append {c : Char} (front : List Char) {tail : List Char} (h : c ∉ tail) :
    splitLast c (front ++ c :: tail) = some (front, tail) := by
  have hreverse : (front ++ c :: tail).reverse = tail.reverse ++ c :: front.reverse := by simp
  have htail : c ∉ tail.reverse := fun hmem => h (List.mem_reverse.mp hmem)
  rw [splitLast, hreverse, splitOnce_append htail]
  simp

theorem splitLast_eq_none_iff {c : Char} {s : List Char} : splitLast c s = none ↔ c ∉ s := by
  rw [splitLast, Option.map_eq_none_iff, splitOnce_eq_none_iff, List.mem_reverse]

theorem eq_of_splitLast {c : Char} {s front tail : List Char}
    (h : splitLast c s = some (front, tail)) : s = front ++ c :: tail ∧ c ∉ tail := by
  rw [splitLast, Option.map_eq_some_iff] at h
  obtain ⟨⟨back, rest⟩, hsplit, hparts⟩ := h
  cases hparts
  obtain ⟨hreverse, hnot⟩ := splitOnce_eq_some hsplit
  refine ⟨?_, fun hmem => hnot (List.mem_reverse.mp hmem)⟩
  rw [← List.reverse_reverse s, hreverse]
  simp

section

variable {c : Char} {front rest : List Char}

theorem takeWhile_ne_append (hfront : c ∉ front) (hrest : rest = [] ∨ ∃ more, rest = c :: more) :
    (front ++ rest).takeWhile (· ≠ c) = front := by
  have hall : ∀ d ∈ front, decide (d ≠ c) = true := fun d hd =>
    decide_eq_true fun heq => hfront (heq ▸ hd)
  rw [List.takeWhile_append_of_pos hall]
  obtain rfl | ⟨more, rfl⟩ := hrest
  · simp
  · simp

theorem dropWhile_ne_append (hfront : c ∉ front) (hrest : rest = [] ∨ ∃ more, rest = c :: more) :
    (front ++ rest).dropWhile (· ≠ c) = rest := by
  have hall : ∀ d ∈ front, decide (d ≠ c) = true := fun d hd =>
    decide_eq_true fun heq => hfront (heq ▸ hd)
  rw [List.dropWhile_append_of_pos hall]
  obtain rfl | ⟨more, rfl⟩ := hrest
  · simp
  · simp

end

theorem dropWhile_ne_eq (c : Char) (s : List Char) :
    s.dropWhile (· ≠ c) = [] ∨ ∃ more, s.dropWhile (· ≠ c) = c :: more := by
  cases hdrop : s.dropWhile (· ≠ c) with
  | nil => exact .inl rfl
  | cons d more =>
      have hhead := List.head?_dropWhile_not (fun d : Char => decide (d ≠ c)) s
      rw [hdrop] at hhead
      have hd : d = c := by simpa using hhead
      exact .inr ⟨more, by rw [hd]⟩

/-! ### Written addresses -/

/-- The parts of an address as they are written. The host goes on to the first slash, or to the last
colon before it. -/
structure Address where
  hasScheme : Bool
  host : List Char
  port : Option (List Char)
  path : List Char
  host_part : '/' ∉ host
  port_part : ∀ digits ∈ port, '/' ∉ digits ∧ ':' ∉ digits
  colon : port = none → ':' ∉ host
  path_part : path = [] ∨ ∃ rest, path = '/' :: rest

namespace Address

variable (a : Address)

/-- The text of the scheme. -/
def scheme : List Char := if a.hasScheme then "http://".toList else []

/-- Host and port. -/
def authority : List Char := a.host ++ a.port.elim [] (':' :: ·)

/-- The whole text. -/
def text : List Char := a.scheme ++ (a.authority ++ a.path)

/-- The address says where the endpoint is. Without a port it is 80, and without a path this is a
slash. -/
structure Denotes (url : Url) : Prop where
  authority_ne_nil : a.authority ≠ []
  host_eq : url.host = String.ofList a.host
  port_eq : a.port.elim (some 80) (number? 10 65535) = some url.port
  path_eq : url.path = if a.path = [] then "/" else String.ofList a.path

variable {a}

theorem authority_of_none (h : a.port = none) : a.authority = a.host := by
  rw [authority, h]
  exact List.append_nil _

theorem authority_of_some {digits : List Char} (h : a.port = some digits) :
    a.authority = a.host ++ ':' :: digits := by
  rw [authority, h]
  rfl

theorem authority_ne_nil_of_some {digits : List Char} (h : a.port = some digits) :
    a.authority ≠ [] := by
  rw [authority_of_some h]
  exact List.append_ne_nil_of_right_ne_nil _ (List.cons_ne_nil _ _)

theorem text_of_scheme (h : a.hasScheme = true) :
    a.text = "http://".toList ++ (a.authority ++ a.path) := by
  rw [text, scheme, if_pos h]

theorem text_of_no_scheme (h : a.hasScheme = false) : a.text = a.authority ++ a.path := by
  rw [text, scheme, h]
  rfl

theorem slash_not_mem_authority : '/' ∉ a.authority := by
  intro hmem
  cases hport : a.port with
  | none =>
      rw [authority_of_none hport] at hmem
      exact a.host_part hmem
  | some digits =>
      rw [authority_of_some hport, List.mem_append, List.mem_cons] at hmem
      obtain hmem | hslash | hmem := hmem
      · exact a.host_part hmem
      · exact absurd hslash (by decide)
      · exact (a.port_part digits hport).1 hmem

/-- Two slashes in a row end an authority, which is all that stands before them. -/
theorem authority_eq_of_slashes {name : List Char} (hname : '/' ∉ name)
    (h : name ++ ['/', '/'] <+: a.authority ++ a.path) : a.authority = name := by
  obtain ⟨more, hmore⟩ := h
  have htext : name ++ '/' :: '/' :: more = a.authority ++ a.path := by
    rw [← hmore, List.append_assoc]
    rfl
  rw [← takeWhile_ne_append (slash_not_mem_authority (a := a)) a.path_part, ← htext,
    takeWhile_ne_append hname (.inr ⟨_, rfl⟩)]

end Address

/-- A text without slashes is a host, and a port behind its last colon if it has one. -/
theorem exists_authority {s : List Char} (h : '/' ∉ s) :
    ∃ (host : List Char) (port : Option (List Char)), '/' ∉ host ∧
      (∀ digits ∈ port, '/' ∉ digits ∧ ':' ∉ digits) ∧ (port = none → ':' ∉ host) ∧
      s = host ++ port.elim [] (':' :: ·) := by
  cases hsplit : splitLast ':' s with
  | none =>
      exact ⟨s, none, h, nofun, fun _ => splitLast_eq_none_iff.mp hsplit, (List.append_nil s).symm⟩
  | some parts =>
      obtain ⟨host, digits⟩ := parts
      obtain ⟨rfl, hcolon⟩ := eq_of_splitLast hsplit
      rw [List.mem_append, List.mem_cons, not_or, not_or] at h
      refine ⟨host, some digits, h.1, ?_, nofun, rfl⟩
      intro text htext
      cases htext
      exact ⟨h.2.2, hcolon⟩

theorem exists_address (hasScheme : Bool) (rest : List Char) :
    ∃ a : Address, a.hasScheme = hasScheme ∧ a.authority ++ a.path = rest := by
  have hslash : '/' ∉ rest.takeWhile (· ≠ '/') := fun hmem => by
    simpa using List.mem_takeWhile_imp hmem
  obtain ⟨host, port, hhost, hport, hcolon, hauthority⟩ := exists_authority hslash
  refine ⟨⟨hasScheme, host, port, rest.dropWhile (· ≠ '/'), hhost, hport, hcolon,
    dropWhile_ne_eq '/' rest⟩, rfl, ?_⟩
  rw [Address.authority, ← hauthority]
  exact List.takeWhile_append_dropWhile

/-- Every text is that of an address. The scheme is left out only if the text does not begin with
one. -/
theorem exists_text (s : List Char) :
    ∃ a : Address, s = a.text ∧ (a.hasScheme = false → ¬ "http://".toList <+: s) := by
  by_cases hprefix : "http://".toList <+: s
  · obtain ⟨rest, rfl⟩ := hprefix
    obtain ⟨a, hs, rfl⟩ := exists_address true rest
    exact ⟨a, (Address.text_of_scheme hs).symm,
      fun hfalse => absurd (hs.symm.trans hfalse) (by decide)⟩
  · obtain ⟨a, hs, rfl⟩ := exists_address false s
    exact ⟨a, (Address.text_of_no_scheme hs).symm, fun _ => hprefix⟩

/-! ### Reading -/

theorem Url.ofAuthority_eq (a : Address) (path : String) :
    Url.ofAuthority a.authority path =
      match a.port with
      | none => .ok ⟨String.ofList a.host, 80, path⟩
      | some digits =>
        match number? 10 65535 digits with
        | some n => .ok ⟨String.ofList a.host, n, path⟩
        | none => .error (.invalidPort (String.ofList digits)) := by
  cases hport : a.port with
  | none =>
      rw [Url.ofAuthority, Address.authority_of_none hport,
        splitLast_eq_none_iff.mpr (a.colon hport)]
  | some digits =>
      have hsplit := splitLast_append a.host (a.port_part digits hport).2
      cases hnumber : number? 10 65535 digits <;>
        simp only [Url.ofAuthority, Address.authority_of_some hport, hsplit, hnumber]

/-- What is read, unless the host could be taken for a scheme. -/
theorem Url.parse_of_address {text : String} {a : Address} (htext : trim text.toList = a.text)
    (hsecure : ¬ "https://".toList <+: a.text)
    (hscheme : a.hasScheme = false → ¬ "http://".toList <+: a.text) :
    Url.parse text =
      if a.authority = [] then .error (.missingHost (String.ofList a.text))
      else Url.ofAuthority a.authority (if a.path = [] then "/" else String.ofList a.path) := by
  have hrest : (dropFront? "http://".toList a.text).getD a.text = a.authority ++ a.path := by
    cases hs : a.hasScheme with
    | false =>
        rw [dropFront?_eq_none_iff.mpr (hscheme hs), Option.getD_none,
          Address.text_of_no_scheme hs]
    | true => rw [Address.text_of_scheme hs, dropFront?_append, Option.getD_some]
  have hslash := Address.slash_not_mem_authority (a := a)
  rw [Url.parse, htext, dropFront?_eq_none_iff.mpr hsecure]
  simp only [Option.isSome_none, Bool.false_eq_true, if_false, hrest,
    takeWhile_ne_append hslash a.path_part, dropWhile_ne_append hslash a.path_part,
    List.isEmpty_iff]

namespace Address

variable {a : Address}

theorem not_prefix_text {name : List Char} (hname : '/' ∉ name) (hauthority : a.authority ≠ name)
    (hs : a.hasScheme = false) : ¬ name ++ ['/', '/'] <+: a.text := by
  rw [text_of_no_scheme hs]
  exact fun h => hauthority (authority_eq_of_slashes hname h)

/-- Only an authority that is a scheme itself lets an address begin as with another scheme. -/
theorem not_secure (hauthority : a.authority ≠ "https:".toList) :
    ¬ "https://".toList <+: a.text := by
  cases hs : a.hasScheme with
  | false =>
      have hslash : '/' ∉ "https:".toList := by decide
      exact not_prefix_text hslash hauthority hs
  | true =>
      intro h
      rw [text_of_scheme hs] at h
      simp at h

/-- Host and port are read as what they say. -/
theorem denotes_iff {url : Url} :
    a.Denotes url ↔ a.authority ≠ [] ∧
      Url.ofAuthority a.authority (if a.path = [] then "/" else String.ofList a.path) =
        .ok url := by
  obtain ⟨host, port, path⟩ := url
  rw [Url.ofAuthority_eq]
  constructor
  · rintro ⟨hne, rfl, hport, rfl⟩
    refine ⟨hne, ?_⟩
    cases hp : a.port with
    | none =>
        rw [hp] at hport
        cases hport
        rfl
    | some digits =>
        rw [hp] at hport
        have hnumber : number? 10 65535 digits = some port := hport
        simp only [hnumber]
  · rintro ⟨hne, h⟩
    cases hp : a.port with
    | none =>
        rw [hp] at h
        cases h
        exact ⟨hne, rfl, by rw [hp]; rfl, rfl⟩
    | some digits =>
        simp only [hp] at h
        cases hnumber : number? 10 65535 digits with
        | none =>
            rw [hnumber] at h
            cases h
        | some n =>
            rw [hnumber] at h
            cases h
            refine ⟨hne, rfl, ?_, rfl⟩
            rw [hp]
            exact hnumber

theorem Denotes.authority_ne {url : Url} (h : a.Denotes url) (name : List Char) :
    a.authority ≠ name ++ [':'] := by
  intro heq
  have hport := h.port_eq
  cases hp : a.port with
  | none =>
      rw [authority_of_none hp] at heq
      refine a.colon hp ?_
      rw [heq]
      exact List.mem_append_right _ List.mem_cons_self
  | some digits =>
      rw [authority_of_some hp] at heq
      obtain rfl | ⟨front, last, rfl⟩ := List.eq_nil_or_concat digits
      · rw [hp] at hport
        cases hport
      · rw [List.concat_eq_append, ← List.cons_append, ← List.append_assoc] at heq
        have hlast : last = ':' := List.singleton_inj.mp (List.append_inj_right' heq rfl)
        refine (a.port_part _ hp).2 ?_
        rw [hlast, List.concat_eq_append]
        exact List.mem_append_right _ List.mem_cons_self

end Address

/-- An address that is written is read as what it says, and nothing else is read. -/
theorem Url.parse_iff {text : String} {url : Url} :
    Url.parse text = .ok url ↔ ∃ a : Address, trim text.toList = a.text ∧ a.Denotes url := by
  constructor
  · intro h
    have hsecure : ¬ "https://".toList <+: trim text.toList := by
      intro hprefix
      obtain ⟨rest, hrest⟩ := hprefix
      rw [Url.parse, ← hrest, dropFront?_append] at h
      cases h
    obtain ⟨a, htext, hscheme⟩ := exists_text (trim text.toList)
    rw [htext] at hsecure hscheme
    rw [Url.parse_of_address htext hsecure hscheme] at h
    refine ⟨a, htext, Address.denotes_iff.mpr ?_⟩
    split at h
    · cases h
    · rename_i hne
      exact ⟨hne, h⟩
  · rintro ⟨a, htext, hdenotes⟩
    -- without a scheme the text could only begin with one if its authority were `http:` or `https:`
    have hsecure := Address.not_secure (hdenotes.authority_ne "https".toList)
    have hscheme := Address.not_prefix_text (by decide) (hdenotes.authority_ne "http".toList)
    obtain ⟨hne, hread⟩ := Address.denotes_iff.mp hdenotes
    rw [Url.parse_of_address htext hsecure hscheme, if_neg hne, hread]

/-! ### Printed addresses -/

theorem port_digits {port : Nat} {c : Char} (h : c ∈ Nat.toDigits 10 port) :
    c ≠ '/' ∧ c ≠ ':' ∧ isBlank c = false := by
  have hread : ofDigits? 10 (Nat.toDigits 10 port) = some port :=
    ofDigits?_toDigits (by omega) (by omega) port
  have hrange := range_of_mem hread h
  refine ⟨?_, ?_, not_isBlank_of_mem hread h⟩
  · rintro rfl
    simp at hrange
  · rintro rfl
    simp at hrange

namespace Address

variable {a : Address}

theorem trimmed_text (hhost : Trimmed a.host) (hport : ∀ digits ∈ a.port, Trimmed digits)
    (hpath : Trimmed a.path) : Trimmed a.text := by
  have hscheme : Trimmed a.scheme := by
    rw [scheme]
    split <;> decide
  have hauthority : Trimmed a.authority := by
    refine hhost.append ?_
    cases hp : a.port with
    | none => exact trimmed_of_forall fun _ hc => absurd hc List.not_mem_nil
    | some digits =>
        have hcolon : Trimmed [':'] := by decide
        exact hcolon.append (hport digits hp)
  exact hscheme.append (hauthority.append hpath)

/-- The address of a host and a path, with the digits of a port if there is one. -/
def printed (hasScheme : Bool) (host : String) (port : Option Nat) (path : String)
    (hslash : '/' ∉ host.toList) (hcolon : port = none → ':' ∉ host.toList)
    (hpath : path = "" ∨ ∃ rest, path = "/" ++ rest) : Address where
  hasScheme := hasScheme
  host := host.toList
  port := port.map (Nat.toDigits 10)
  path := path.toList
  host_part := hslash
  port_part := by
    intro digits h
    obtain ⟨n, -, rfl⟩ := Option.map_eq_some_iff.mp h
    exact ⟨fun hc => (port_digits hc).1 rfl, fun hc => (port_digits hc).2.1 rfl⟩
  colon := fun h => hcolon (Option.map_eq_none_iff.mp h)
  path_part := by
    obtain rfl | ⟨rest, rfl⟩ := hpath
    · exact .inl rfl
    · exact .inr ⟨rest.toList, String.toList_append⟩

section

variable {hasScheme : Bool} {host path : String} {port : Option Nat} {hslash : '/' ∉ host.toList}
  {hcolon : port = none → ':' ∉ host.toList} {hpath : path = "" ∨ ∃ rest, path = "/" ++ rest}

theorem text_printed :
    (printed hasScheme host port path hslash hcolon hpath).text =
      (if hasScheme then "http://".toList else []) ++
        ((host.toList ++ port.elim [] fun n => ':' :: Nat.toDigits 10 n) ++ path.toList) := by
  cases port <;> rfl

theorem denotes_printed (hne : host ≠ "") (hport : ∀ n ∈ port, n ≤ 65535) :
    (printed hasScheme host port path hslash hcolon hpath).Denotes
      ⟨host, port.getD 80, if path = "" then "/" else path⟩ where
  authority_ne_nil := fun hnil =>
    hne (String.toList_eq_nil_iff.mp (List.append_eq_nil_iff.mp hnil).1)
  host_eq := String.ofList_toList.symm
  port_eq := by
    cases port with
    | none => rfl
    | some n => exact number?_toDigits (by omega) (by omega) (hport n rfl)
  path_eq := by
    show _ = if path.toList = [] then _ else String.ofList path.toList
    simp only [String.toList_eq_nil_iff, String.ofList_toList]

theorem trimmed_printed (hhost : Trimmed host.toList)
    (hlast : ∀ c ∈ path.toList.getLast?, isBlank c = false) :
    Trimmed (printed hasScheme host port path hslash hcolon hpath).text := by
  have hpathTrimmed : Trimmed path.toList := by
    refine ⟨?_, hlast⟩
    obtain rfl | ⟨rest, rfl⟩ := hpath
    · exact nofun
    · intro c hc
      rw [String.toList_append] at hc
      cases hc
      decide
  refine trimmed_text hhost ?_ hpathTrimmed
  intro digits h
  obtain ⟨n, -, rfl⟩ := Option.map_eq_some_iff.mp h
  exact trimmed_of_forall fun c hc => (port_digits hc).2.2

end

end Address

/-- What is printed is read back between any blanks. -/
theorem Url.parse_text_printed {text host path : String} {before after : List Char}
    (hasScheme : Bool) (port : Option Nat) (hslash : '/' ∉ host.toList)
    (hcolon : port = none → ':' ∉ host.toList) (hpath : path = "" ∨ ∃ rest, path = "/" ++ rest)
    (hne : host ≠ "") (hhost : Trimmed host.toList) (hport : ∀ n ∈ port, n ≤ 65535)
    (hlast : ∀ c ∈ path.toList.getLast?, isBlank c = false) (hbefore : ∀ c ∈ before, isBlank c)
    (hafter : ∀ c ∈ after, isBlank c)
    (htext : text.toList = before ++
      ((Address.printed hasScheme host port path hslash hcolon hpath).text ++ after)) :
    Url.parse text = .ok ⟨host, port.getD 80, if path = "" then "/" else path⟩ := by
  refine Url.parse_iff.mpr ⟨.printed hasScheme host port path hslash hcolon hpath, ?_,
    Address.denotes_printed hne hport⟩
  rw [htext]
  exact (Address.trimmed_printed hhost hlast).trim_between hbefore hafter

/-- Host, port and path that are printed, behind the scheme or without it and between any blanks,
are read back, and so are host and path without a port if the host has no colon. Colons and slashes
elsewhere do not matter. -/
theorem Url.parse_printed {host path before after : String} {port : Nat} (hne : host ≠ "")
    (hslash : '/' ∉ host.toList) (hhost : Trimmed host.toList) (hport : port ≤ 65535)
    (hpath : path = "" ∨ ∃ rest, path = "/" ++ rest)
    (hlast : ∀ c ∈ path.toList.getLast?, isBlank c = false)
    (hbefore : ∀ c ∈ before.toList, isBlank c) (hafter : ∀ c ∈ after.toList, isBlank c) :
    ∀ scheme ∈ ["http://", ""],
      Url.parse (before ++ (scheme ++ host ++ ":" ++ toString port ++ path) ++ after) =
        .ok ⟨host, port, if path = "" then "/" else path⟩ ∧
      (':' ∉ host.toList →
        Url.parse (before ++ (scheme ++ host ++ path) ++ after) =
          .ok ⟨host, 80, if path = "" then "/" else path⟩) := by
  have hscheme : ∀ scheme ∈ ["http://", ""], ∃ hasScheme : Bool,
      scheme.toList = if hasScheme then "http://".toList else [] :=
    List.forall_mem_cons.mpr ⟨⟨true, rfl⟩, List.forall_mem_singleton.mpr ⟨false, rfl⟩⟩
  have hcolonText : ":".toList = [':'] := rfl
  intro scheme hmem
  obtain ⟨hasScheme, hs⟩ := hscheme scheme hmem
  constructor
  · refine Url.parse_text_printed hasScheme (some port) hslash nofun hpath hne hhost
      (fun n hn => Option.mem_some.mp hn ▸ hport) hlast hbefore hafter ?_
    simp only [Address.text_printed, String.toList_append, hs, hcolonText,
      Nat.toString_eq_ofList_toDigits, String.toList_ofList, Option.elim_some, List.append_assoc,
      List.singleton_append]
  · intro hcolon
    refine Url.parse_text_printed hasScheme none hslash (fun _ => hcolon) hpath hne hhost nofun
      hlast hbefore hafter ?_
    simp only [Address.text_printed, String.toList_append, hs, Option.elim_none, List.append_nil,
      List.append_assoc]

/-- A host with colons behind a scheme and blanks, and a host alone. -/
theorem Url.parse_printed_of_colons :
    "[::1]" ≠ "" ∧ '/' ∉ "[::1]".toList ∧ Trimmed "[::1]".toList ∧ 8080 ≤ 65535 ∧
    (∃ rest, "/a:b//http://c" = "/" ++ rest) ∧
    (∀ c ∈ "/a:b//http://c".toList.getLast?, isBlank c = false) ∧
    (∀ c ∈ "\n ".toList, isBlank c) ∧ (∀ c ∈ "\t".toList, isBlank c) ∧
    Url.parse
      ("\n " ++ ("http://" ++ "[::1]" ++ ":" ++ toString 8080 ++ "/a:b//http://c") ++ "\t") =
      .ok ⟨"[::1]", 8080, "/a:b//http://c"⟩ ∧
    ':' ∉ "db".toList ∧ Url.parse ("" ++ ("" ++ "db" ++ "") ++ "") = .ok ⟨"db", 80, "/"⟩ := by
  have hslash : '/' ∉ "[::1]".toList := by decide
  have hhost : Trimmed "[::1]".toList := by decide
  have hpath : ∃ rest, "/a:b//http://c" = "/" ++ rest := ⟨"a:b//http://c", by decide⟩
  have hlast : ∀ c ∈ "/a:b//http://c".toList.getLast?, isBlank c = false :=
    (trimmed_iff_all.mp (by decide)).2
  have hbefore : ∀ c ∈ "\n ".toList, isBlank c := List.all_eq_true.mp (by decide)
  have hafter : ∀ c ∈ "\t".toList, isBlank c := List.all_eq_true.mp (by decide)
  have hread := (Url.parse_printed (by decide) hslash hhost (by decide : 8080 ≤ 65535)
    (.inr hpath) hlast hbefore hafter "http://" (by decide)).1
  have hcolon : ':' ∉ "db".toList := by decide
  have hnone : ∀ c ∈ "".toList, isBlank c := nofun
  have halone := (Url.parse_printed (by decide) (by decide) (by decide) (Nat.zero_le _)
    (.inl rfl) nofun hnone hnone "" (by decide)).2 hcolon
  exact ⟨by decide, hslash, hhost, by decide, hpath, hlast, hbefore, hafter, hread, hcolon, halone⟩

end TableGraph.Http
