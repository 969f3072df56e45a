import TableGraph.ClientError
import TableGraph.Text.Blank

/-!
# Addresses

The address of an endpoint, `http://host:port/path`.

* Blanks around the address are dropped, the scheme may be left out, and `https` is refused;
* host and port end at the first slash and are not empty together; without a slash the path is `/`;
* the port follows the last colon of the host and is 80 without one.
-/

namespace TableGraph.Http

/-- Host, port and path of an endpoint. -/
structure Url where
  host : String
  port : Nat
  path : String
  deriving DecidableEq, Repr, Inhabited

/-- Why an address is refused. -/
inductive UrlError where
  | httpsNotSupported
  | missingHost (url : String)
  | invalidPort (port : String)
  deriving DecidableEq, Repr

/-- A refused address as a failure of the client. -/
def UrlError.toClientError : UrlError → ClientError
  | .httpsNotSupported =>
    .of .httpsNotSupported ("HTTPS is not supported by the bundled transport. " ++
      "Use a TLS-terminating proxy or a custom Transport.")
  | .missingHost url => .of .invalidUrl ("Missing host in URL: " ++ url)
  | .invalidPort port => .of .invalidUrl ("Invalid port: " ++ port)

/-- The rest of `s` behind `front`, if it starts so. -/
def dropFront? (front s : List Char) : Option (List Char) :=
  if front.isPrefixOf s then some (s.drop front.length) else none

/-- The text before and after the last `c`. -/
def splitLast (c : Char) (s : List Char) : Option (List Char × List Char) :=
  (Text.splitOnce c s.reverse).map fun p => (p.2.reverse, p.1.reverse)

/-- The value of a digit in a base of at most 16. -/
def digitIn? (base : Nat) (c : Char) : Option Nat :=
  let n := c.toNat
  let value? :=
    if 48 ≤ n ∧ n ≤ 57 then some (n - 48)
    else if 97 ≤ n ∧ n ≤ 102 then some (n - 87)
    else if 65 ≤ n ∧ n ≤ 70 then some (n - 55)
    else none
  value?.filter (· < base)

/-- The number of digits in a base, most significant first. -/
def ofDigits? (base : Nat) : List Char → Option Nat :=
  List.foldl (fun n c => do pure ((← n) * base + (← digitIn? base c))) (some 0)

/-- An unsigned number of at most `bound`: digits behind an optional plus. -/
def number? (base bound : Nat) (s : List Char) : Option Nat :=
  let digits := match s with
    | '+' :: rest => rest
    | s => s
  if digits.isEmpty then none else (ofDigits? base digits).filter (· ≤ bound)

namespace Url

/-- Reads host and port. -/
def ofAuthority (authority : List Char) (path : String) : Except UrlError Url :=
  match splitLast ':' authority with
  | none => .ok ⟨String.ofList authority, 80, path⟩
  | some (host, port) =>
    match number? 10 65535 port with
    | some n => .ok ⟨String.ofList host, n, path⟩
    | none => .error (.invalidPort (String.ofList port))

/-- Reads an address. -/
def parse (text : String) : Except UrlError Url :=
  let url := Text.trim text.toList
  if (dropFront? "https://".toList url).isSome then .error .httpsNotSupported
  else
    let rest := (dropFront? "http://".toList url).getD url
    let authority := rest.takeWhile (· ≠ '/')
    let path := rest.dropWhile (· ≠ '/')
    if authority.isEmpty then .error (.missingHost (String.ofList url))
    else ofAuthority authority (if path.isEmpty then "/" else String.ofList path)

end Url

end TableGraph.Http
