import TableGraph.Http.Chunked

/-!
# Response messages

A response as bytes: a head of a status line and header lines, an empty line, and a body.

* The head ends at the first empty line with carriage returns or, if there is none, at the first
  one without;
* the status is the second word of the first line;
* the body is in chunks if a header says so, and is read as UTF-8 only when it is complete.
-/

namespace TableGraph.Http

/-- A response with its body as text. -/
structure Message where
  status : Nat
  body : String
  deriving DecidableEq, Repr, Inhabited

/-- Why bytes are no response. -/
inductive MessageError where
  | empty
  | invalidStatusLine (line : String)
  | missingBody
  | invalidChunkSize (size : String)
  | invalidUtf8 (bytes : List UInt8)
  deriving DecidableEq, Repr

/-- Bytes that are no response, as a failure of the client. -/
def MessageError.toClientError : MessageError → ClientError
  | .empty => .invalidResponse "Empty response"
  | .invalidStatusLine line => .invalidResponse ("Invalid status line: " ++ line)
  | .missingBody => .invalidResponse "Could not find response body"
  | .invalidChunkSize size => .invalidResponse ("Invalid chunk size: " ++ size)
  | .invalidUtf8 bytes =>
    .wrapping .invalidResponse "Response body is not valid UTF-8" (Text.Utf8.stop bytes).text

/-- The bytes before and after the first occurrence of `mark`. -/
def splitAtMark (mark : List UInt8) : List UInt8 → Option (List UInt8 × List UInt8)
  | [] => none
  | b :: rest =>
    if mark.isPrefixOf (b :: rest) then some ([], (b :: rest).drop mark.length)
    else (splitAtMark mark rest).map fun p => (b :: p.1, p.2)

/-- Head and body. -/
def splitHead (bytes : List UInt8) : List UInt8 × Option (List UInt8) :=
  match splitAtMark [13, 10, 13, 10] bytes with
  | some (head, body) => (head, some body)
  | none => match splitAtMark [10, 10] bytes with
    | some (head, body) => (head, some body)
    | none => (bytes, none)

/-- Drops one carriage return at the end. -/
def dropReturn (line : List Char) : List Char :=
  match line.reverse with
  | '\r' :: rest => rest.reverse
  | _ => line

/-- The lines of a text, without their ends. A line end at the very end begins no line. -/
def lines (s : List Char) : List (List Char) :=
  match (Text.pieces '\n' s).reverse with
  | [] => []
  | [] :: more => (more.map dropReturn).reverse
  | last :: more => last :: more.map dropReturn |>.reverse

/-- The status of a status line. -/
def statusOf (line : List Char) : Option Nat :=
  match Text.words line with
  | _ :: code :: _ => number? 10 65535 code
  | _ => none

/-- The header line names the chunked coding. -/
def saysChunked (line : List Char) : Bool :=
  match Text.splitOnce ':' line with
  | none => false
  | some (name, value) =>
    Text.equalIgnoringCase (Text.trim name) "transfer-encoding".toList &&
      (Text.pieces ',' value).any fun coding =>
        Text.equalIgnoringCase (Text.trim coding) "chunked".toList

/-- A header line of the head names the chunked coding. -/
def isChunked (head : List (List Char)) : Bool := (head.drop 1).any saysChunked

/-- The body as it was before it was put into chunks. -/
def plainBody (head : List (List Char)) (body : List UInt8) : Except MessageError (List UInt8) :=
  if isChunked head then
    match chunkedBody body with
    | .ok bytes => .ok bytes
    | .error size => .error (.invalidChunkSize (String.ofList size))
  else .ok body

/-- Reads a response. -/
def Message.parse (bytes : List UInt8) : Except MessageError Message :=
  if bytes.isEmpty then .error .empty
  else
    let (headBytes, body?) := splitHead bytes
    let head := lines (Text.Utf8.decodeLossy headBytes)
    let statusLine := head.head?.getD []
    match statusOf statusLine with
    | none => .error (.invalidStatusLine (String.ofList statusLine))
    | some status =>
      match body? with
      | none => .error .missingBody
      | some body =>
        match plainBody head body with
        | .error e => .error e
        | .ok bytes =>
          match Text.Utf8.decode? bytes with
          | none => .error (.invalidUtf8 bytes)
          | some text => .ok ⟨status, String.ofList text⟩

end TableGraph.Http
