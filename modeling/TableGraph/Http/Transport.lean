import TableGraph.Config
import TableGraph.Http.Message
import TableGraph.Http.Retry
import TableGraph.Text.Excerpt

/-!
# The HTTP transport

A request is posted as JSON over a connection of its own, and the answer is read to its end.

* Connections are numbered like the attempts, and what happens on each is given;
* a status of 2xx with a response as body is a success; from 500 on the endpoint has failed; any
  other status with a response that reports errors hands these on;
* bodies in messages are cut to 200 characters;
* of a body that is no response the reader of JSON complains in its own words, which are given too.
-/

namespace TableGraph.Http

/-- What happens on a connection. -/
inductive Connection where
  /-- There is no connection. -/
  | refused (cause : String)
  | connectTimedOut
  | writeFailed (cause : String)
  | writeTimedOut
  | readFailed (cause : String)
  | readTimedOut
  /-- Everything that was read. -/
  | answered (bytes : List UInt8)
  deriving DecidableEq, Repr

/-- The request reaches the endpoint. -/
def Connection.delivers : Connection → Bool
  | .readFailed _ | .readTimedOut | .answered _ => true
  | _ => false

/-- The end of a line. -/
def lineEnd : String := "\x0d\x0a"

/-- The text of a request. -/
def requestText (c : Config) (url : Url) (body : String) : String :=
  "POST " ++ url.path ++ " HTTP/1.1" ++ lineEnd ++
  "Host: " ++ url.host ++ lineEnd ++
  "Content-Type: application/json" ++ lineEnd ++
  "Accept: application/json" ++ lineEnd ++
  "Content-Length: " ++ toString body.utf8ByteSize ++ lineEnd ++
  "Connection: close" ++ lineEnd ++
  String.join (c.headers.map fun h => h.1 ++ ": " ++ h.2 ++ lineEnd) ++ lineEnd ++ body

/-- Longest body in a message. -/
def bodyLimit : Nat := 200

/-- The response says that something failed. -/
def reportsErrors (r : Response) : Bool := r.errors.isSome || r.error.isSome

/-- The failure of a status. -/
def statusError (code : ErrorCode) (m : Message) : ClientError :=
  .of code ("HTTP " ++ toString m.status ++ ": " ++ Text.excerpt bodyLimit m.body)

/-- What a message means. `complaint` is what is said of a text that is no response. -/
def interpret (complaint : String → String) (m : Message) : Outcome :=
  match Response.parse m.body with
  | .ok response =>
    if 200 ≤ m.status ∧ m.status ≤ 299 then .ok response
    else if 500 ≤ m.status then .error (statusError .httpError m)
    else if reportsErrors response then .ok response
    else .error (statusError .invalidResponse m)
  | .error _ =>
    if 200 ≤ m.status ∧ m.status ≤ 299 then
      .error (.invalidResponse ("Failed to parse response: " ++ complaint m.body ++ ". Body: " ++
        Text.excerpt bodyLimit m.body))
    else if 500 ≤ m.status then .error (statusError .httpError m)
    else .error (statusError .invalidResponse m)

/-- What comes of a connection. -/
def Connection.outcome (complaint : String → String) : Connection → Outcome
  | .refused cause => .error (.of .connectionRefused ("Connection failed: " ++ cause))
  | .writeFailed cause => .error (.network ("Write failed: " ++ cause))
  | .readFailed cause => .error (.network ("Read failed: " ++ cause))
  | .connectTimedOut | .writeTimedOut | .readTimedOut => .error .timeout
  | .answered bytes =>
    match Message.parse bytes with
    | .ok m => interpret complaint m
    | .error e => .error e.toClientError

/-- One attempt; an address that is refused leads to no connection. -/
def attemptOutcome (complaint : String → String) (c : Config) (connection : Connection) : Outcome :=
  match Url.parse c.url with
  | .ok _ => connection.outcome complaint
  | .error e => .error e.toClientError

/-- A request with all its attempts. `connections` and `jitter` are numbered from 1. -/
def execute (complaint : String → String) (c : Config) (connections : Nat → Connection)
    (jitter : Nat → Nat) : Attempted :=
  attempt c.retry (fun n => attemptOutcome complaint c (connections n)) jitter

/-- The texts of the requests that reach the endpoint in some attempts. -/
def delivered (c : Config) (connections : Nat → Connection) (r : Request) (attempts : Nat) :
    List String :=
  match Url.parse c.url with
  | .error _ => []
  | .ok url =>
    let text := requestText c url (encode r).text
    ((List.range attempts).filter fun n => (connections (n + 1)).delivers).map fun _ => text

/-- The endpoint as seen from a client: what happens on the connections to come, and what has
reached the endpoint. -/
structure Endpoint where
  /-- Connections by number, from 1 on. -/
  connections : Nat → Connection
  /-- Number of connections so far. -/
  used : Nat
  /-- Requests that arrived, in order. -/
  arrived : List String

/-- The transport of a configuration. -/
def transport (complaint : String → String) (c : Config) (jitter : Nat → Nat) :
    Transport Endpoint := fun request endpoint =>
  let connections (n : Nat) := endpoint.connections (endpoint.used + n)
  let attempted := execute complaint c connections jitter
  let texts := delivered c connections request attempted.attempts
  ⟨attempted.outcome, attempted.events,
    { endpoint with
      used := endpoint.used + attempted.attempts
      arrived := endpoint.arrived ++ texts }⟩

end TableGraph.Http
