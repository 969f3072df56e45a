import TableGraph.ErrorCode
import TableGraph.Json.Basic

/-!
# Events

What a client tells of its work, in a log of levels, messages and fields.
-/

namespace TableGraph

/-- How much an event matters. -/
inductive Level where
  | debug
  | error
  deriving DecidableEq, Repr

/-- The text of a level. -/
def Level.text : Level → String
  | .debug => "DEBUG"
  | .error => "ERROR"

/-- Something that happened in a client. -/
inductive Event where
  | sendingDocument (query : String) (bound : Nat)
  | querySuccessful (data : String)
  | queryFailed (code : ErrorCode) (error : String)
  | retrying (attempt : Nat) (delay : String) (error : String)
  | committingBatch (roots : Nat)
  | batchFailed (roots : Nat) (code : ErrorCode)
  | abortingBatch (roots : Nat)
  deriving DecidableEq, Repr

namespace Event

/-- Only a failed query is an error. -/
def level : Event → Level
  | .queryFailed .. => .error
  | _ => .debug

/-- The message of an event. -/
def message : Event → String
  | .sendingDocument .. => "Sending document"
  | .querySuccessful .. => "Query successful"
  | .queryFailed .. => "Query failed"
  | .retrying .. => "Retrying request"
  | .committingBatch .. => "Committing batch"
  | .batchFailed .. => "Batch failed"
  | .abortingBatch .. => "Aborting batch"

/-- The fields of an event. -/
def fields : Event → OrderedMap Json
  | .sendingDocument query bound => [("query", .string query), ("variables", .ofNat bound)]
  | .querySuccessful data => [("data", .string data)]
  | .queryFailed code error => [("code", .string code.text), ("error", .string error)]
  | .retrying attempt delay error =>
    [("attempt", .ofNat attempt), ("delay", .string delay), ("error", .string error)]
  | .committingBatch roots => [("roots", .ofNat roots)]
  | .batchFailed roots code => [("roots", .ofNat roots), ("code", .string code.text)]
  | .abortingBatch roots => [("roots", .ofNat roots)]

end Event

end TableGraph
