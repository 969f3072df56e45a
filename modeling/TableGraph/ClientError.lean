import TableGraph.BuildError
import TableGraph.ErrorCode
import TableGraph.ServerError

/-!
# Errors of a client

A failure with its code and wording, the errors of the server behind it, data for debugging, and
the failure that caused it.
-/

namespace TableGraph

/-- A failure of a client. -/
structure ClientError where
  code : ErrorCode
  message : String
  /-- What the server reported, for `ErrorCode.graphqlErrors`. -/
  serverErrors : List ServerError
  extensions : Option (OrderedMap Json)
  source : Option ClientError
  deriving Repr, Inhabited

namespace ClientError

/-- A failure with nothing but a code and a message. -/
def of (code : ErrorCode) (message : String) : ClientError := ⟨code, message, [], none, none⟩

/-- The operation is wrong. -/
def invalidOperation (message : String) : ClientError := of .invalidOperation message

/-- The network failed. -/
def network (message : String) : ClientError := of .networkError message

/-- No answer came in time. -/
def timeout : ClientError := of .timeout "Request timed out"

/-- Something is not there. -/
def notFound (resource : String) : ClientError := of .notFound (resource ++ " not found")

/-- A value cannot be written. -/
def serialize (message : String) : ClientError := of .serializeError message

/-- A value cannot be read. -/
def deserialize (message : String) : ClientError := of .deserializeError message

/-- The response is not what it should be. -/
def invalidResponse (message : String) : ClientError := of .invalidResponse message

/-- The errors of one response; their messages are joined. -/
def ofServerErrors (errors : List ServerError) : ClientError :=
  { of .graphqlErrors (String.intercalate "; " (errors.map (·.message))) with
    serverErrors := errors }

/-- An operation that cannot be built is wrong. -/
def ofBuildError (e : BuildError) : ClientError := invalidOperation e.message

/-- A value that does not decode. -/
def ofDecodeError (e : DecodeError) : ClientError := deserialize e.message

/-- The failure with a cause. -/
def withSource (e cause : ClientError) : ClientError := { e with source := some cause }

/-- The failure with more data. -/
def withExtension (e : ClientError) (key : String) (value : Json) : ClientError :=
  { e with extensions := some (OrderedMap.insert key value (e.extensions.getD [])) }

/-- A failure with the text of what lies behind it among its data. -/
def wrapping (code : ErrorCode) (message cause : String) : ClientError :=
  (of code message).withExtension "original_error" (.string cause)

/-- The messages of the server. -/
def serverMessages (e : ClientError) : List String := e.serverErrors.map (·.message)

/-- The code in brackets and the message. -/
def text (e : ClientError) : String := "[" ++ e.code.text ++ "] " ++ e.message

/-- The members of a failure; lists and data only if there are any, and never the cause. -/
instance : Encode ClientError where
  encode e := .object ([("code", .string e.code.text), ("message", .string e.message)] ++
    (if e.serverErrors.isEmpty then [] else [("errors", encode e.serverErrors)]) ++
    presentMember "extensions" (e.extensions.map OpenRecord.mk))

end ClientError

/-- The result of building, as a result of a client. -/
def liftBuild {α : Type} : Except BuildError α → Except ClientError α
  | .ok x => .ok x
  | .error e => .error (.ofBuildError e)

/-- The result of decoding, as a result of a client. -/
def liftDecode {α : Type} : Except DecodeError α → Except ClientError α
  | .ok x => .ok x
  | .error e => .error (.ofDecodeError e)

end TableGraph
