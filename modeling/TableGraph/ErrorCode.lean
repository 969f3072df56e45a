/-!
# Error codes

The kinds of failure that a client reports, and three classes of them: failures that may be
retried, mistakes of the caller, and failures of the transport or the endpoint.
-/

namespace TableGraph

/-- Kinds of failure. -/
inductive ErrorCode where
  | invalidOperation
  | handlePending
  | batchAborted
  | batchClosed
  | notFound
  | insertFailed
  | mutationFailed
  | graphqlErrors
  | networkError
  | timeout
  | connectionRefused
  | httpError
  | httpsNotSupported
  | invalidUrl
  | invalidResponse
  | serializeError
  | deserializeError
  | retriesExhausted
  deriving DecidableEq, Repr, Inhabited

namespace ErrorCode

/-- All codes. -/
def all : List ErrorCode :=
  [.invalidOperation, .handlePending, .batchAborted, .batchClosed, .notFound, .insertFailed,
    .mutationFailed, .graphqlErrors, .networkError, .timeout, .connectionRefused, .httpError,
    .httpsNotSupported, .invalidUrl, .invalidResponse, .serializeError, .deserializeError,
    .retriesExhausted]

/-- The text of a code. -/
def text : ErrorCode → String
  | .invalidOperation => "INVALID_OPERATION"
  | .handlePending => "HANDLE_PENDING"
  | .batchAborted => "BATCH_ABORTED"
  | .batchClosed => "BATCH_CLOSED"
  | .notFound => "NOT_FOUND"
  | .insertFailed => "INSERT_FAILED"
  | .mutationFailed => "MUTATION_FAILED"
  | .graphqlErrors => "GRAPHQL_ERRORS"
  | .networkError => "NETWORK_ERROR"
  | .timeout => "TIMEOUT"
  | .connectionRefused => "CONNECTION_REFUSED"
  | .httpError => "HTTP_ERROR"
  | .httpsNotSupported => "HTTPS_NOT_SUPPORTED"
  | .invalidUrl => "INVALID_URL"
  | .invalidResponse => "INVALID_RESPONSE"
  | .serializeError => "SERIALIZE_ERROR"
  | .deserializeError => "DESERIALIZE_ERROR"
  | .retriesExhausted => "RETRIES_EXHAUSTED"

/-- The code of a text. -/
def ofText? (s : String) : Option ErrorCode := all.find? (·.text == s)

/-- A request that failed so may be repeated. -/
def isRetryable : ErrorCode → Bool
  | .networkError | .timeout | .connectionRefused | .httpError => true
  | _ => false

/-- The caller made a mistake. -/
def isClientError : ErrorCode → Bool
  | .invalidOperation | .handlePending | .batchAborted | .batchClosed | .invalidUrl
  | .serializeError => true
  | _ => false

/-- The transport or the endpoint failed. -/
def isTransportError : ErrorCode → Bool
  | .networkError | .timeout | .connectionRefused | .httpError | .httpsNotSupported | .invalidUrl
  | .invalidResponse | .retriesExhausted => true
  | _ => false

end ErrorCode

end TableGraph
