import TableGraph.Json.Reader
import TableGraph.Json.Record

/-!
# Errors of the server

An error that the server reports in a response: a message, and possibly the place in the response
and more data.
-/

namespace TableGraph

/-- An error in a response. -/
structure ServerError where
  message : String
  path : Option (List Json)
  extensions : Option (OrderedMap Json)
  deriving Repr, Inhabited

namespace ServerError

/-- An error that is only a message. -/
def ofMessage (message : String) : ServerError := ⟨message, none, none⟩

/-- The fields of an error in order. -/
def fieldNames : List String := ["message", "path", "extensions"]

/-- Where a text holds an error. -/
def shape : Json.Shape := .record (fieldNames.map fun name => (name, .any))

/-- An error of its three fields. -/
def ofFields (message : String) (path : Option (List Json)) (extensions : Option OpenRecord) :
    ServerError :=
  ⟨message, path, extensions.map (·.members)⟩

instance : Decode ServerError where
  decode := decodeRecord "GraphQLError"
    (ofFields <$> .required "message" <*> .defaulted "path" <*> .defaulted "extensions")

instance : Encode ServerError where
  encode e := .object (("message", .string e.message) ::
    (presentMember "path" e.path ++ presentMember "extensions" (e.extensions.map OpenRecord.mk)))

end ServerError

end TableGraph
