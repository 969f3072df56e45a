import TableGraph.ClientError
import TableGraph.Json.Printer

/-!
# Responses

What an endpoint answers: data, a list of errors, or a single error.

* Any reported error fails the whole response, and data beside it is dropped;
* an empty list of errors reports nothing;
* data that is absent or null is no data.
-/

namespace TableGraph

/-- The answer of an endpoint. -/
structure Response where
  data : Option Json
  errors : Option (List ServerError)
  /-- A failure of the whole request, under a key of its own. -/
  error : Option Json
  deriving Repr, Inhabited

namespace Response

/-- A response with data. -/
def ofData (data : Json) : Response := ⟨some data, none, none⟩

/-- A response with errors. -/
def ofErrors (errors : List ServerError) : Response := ⟨none, some errors, none⟩

/-- Where a text holds a response. -/
def shape : Json.Shape :=
  .record [("data", .any), ("errors", .list ServerError.shape), ("error", .any)]

instance : Decode Response where
  decode := decodeRecord "Response"
    (Response.mk <$> .defaulted "data" <*> .defaulted "errors" <*> .defaulted "error")

instance : Encode Response where
  encode r := .object ([("data", encode r.data), ("errors", encode r.errors)] ++
    presentMember "error" r.error)

/-- Why a text is no response. -/
inductive ReadError where
  | malformed (e : Json.SyntaxError)
  | undecodable (e : DecodeError)

/-- Reads the text of a response. -/
def parse (text : String) : Except ReadError Response :=
  match Json.parseAs shape text with
  | .error e => .error (.malformed e)
  | .ok value => match decode value with
    | .error e => .error (.undecodable e)
    | .ok response => .ok response

/-- The message of a failure of the whole request: a text, the text under `message`, or else the
whole value. -/
def errorMessage : Json → String
  | .string message => message
  | value => ((value.member? "message").bind Json.string?).getD value.text

/-- The data of a response without errors. -/
def intoData (r : Response) : Except ClientError Json :=
  match r.errors.getD [] with
  | e :: rest => .error (.ofServerErrors (e :: rest))
  | [] => match r.error with
    | some error => .error (.ofServerErrors [.ofMessage (errorMessage error)])
    | none => match r.data.getD .null with
      | .null => .error (.invalidResponse "No data in response")
      | data => .ok data

/-- A response fails if it reports an error, also beside data, or if it has no data. -/
theorem intoData_eq_error_iff (r : Response) :
    (∃ e, r.intoData = .error e) ↔
      r.errors.getD [] ≠ [] ∨ r.error ≠ none ∨ r.data.getD .null = .null := by
  unfold intoData
  split
  · rename_i e rest herrors
    rw [herrors]
    simp
  · rename_i herrors
    rw [herrors]
    split
    · rename_i error herror
      rw [herror]
      simp
    · rename_i herror
      rw [herror]
      split
      · rename_i hdata
        simp [hdata]
      · rename_i hdata
        simp only [reduceCtorEq, exists_false, ne_eq, not_true_eq_false, false_or, false_iff]
        exact hdata

end Response

end TableGraph
