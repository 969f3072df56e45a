import TableGraph.Invocation
import TableGraph.Sample.Records
import TableGraph.Sample.Tables

/-!
# Actions on the sample database

Each sample table with its type of records. Signals and reviewers keep their rows as they come.
-/

namespace TableGraph.Sample

/-- The action of an invocation whose records have type `α`; functions over the columns of articles
may have their own types. -/
def actionAs (α : Type) [Decode α] [Encode α] (typed : Bool) (t : Table) (i : Invocation) :
    Except ClientError (Action JsonResult) :=
  if typed then i.action α Base Numeric t else i.action α OpenRecord OpenRecord t

/-- The action of an invocation on the table of a model. -/
def action (model : String) (typed : Bool) (t : Table) (i : Invocation) :
    Except ClientError (Action JsonResult) :=
  match model with
  | "Author" => actionAs Author typed t i
  | "AuthorDetail" => actionAs AuthorDetail typed t i
  | "Article" => actionAs Article typed t i
  | "Comment" => actionAs Comment typed t i
  | "Membership" => actionAs Membership typed t i
  | "Log" => actionAs Log typed t i
  | _ => actionAs OpenRecord typed t i

end TableGraph.Sample
