import TableGraph.Action
import TableGraph.Exchange
import TableGraph.Text.Excerpt

/-!
# Clients

A client sends a compiled document and returns its data, and runs an action as a document of one
root. Texts in the log are cut to 1000 characters.
-/

namespace TableGraph.Client

/-- Longest text in the log. -/
def logLimit : Nat := 1000

/-- A text as it appears in the log. -/
def logged (text : String) : String := Text.excerpt logLimit text

/-- The data of an outcome. -/
def dataOf (outcome : Outcome) : Except ClientError Json :=
  match outcome with
  | .ok response => response.intoData
  | .error e => .error e

/-- The event that reports a result. -/
def reportOf : Except ClientError Json → Event
  | .ok data => .querySuccessful (logged data.text)
  | .error e => .queryFailed e.code (logged e.message)

/-- Sends a compiled document and returns its data. -/
def execute (c : Compiled) : Exchange (Except ClientError Json) := do
  .log (.sendingDocument (logged c.query) c.variables.length)
  let outcome ← .request c.request
  .log (reportOf (dataOf outcome))
  pure (dataOf outcome)

/-- Runs an action as a document of its own. -/
def run {α : Type} (a : Action α) : Exchange (Except ClientError α) :=
  match Document.single a.node with
  | .error e => .done (.error (.ofBuildError e))
  | .ok (key, document) => do
    match ← execute document.compile with
    | .error e => pure (.error e)
    | .ok data => pure (a.read (Answer.takeRoot data key).1)

/-- Runs an action as soon as it is built; if it cannot be built, nothing is sent. -/
def call {α : Type} : Except ClientError (Action α) → Exchange (Except ClientError α)
  | .error e => .done (.error e)
  | .ok a => run a

/-- A client as it is shown; it keeps its transport to itself. -/
def shown : String := "Client \x7b .. \x7d"

end TableGraph.Client
