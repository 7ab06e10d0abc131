import DocumentServer.Json.Basic
import DocumentServer.Text.Affix
import DocumentServer.Validation.Problem

/-!
Echoes: what is wrong with the body of a request, together with what stands there. The echo of a
mapping leaves out the members with names that are reserved.
-/
namespace DocumentServer.Web.Echo
open Validation

def reservedStart : String := "_sa"

/-- The name of a member that is shown. -/
def shownName? (key : Value) : Option String :=
  key.text?.filter fun name => !Text.beginsWith reservedStart name

mutual

/-- What was read from JSON, as JSON again. -/
def ofValue : Value → Json
  | .bool b => .bool b
  | .int n => .int n
  | .double x => .double x
  | .text s => .text s
  | .list items => .array (ofItems items)
  | .dict entries => .object (ofEntries entries)
  | _ => .null

def ofItems : List Value → List Json
  | [] => []
  | item :: rest => ofValue item :: ofItems rest

def ofEntries : List (Value × Value) → List (String × Json)
  | [] => []
  | (key, item) :: rest =>
    match shownName? key with
    | some name => (name, ofValue item) :: ofEntries rest
    | none => ofEntries rest

end

/-- What more there is to say of a problem. -/
def context? : Problem → Option Json
  | .noChoice choices => some (.object [("expected", .text (choicesText choices))])
  | .refused _ => some (.object [("error", .object [])])
  | .unreadableJson reason => some (.object [("error", .text reason)])
  | _ => none

/-- A problem at a place in the body. -/
def ofProblem (place : List Json) (problem : Problem) (input : Json) : Json :=
  let context := (context? problem).elim [] fun c => [("ctx", c)]
  .object ([("type", .text problem.kind), ("loc", .array (.text "body" :: place)),
    ("msg", .text problem.message), ("input", input)] ++ context)

def ofIssue (issue : Issue) : Json :=
  ofProblem (issue.place.map .text) issue.problem (ofValue issue.input)

end DocumentServer.Web.Echo
