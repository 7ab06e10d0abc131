import DocumentServer.Json.Reader
import DocumentServer.Text.Letter
import DocumentServer.Web.DocumentRequest
import DocumentServer.Web.Echo
import DocumentServer.Web.Request
import DocumentServer.Web.Response

/-!
Reading the body of a request for a document. A body is JSON if the type of its content says so;
otherwise it is a text, and no text is a request.
-/
namespace DocumentServer.Web
open Validation

/-- Why a body is not accepted. -/
inductive Rejection where
  | issues (found : List Issue)
  /-- The body is no JSON from a position on. -/
  | malformed (reason : String) (position : Nat)
  /-- The body cannot be read at all. -/
  | unreadable
  /-- The body cannot even be shown to the client. -/
  | unshowable

namespace Rejection

def response : Rejection → Response
  | .issues found => .invalidRequest (found.map Echo.ofIssue)
  | .malformed reason position =>
    .invalidRequest [Echo.ofProblem [.int position] (.unreadableJson reason) (.object [])]
  | .unreadable => .refusal 400 "There was an error parsing the body"
  | .unshowable => .internalError

/-- Whether a rejection is one of the content of a body. -/
def isLogged : Rejection → Bool
  | .issues _ | .malformed .. => true
  | _ => false

end Rejection

/-! ## The type of the content -/

/-- A media type without its parameters. -/
def plainType (header : String) : List Char :=
  Text.lowerChars (Text.trimBlank (header.toList.takeWhile (· != ';')))

/-- Whether a type is JSON, or of a family that is written in JSON. -/
def isJsonType (header : String) : Bool :=
  match Text.dropStart? "application/" (plainType header) with
  | some subtype =>
    !subtype.contains '/' && (subtype == "json".toList || "+json".toList.isSuffixOf subtype)
  | none => false

/-! ## Reading -/

/-- The value of a body in JSON. -/
def readJson (body : Octets) : Except Rejection Value :=
  match Text.decodeUtf8 body with
  | .error _ => .error .unreadable
  | .ok text => match Json.readMarked text.toList with
    | .ok j => .ok j.toValue
    | .error (.malformed reason position) => .error (.malformed reason position)
    | .error _ => .error .unreadable

def readPlain (body : Octets) : Except Rejection Value :=
  match Text.decodeUtf8 body with
  | .ok text => .ok (.text text)
  | .error _ => .error .unshowable

def readContent (r : Request) : Except Rejection Value :=
  if (r.header? "content-type").any isJsonType then readJson r.body else readPlain r.body

def missingBody : Issue := { place := [], problem := .missing, input := .none }

/-- The document that a request asks for. -/
def Request.document (r : Request) : Except Rejection DocumentRequest := do
  if r.body.isEmpty then throw (.issues [missingBody])
  let content ← readContent r
  (DocumentRequest.read .notFields content).mapError .issues

end DocumentServer.Web
