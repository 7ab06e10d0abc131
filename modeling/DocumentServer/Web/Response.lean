import DocumentServer.Failure
import DocumentServer.Json.Basic
import DocumentServer.Text.Utf8

/-!
Responses over HTTP, with the headers that a client relies on. Every failure has one response.
-/
namespace DocumentServer.Web

inductive Body where
  | json (content : Json)
  | octets (content : Octets)

structure Response where
  status : Nat
  body : Body
  contentType : Option String := none
  cacheControl : Option String := none
  location : Option String := none
  allow : Option String := none

namespace Response

def pdfType : String := "application/pdf"

def jsonType : String := "application/json"

def textType : String := "text/plain; charset=utf-8"

def ofJson (status : Nat) (content : Json) : Response :=
  { status, body := .json content, contentType := some jsonType }

def ofText (text : String) : Response :=
  { status := 200, body := .octets (Text.encodeUtf8 text), contentType := some textType }

/-- A printed page or a download, which nobody may keep. -/
def ofPayload (content : Octets) (type : String) : Response :=
  { status := 200, body := .octets content, contentType := some type,
    cacheControl := some "no-store" }

/-- A response that gives no more than a reason. -/
def refusal (status : Nat) (reason : String) : Response :=
  ofJson status (.object [("detail", .text reason)])

def unauthorized : Response := refusal 401 "Unauthorized"

def forbidden : Response := refusal 403 "Forbidden"

def notFound : Response := refusal 404 "Not Found"

def wrongMethod (allowed : String) : Response :=
  { refusal 405 "Method Not Allowed" with allow := some allowed }

def internalError : Response := refusal 500 "Internal Server Error"

/-- Sends the client to another address, with the same method and body. -/
def redirect (location : String) : Response :=
  { status := 307, body := .octets [], location := some location }

/-- What is wrong with a request. Numbers that JSON has no text for cannot be sent back. -/
def invalidRequest (problems : List Json) : Response :=
  let content : Json := .object [("detail", .text "Invalid request"), ("errors", .array problems)]
  if content.hasNonFinite then internalError else ofJson 400 content

def ofDetail (detail : Detail) : Response :=
  let error : Json := .object [("name", .text detail.name), ("message", .text detail.message)]
  ofJson 500 (.object [("detail", .text "Document compilation failed"), ("error", error)])

/-- The response that a failure leads to. Of faults only bad input is told to the client. -/
def ofFailure (failure : Failure) : Response :=
  match failure with
  | .fault f =>
    if f.cause == .invalidInput then invalidRequest [.object [("msg", .text f.message)]]
    else internalError
  | .notFound _ => refusal 404 failure.message
  | .unknownDocument _ => refusal 404 failure.message
  | .render .. => refusal 500 failure.message
  | .compilation _ detail _ => ofDetail detail
  | .duplicate id first second => ofDetail (Failure.duplicateDetail id first second)

end Response
end DocumentServer.Web
