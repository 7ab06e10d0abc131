import DocumentServer.Text.Base64
import DocumentServer.Web.Request
import DocumentServer.Web.RequestBody
import DocumentServer.Web.Server

/-!
Delivery of documents: the body is read, the document rendered and printed, and the print handed out
as it is, in base64, or under a link that can be used once. Whatever fails on the way ends the
delivery, and only the last step touches the store of downloads, before it makes the address of the link.
-/
namespace DocumentServer.Web

/-- A document that has been printed. -/
structure Print where
  id : String
  job : Page.PrintJob
  payload : Octets

namespace Server

def base64Json (print : Print) : Json :=
  .object [("documentId", .text print.id), ("format", .text AnswerFormat.base64.name),
    ("data", .text (Text.Base64.encode print.payload)), ("mime", .text Response.pdfType),
    ("size", .int print.payload.length)]

def linkJson (print : Print) (url : String) (ttl : Calendar.Duration) : Json :=
  .object [("documentId", .text print.id), ("format", .text AnswerFormat.link.name),
    ("url", .text url), ("expiresInMs", .int ttl.millis)]

/-- The answer that tells a link, if an address for it can be made. -/
def linkResponse [Addressing] (s : Server) (o : Occasion) (r : Request) (print : Print) : Response :=
  match Addressing.link r o.token with
  | .ok url => .ofJson 200 (linkJson print url s.downloads.ttl)
  | .error _ => .internalError

/-- Keeps a print for one download. The address of the link is made after that. -/
def issueLink [Addressing] (s : Server) (o : Occasion) (r : Request) (print : Print) : Exchange :=
  match s.downloads.issue o.now o.token print.payload Response.pdfType with
  | .ok downloads =>
    { response := s.linkResponse o r print
      server := { s with downloads }
      printed := [print.job]
      drawsToken := true }
  | .error f =>
    { response := .ofFailure (.fault f), server := s, printed := [print.job], drawsToken := true }

def deliver [Addressing] (s : Server) (o : Occasion) (r : Request) (print : Print) : AnswerFormat → Exchange
  | .pdf =>
    { response := .ofPayload print.payload Response.pdfType, server := s, printed := [print.job] }
  | .base64 => { response := .ofJson 200 (base64Json print), server := s, printed := [print.job] }
  | .link => s.issueLink o r print

/-- Prints what was rendered, and delivers it. -/
def print [Addressing] (s : Server) (o : Occasion) (r : Request) (id : String)
    (format : AnswerFormat) (config : Page.Config) (rendering : Rendering) : Exchange :=
  let job : Page.PrintJob := { base := Addressing.base r, html := rendering.markup, config }
  match o.printer job with
  | .ok payload => s.deliver o r { id, job, payload } format
  | .error failure => { response := .ofFailure failure, server := s, printed := [job] }

/-- Renders the document of an id, prints and delivers it. -/
def produce [Addressing] (s : Server) (o : Occasion) (r : Request) (id : String)
    (wanted : DocumentRequest) : Exchange :=
  match wanted.pageConfig s.settings.page with
  | .error f => .plain s (.ofFailure (.fault f))
  | .ok config =>
    match s.consult (.render id wanted.props) with
    | (.done (.rendered rendering), s) => s.print o r id wanted.format config rendering
    | (outcome, s) => .failed s outcome

/-- The answer to a body that is not accepted. What is wrong with it is logged beside the path. -/
def rejected [Addressing] (r : Request) (rejection : Rejection) : Response :=
  match r.addressPath with
  | .ok _ => rejection.response
  | .error _ => if rejection.isLogged then .internalError else rejection.response

def answerRender [Addressing] (s : Server) (o : Occasion) (r : Request) (id : String) : Exchange :=
  match r.document with
  | .ok wanted => s.produce o r id wanted
  | .error rejection => .plain s (rejected r rejection)

end Server
end DocumentServer.Web
