import DocumentServer.Files.Static
import DocumentServer.Web.Delivery
import DocumentServer.Web.Guard
import DocumentServer.Web.MediaType
import DocumentServer.Web.Route

/-!
Answers: the guard decides whether a request may go on, the route where it goes, and the endpoint
what is done.
-/
namespace DocumentServer.Web

/-- The listing of documents, in the order of their ids. -/
def documentList (entries : List Entry) : Json :=
  .object [("documents", .array ((Entry.sortById entries).map fun entry =>
    .object [("id", .text entry.id), ("slug", .text entry.slug)]))]

namespace Server

def infoJson (s : Server) : Json :=
  .object [("name", .text "htmldocs-server"), ("status", .text "ok"),
    ("templatesRoot", .text (Files.pathText s.bearings.templates))]

def fileResponse (tree : Files.Tree) (path : Files.Path) : Response :=
  match Files.readOctets tree path with
  | .ok content =>
    { status := 200, body := .octets content
      contentType := some (MediaType.served (MediaType.ofName (Files.nameOf path))) }
  | .error _ => .internalError

def answerStatic (s : Server) (relative : String) : Response :=
  match Files.resolveStatic s.tree s.bearings.static relative with
  | .ok path => fileResponse s.tree path
  | .error .forbidden => .forbidden
  | .error .notFound => .notFound
  | .error (.fault _) => .internalError

/-- Lists the documents, after a rebuild if one is asked for. -/
def answerList (s : Server) (request : DocumentServer.Request) : Exchange :=
  match s.consult request with
  | (.done (.entries entries), s) => .plain s (.ofJson 200 (documentList entries))
  | (.done (.refreshed index), s) => .plain s (.ofJson 200 (documentList index.entries))
  | (outcome, s) => .failed s outcome

/-- Fetches a download. All that has expired is thrown away before. -/
def answerDownload (s : Server) (o : Occasion) (token : String) : Exchange :=
  let (_, live) := s.downloads.dropExpired o.now
  let (found, downloads) := live.consume o.now token
  let s := { s with downloads }
  match found with
  | some d => .plain s (.ofPayload d.payload d.mimeType)
  | none => .plain s (.refusal 404 "Download expired")

def serve [Addressing] (s : Server) (o : Occasion) (r : Request) : Endpoint → Exchange
  | .info => .plain s (.ofJson 200 s.infoJson)
  | .health => .plain s (.ofText "ok")
  | .staticFile relative => .plain s (s.answerStatic relative)
  | .documents => s.answerList .entries
  | .refresh => s.answerList .refresh
  | .render id => s.answerRender o r id
  | .download token => s.answerDownload o token

/-- The address of another path, with the same query. -/
def locationOf [Addressing] (r : Request) (path : String) : String :=
  Percent.encodeAddress (Addressing.url { r with path })

/-- Answers a request that may go on. -/
def dispatch [Addressing] (s : Server) (o : Occasion) (r : Request) : Exchange :=
  match r.route with
  | .endpoint e => s.serve o r e
  | .wrongMethod allowed => .plain s (.wrongMethod allowed)
  | .redirect path => .plain s (.redirect (locationOf r path))
  | .nowhere => .plain s .notFound

/-- Answers a request. If the guard cannot read its address, nothing is done. -/
def answer [Addressing] (s : Server) (o : Occasion) (r : Request) : Exchange :=
  match r.admission s.settings.apiKey with
  | .ok true => s.dispatch o r
  | .ok false => .plain s .unauthorized
  | .error _ => .plain s .internalError

end Server
end DocumentServer.Web
