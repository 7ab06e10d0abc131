import DocumentServer.Text.Affix
import DocumentServer.Web.Request

/-!
Routes: what the paths of the server lead to. No path leads to two things, so a path can be looked
up without the method.
-/
namespace DocumentServer.Web

inductive Endpoint where
  | info
  | health
  | staticFile (relative : String)
  | documents
  | refresh
  | render (id : String)
  | download (token : String)
  deriving DecidableEq, Repr

namespace Endpoint

def method : Endpoint → String
  | .refresh => "POST"
  | .render _ => "POST"
  | _ => "GET"

/-- A line feed at the very end does not count where a path is compared as a whole. -/
def dropLineFeed (path : List Char) : List Char :=
  match path.reverse with
  | '\n' :: rest => rest.reverse
  | _ => path

def fixed : List (String × Endpoint) :=
  [("/", .info), ("/health", .health), ("/api/documents", .documents),
   ("/api/registry/refresh", .refresh)]

/-- One part of a path, which is not empty. -/
def isSegment (chars : List Char) : Bool := !chars.isEmpty && !chars.contains '/'

def render? (path : List Char) : Option Endpoint :=
  (Text.dropStart? "/api/documents/" path).bind fun id =>
    if isSegment id then some (.render (.ofList id)) else none

def download? (path : List Char) : Option Endpoint :=
  (Text.dropStart? "/api/downloads/" path).bind fun token =>
    if isSegment token then some (.download (.ofList token)) else none

/-- Static files lie at any depth. -/
def staticFile? (path : List Char) : Option Endpoint :=
  (Text.dropStart? "/static/" path).bind fun relative =>
    let relative := dropLineFeed relative
    if relative.contains '\n' then none else some (.staticFile (.ofList relative))

def ofPath? (path : String) : Option Endpoint :=
  let chars := path.toList
  fixed.lookup (.ofList (dropLineFeed chars)) <|> staticFile? chars <|> render? chars
    <|> download? chars

/-- A path with the slashes at its end taken away, or with one added if there is none. -/
def toggleSlash (path : String) : String :=
  match path.toList.reverse with
  | '/' :: rest => .ofList (rest.dropWhile (· == '/')).reverse
  | _ => path ++ "/"

/-- Another path that leads somewhere, but for its slashes at the end. -/
def alternative? (path : String) : Option String :=
  let other := toggleSlash path
  if path != "/" && (ofPath? other).isSome then some other else none

end Endpoint

/-- What becomes of a request before anything is done. -/
inductive Route where
  | endpoint (e : Endpoint)
  | wrongMethod (allowed : String)
  /-- Another path leads somewhere. -/
  | redirect (path : String)
  | nowhere

/-- The route of a request. Paths matter before methods. -/
def Request.route (r : Request) : Route :=
  match Endpoint.ofPath? r.path with
  | some e => if r.method == e.method then .endpoint e else .wrongMethod e.method
  | none => match Endpoint.alternative? r.path with
    | some path => .redirect path
    | none => .nowhere

end DocumentServer.Web
