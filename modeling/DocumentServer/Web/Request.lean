import DocumentServer.Text.Utf8
import DocumentServer.Web.Address
import DocumentServer.Web.Percent

/-!
Requests over HTTP: the method, the target, the headers and the body. How the address of a request is put
together from the host that it names and the path is left to a framework, which is a parameter;
`Addressing.standard` is the one that the server runs on. A path that is decided on is read back from such an
address.
-/
namespace DocumentServer.Web

structure Request where
  method : String
  scheme : String
  /-- The path with its escapes replaced. -/
  path : String
  /-- What follows the question mark of the target, as it stands there. -/
  query : String
  headers : List (String × String)
  body : Octets
  /-- The host where the request has arrived. -/
  receiver : String

/-- The path and the query of a target. -/
def splitTarget (target : String) : String × String :=
  let chars := target.toList
  (.ofList (chars.takeWhile (· != '?')), .ofList ((chars.dropWhile (· != '?')).drop 1))

namespace Request

/-- The first header of a name; names do not depend on case. -/
def header? (r : Request) (name : String) : Option String :=
  (r.headers.find? fun (key, _) => key.toList.map Char.toLower == name.toList).map (·.2)

end Request

/-! ## Addresses -/

/-- A framework that gives requests their addresses. -/
class Addressing where
  /-- The whole address of a request. -/
  url : Request → String
  /-- The address below which all paths lie. -/
  base : Request → String
  /-- The address of a download under a token. -/
  link : Request → String → Except Fault String

namespace Request

/-- What follows the path in the address of a request. -/
def querySuffix (r : Request) : String := if r.query.isEmpty then "" else "?" ++ r.query

/-- The path of a request as it is read back from its address. -/
def addressPath [Addressing] (r : Request) : Except Fault String := Address.path? (Addressing.url r)

end Request

/-! ## Hosts -/

def isHostSign (c : Char) : Bool := c.isAlphanum || ['-', '.', '_'].contains c

/-- A name, or an address in brackets, and what follows it. -/
def splitHost (s : List Char) : Option (List Char × List Char) :=
  match s with
  | '[' :: rest =>
    let address := rest.takeWhile (· != ']')
    match rest.drop address.length with
    | _ :: after => if Address.isVersion6 address then some (address, after) else none
    | [] => none
  | s =>
    let name := s.takeWhile isHostSign
    if name.isEmpty then none else some (name, s.drop name.length)

/-- Whether a text is a host, with or without a port. -/
def isHost (text : String) : Bool :=
  Address.isPlace text.toList && match splitHost text.toList with
    | some (_, []) => true
    | some (_, ':' :: port) => !port.isEmpty && port.all Char.isDigit
    | _ => false

/-! ## Addresses on the host -/

namespace Request

/-- The host where a request has arrived. -/
def ownHost (r : Request) : String :=
  if Address.isPlace r.receiver.toList then r.receiver else "localhost"

/-- The host that a request asks for. One that is malformed does not count. -/
def host (r : Request) : String :=
  match r.header? "host" with
  | some host => if isHost host then host else r.ownHost
  | none => r.ownHost

def protocol (r : Request) : String :=
  if Address.isScheme r.scheme.toList then r.scheme else "http"

def origin (r : Request) : String := s!"{r.protocol}://{r.host}"

def baseUrl (r : Request) : String := r.origin ++ "/"

/-- The address of a download. The host is read back from the base. -/
def downloadUrl (r : Request) (token : String) : Except Fault String :=
  (Address.path? r.baseUrl).map fun _ => s!"{r.origin}/api/downloads/{token}"

end Request

instance Addressing.standard : Addressing where
  url r := r.origin ++ r.path ++ r.querySuffix
  base := Request.baseUrl
  link := Request.downloadUrl

end DocumentServer.Web
