import DocumentServer.Text.Affix
import DocumentServer.Web.Request

/-!
The guard: where a key is set, a request has to show it, unless it is for something public. What a request
is for is told by its address, which may be one that cannot be read.
-/
namespace DocumentServer.Web

def publicStarts : List String := ["/static/", "/api/downloads"]

def publicPages : List String := ["/", "/health"]

/-- Whether a path needs no key with a method. -/
def isPublicPath (method path : String) : Bool :=
  publicStarts.any (Text.beginsWith · path) || (method == "GET" && publicPages.contains path)

namespace Request

/-- Whether a request needs no key. -/
def isPublic [Addressing] (r : Request) : Except Fault Bool :=
  r.addressPath.map (isPublicPath r.method)

/-- What a request shows as its key. -/
def shownKey (r : Request) : String := (r.header? "authorization").getD ""

/-- Whether a request may go on. An empty key is no key. -/
def admission [Addressing] (r : Request) (key : Option String) : Except Fault Bool :=
  match key with
  | some key =>
    if key.isEmpty then .ok true else r.isPublic.map fun isPublic => isPublic || r.shownKey == key
  | none => .ok true

/-- Whether a request gets past the guard. -/
def isAllowed [Addressing] (r : Request) (key : Option String) : Bool :=
  match r.admission key with
  | .ok allowed => allowed
  | .error _ => false

end Request
end DocumentServer.Web
