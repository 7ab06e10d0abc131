import DocumentServer.Registry.Basic

/-! Rendering an entry of the registry with a caller's properties. -/
namespace DocumentServer

structure Rendering where
  markup : String
  css : Option String

namespace Entry

/-- The properties to render with. A caller's replace the sample ones as a whole. -/
def propertiesFor (entry : Entry) (given : List (Value × Value)) : List (Value × Value) :=
  if given.isEmpty then entry.document.previewProps else given

def render (entry : Entry) (tree : Files.Tree) (given : List (Value × Value)) :
    Except Failure Rendering :=
  match entry.document.render tree (entry.propertiesFor given) with
  | .ok markup => .ok { markup, css := entry.document.css }
  | .error e => .error (.render entry.id e.fault.message e.line)

end Entry

/-- Renders what was found under an id. -/
def renderFound (tree : Files.Tree) (id : String) (given : List (Value × Value)) :
    Option Entry → Except Failure Rendering
  | some entry => entry.render tree given
  | none => .error (.unknownDocument id)

/-- Renders the document of an id. -/
def Registry.render (registry : Registry) (tree : Files.Tree) (id : String)
    (given : List (Value × Value)) : Except Failure Rendering :=
  renderFound tree id given (registry.find id)

end DocumentServer
