import DocumentServer.Json.Basic
import DocumentServer.Page.Config

/-!
Print options: how a browser is told the paper of a page configuration.
-/
namespace DocumentServer.Page

/-- A standard size goes by its name, a custom one by its two lengths. -/
inductive Paper where
  | format (name : String)
  | lengths (width height : String)

structure PrintOptions where
  paper : Paper
  landscape : Bool

def Size.paper : Size → Paper
  | .standard name _ => .format name
  | .custom _ d _ => .lengths d.width d.height

def Config.printOptions (c : Config) : PrintOptions :=
  { paper := c.size.paper, landscape := c.isLandscape }

/-- The options as the browser receives them; backgrounds are always printed. -/
def PrintOptions.toJson (o : PrintOptions) : Json :=
  let paper := match o.paper with
    | .format name => [("format", Json.text name)]
    | .lengths width height => [("width", .text width), ("height", .text height)]
  .object ([("print_background", .bool true)] ++ paper ++ [("landscape", .bool o.landscape)])

end DocumentServer.Page
