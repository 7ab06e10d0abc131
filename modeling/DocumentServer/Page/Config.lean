import DocumentServer.Page.Size
import DocumentServer.Value.Printer

/-!
Page configuration: a checked size and an orientation, with defaults for what a request leaves out.
-/
namespace DocumentServer.Page

inductive Orientation where
  | portrait
  | landscape
  deriving DecidableEq

namespace Orientation

def name : Orientation → String
  | .portrait => "portrait"
  | .landscape => "landscape"

def ofName? (s : String) : Option Orientation :=
  if s == "portrait" then some .portrait else if s == "landscape" then some .landscape else none

/-- The message shows the rejected value as text. -/
def invalid (shown : String) : Fault :=
  .invalidInput s!"Invalid orientation '{shown}'. Expected one of portrait, landscape"

def read (s : String) : Except Fault Orientation :=
  match ofName? s with
  | some o => .ok o
  | none => .error (invalid s)

end Orientation

/-- Any value can be offered as a size; only text can be one. -/
def validateSize (value : Value) : Except Fault Size :=
  match value.text? with
  | some s => Size.read s
  | none => .error (.invalidInput "Page size must be a string")

def validateOrientation (value : Value) : Except Fault Orientation :=
  match value.text? with
  | some s => Orientation.read s
  | none => .error (Orientation.invalid value.render)

structure Config where
  size : Size
  orientation : Orientation

namespace Config

def a4Portrait : Config := { size := .a4, orientation := .portrait }

def isLandscape (c : Config) : Bool := c.orientation == .landscape

/-- The size is checked before the orientation. -/
def read (size orientation : String) : Except Fault Config := do
  let size ← Size.read size
  let orientation ← Orientation.read orientation
  return { size, orientation }

/-- What a request gives replaces the defaults. -/
def resolve (defaults : Config) (size orientation : Option String) : Except Fault Config :=
  read (size.getD defaults.size.text) (orientation.getD defaults.orientation.name)

end Config
end DocumentServer.Page
