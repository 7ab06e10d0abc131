import DocumentServer.Settings.Basic

/-!
Requests for a document: the properties to render it with, the format of the answer and the page.
All problems of a request are reported together: those of its fields in order, then what it should
not hold.
-/
namespace DocumentServer
open Validation

inductive AnswerFormat where
  | pdf
  | base64
  /-- A link under which the document can be fetched once. -/
  | link
  deriving DecidableEq, Repr

def AnswerFormat.name : AnswerFormat → String
  | .pdf => "pdf"
  | .base64 => "base64"
  | .link => "json"

structure DocumentRequest where
  props : List (Value × Value)
  format : AnswerFormat := .pdf
  size : Option Page.Size := none
  orientation : Option Page.Orientation := none

namespace DocumentRequest

def formatNames : List String := ["pdf", "base64", "json"]

def readFormat (v : Value) : Except Problem AnswerFormat := do
  let name ← readChoice formatNames v
  return if name == "base64" then .base64 else if name == "json" then .link else .pdf

def readObject (v : Value) : Except Problem (List (Value × Value)) :=
  match v with
  | .dict entries => .ok entries
  | _ => .error .notObject

/-- The value of a field, if it is there. -/
def fieldOf? (name : String) (entries : List (Value × Value)) : Option Value :=
  (entries.find? fun (key, _) => key.text? == some name).map (·.2)

/-- Reads a field that is there. -/
def readGiven (name : String) (read : Value → Except Problem α) (default : α) (v : Value) :
    Settings.Reading α :=
  match read v with
  | .ok a => ([], a)
  | .error problem => ([{ place := [name], problem, input := v }], default)

def readField (entries : List (Value × Value)) (name : String) (read : Value → Except Problem α)
    (default : α) : Settings.Reading α :=
  match fieldOf? name entries with
  | some v => readGiven name read default v
  | none => ([], default)

/-- Reads a field that must be there. -/
def readRequired (entries : List (Value × Value)) (name : String)
    (read : Value → Except Problem α) (default : α) : Settings.Reading α :=
  match fieldOf? name entries with
  | some v => readGiven name read default v
  | none => ([{ place := [name], problem := .missing, input := .dict entries }], default)

def fieldNames : List String := ["props", "format", "size", "orientation"]

/-- What a request should not hold. -/
def extras (entries : List (Value × Value)) : List Issue :=
  entries.filterMap fun (key, v) =>
    match key.text? with
    | some name =>
      if fieldNames.contains name then none
      else some { place := [name], problem := .extra, input := v }
    | none => none

def ofEntries (entries : List (Value × Value)) : Except (List Issue) DocumentRequest :=
  let (e₁, props) := readRequired entries "props" readObject []
  let (e₂, format) := readField entries "format" readFormat .pdf
  let (e₃, size) := readField entries "size" (Settings.readOptional Settings.readSize) none
  let (e₄, orientation) :=
    readField entries "orientation" (Settings.readOptional Settings.readOrientation) none
  match e₁ ++ e₂ ++ e₃ ++ e₄ ++ extras entries with
  | [] => .ok { props, format, size, orientation }
  | issues => .error issues

/-- Reads a request; what is no object at all has the given problem. -/
def read (otherwise : Problem) (v : Value) : Except (List Issue) DocumentRequest :=
  match v with
  | .dict entries => ofEntries entries
  | v => .error [{ place := [], problem := otherwise, input := v }]

/-- The page to print on: what the request leaves out is taken from the defaults. -/
def pageConfig (request : DocumentRequest) (defaults : Page.Config) : Except Fault Page.Config :=
  Page.Config.resolve defaults (request.size.map (·.text)) (request.orientation.map (·.name))

end DocumentRequest
end DocumentServer
