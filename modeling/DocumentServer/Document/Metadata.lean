import DocumentServer.Template.Constant
import DocumentServer.Template.Statement

/-!
Metadata of documents: a template may assign an id and sample properties at its outer level. The
values have to be known without running the template; of several the last one counts.
-/
namespace DocumentServer.Document
open Template

structure Metadata where
  id : Option String
  previewProps : List (Value × Value)

def metadataFault (message : String) : Fault := ⟨.metadata, message⟩

def idName : String := "document_id"

def propsName : String := "preview_props"

/-- The values assigned to the names of metadata, in order. -/
def assignments (e : Environment) : List Stmt → Except Fault (List (String × Value))
  | [] => .ok []
  | .assign line (.name name) value :: rest =>
    if name == idName || name == propsName then
      match constant e e.escapes value with
      | .ok v => (assignments e rest).map ((name, v) :: ·)
      | .error (.fault f) => .error f
      | .error .notConstant =>
        .error (metadataFault s!"'{name}' on line {line} must be a constant expression")
    else assignments e rest
  | _ :: rest => assignments e rest

def last? (name : String) (values : List (String × Value)) : Option Value :=
  values.reverse.lookup name

/-- Nothing, or text that is not empty. -/
def readId : Value → Except Fault (Option String)
  | .none => .ok none
  | v => match v.text? with
    | some s => if s.isEmpty then .error invalid else .ok (some s)
    | none => .error invalid
where
  invalid : Fault := metadataFault "'document_id' must be a non-empty string"

/-- Nothing, or a mapping. -/
def readProps : Value → Except Fault (List (Value × Value))
  | .none => .ok []
  | .dict entries => .ok entries
  | _ => .error (metadataFault "'preview_props' must be a mapping")

def readMetadata (e : Environment) (statements : List Stmt) : Except Fault Metadata := do
  let values ← assignments e statements
  let id ← readId ((last? idName values).getD .none)
  let previewProps ← readProps ((last? propsName values).getD .none)
  return { id, previewProps }

end DocumentServer.Document
