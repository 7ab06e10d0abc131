import DocumentServer.Fault

/-!
Failures: what goes wrong while documents are compiled, found or rendered. A failure to compile
keeps the fault behind it as a detail.
-/
namespace DocumentServer

/-- The fault behind a failure: the name of its kind and its message. -/
structure Detail where
  name : String
  message : String
  deriving DecidableEq, Repr

def Detail.ofFault (f : Fault) : Detail := { name := f.cause.label, message := f.message }

inductive Failure where
  | fault (f : Fault)
  | compilation (message : String) (detail : Detail) (path : Option String)
  /-- Two files declare one id. -/
  | duplicate (id first second : String)
  | render (id message : String) (line : Option Nat)
  | notFound (message : String)
  /-- No document has the id. -/
  | unknownDocument (id : String)
  deriving DecidableEq, Repr

namespace Failure

def duplicateMessage (id first second : String) : String :=
  s!"Document id '{id}' is declared by both '{first}' and '{second}'"

def compilationMessage (message : String) (detail : Detail) (path : Option String) : String :=
  match path with
  | some path => s!"{message} ({path}): {detail.message}"
  | none => s!"{message}: {detail.message}"

def renderMessage (id message : String) (line : Option Nat) : String :=
  match line with
  | some line => s!"Failed to render document '{id}' (line {line}): {message}"
  | none => s!"Failed to render document '{id}': {message}"

def duplicateDetail (id first second : String) : Detail :=
  { name := "DuplicateDocumentError", message := duplicateMessage id first second }

/-- The detail of a failure to compile. -/
def detail? : Failure → Option Detail
  | .compilation _ detail _ => some detail
  | .duplicate id first second => some (duplicateDetail id first second)
  | _ => none

def message : Failure → String
  | .fault f => f.message
  | .compilation message detail path => compilationMessage message detail path
  | .duplicate id first second => s!"Duplicate document id: {duplicateMessage id first second}"
  | .render id message line => renderMessage id message line
  | .notFound message => message
  | .unknownDocument id => s!"Unknown document id: {id}"

/-- The kinds that a failure is of, the narrowest first. -/
def kinds : Failure → List String
  | .fault f =>
    if f.cause == .invalidInput then [f.cause.label, "HtmldocsError", "ValueError"]
    else [f.cause.label]
  | .compilation .. => ["CompilationError", "HtmldocsError"]
  | .duplicate .. => ["DuplicateDocumentError", "CompilationError", "HtmldocsError"]
  | .render .. => ["RenderError", "HtmldocsError"]
  | .notFound _ => ["NotFoundError", "HtmldocsError"]
  | .unknownDocument _ => ["DocumentNotFoundError", "NotFoundError", "HtmldocsError"]

/-- Whether a failure is one to compile a document. -/
def isCompilation : Failure → Bool
  | .compilation .. => true
  | .duplicate .. => true
  | _ => false

end Failure
end DocumentServer
