import DocumentServer.Document.Metadata
import DocumentServer.Failure
import DocumentServer.Files.Resolve
import DocumentServer.Markup.StaticUrl
import DocumentServer.Markup.Stylesheet
import DocumentServer.Template.Interpreter

/-!
Compiling a file to a document, and rendering a document. A stylesheet that lies beside the file
belongs to the document. Other templates are found below the root of the templates.
-/
namespace DocumentServer

structure Document where
  environment : Template.Environment
  template : Template.Compiled
  /-- The file, with all links followed. -/
  path : Files.Path
  /-- The folder in which other templates are found. -/
  root : Files.Path
  css : Option String
  id : Option String
  previewProps : List (Value × Value)

namespace Document
open Files

/-- The text of a file, with all line ends alike. -/
def readText (tree : Tree) (path : Path) : Except Fault String := do
  match Text.decodeUtf8 (← readOctets tree path) with
  | .ok text => return Text.unifyNewlines text
  | .error e => throw ⟨.undecodable, e.message⟩

def stylesheetPath (path : Path) : Path := withName path (stem (nameOf path) ++ ".css")

def readStylesheet (tree : Tree) (path : Path) : Except Fault (Option String) := do
  let sheet := stylesheetPath path
  if ← isFileAt tree sheet then return some (← readText tree sheet) else return none

/-- The name of the template of a file: its place below the root, or else the file's name. -/
def templateName (root path : Path) : String :=
  match below? root path with
  | some parts => relativeText parts
  | none => nameOf path

/-- What can be read off a file. -/
structure Source where
  text : String
  css : Option String

def readSource (tree : Tree) (rewrites : Bool) (path : Path) : Except Fault Source := do
  let text ← readText tree path
  let css ← readStylesheet tree path
  if rewrites then
    return { text := Markup.rewriteStaticUrls text, css := css.map Markup.rewriteStaticUrls }
  else return { text, css }

/-- Whether a fault in reading or preparing a template is a failure to compile it. -/
def isCompileFault (f : Fault) : Bool :=
  match f.cause with
  | .fileMissing => true
  | .isDirectory => true
  | .notDirectory => true
  | .system => true
  | .undecodable => true
  | .templateSyntax => true
  | .templateAssertion => true
  | _ => false

def compileFailure (path : Path) (f : Fault) : Failure :=
  if isCompileFault f then
    .compilation "Failed to compile document" (.ofFault f) (some (pathText path))
  else .fault f

def executeFailure (path : Path) (f : Fault) : Failure :=
  .compilation "Failed to execute compiled document" (.ofFault f) (some (pathText path))

/-- Compiles the file at a path. -/
def compile (tree : Tree) (root : Path) (rewrites : Bool) (file : Path) :
    Except Failure Document := do
  let environment := Template.Environment.ofDocuments
  let path ← (resolve tree file).mapError .fault
  let name := templateName (← (resolve tree root).mapError .fault) path
  let prepared : Except Fault (Source × List Template.Stmt × Template.Compiled) := do
    let source ← readSource tree rewrites path
    let statements ← Template.read environment.keepsLastNewline source.text
    let template ← Template.Compiled.ofStatements environment (some name) statements
    return (source, statements, template)
  let (source, statements, template) ← prepared.mapError (compileFailure path)
  let metadata ← (readMetadata environment statements).mapError (executeFailure path)
  return { environment, template, path, root, css := source.css, id := metadata.id,
           previewProps := metadata.previewProps }

/-! ## Rendering -/

/-- The parts of a template name; none may lead to a parent folder. -/
def templateParts? (name : String) : Option (List String) :=
  let parts := partsOf name
  if parts.contains ".." then none else some parts

def templateMissing (message : String) : Fault := ⟨.templateMissing, message⟩

def notInRoot (d : Document) (name : String) : Fault :=
  templateMissing
    s!"{Text.quote name} not found in search path: {Text.quote (pathText d.root)}"

/-- Finds a template below the root. -/
def load (d : Document) (tree : Tree) (name : String) : Except Fault Template.Loaded :=
  match templateParts? name with
  | none => .error (templateMissing name)
  | some parts =>
    let path := d.root ++ parts
    match isFileAt tree path with
    | .ok true => do
      let text ← readText tree path
      let template ← Template.Compiled.ofSource d.environment (some name) text
      return { template, isMain := path == d.path }
    | _ => .error (notInRoot d name)

/-- Every key as text, if all are text. -/
def textKeys? (props : List (Value × Value)) : Option (Association String Value) :=
  props.mapM fun (key, value) => key.text?.map (·, value)

/-- The values that a template sees: the properties one by one, and all of them together. -/
def contextOf? (props : List (Value × Value)) : Option (Association String Value) :=
  (textKeys? props).map (Association.put "props" (.dict props))

/-- The page that a document makes of properties. -/
def render (d : Document) (tree : Tree) (props : List (Value × Value)) :
    Except Template.Failure String :=
  match contextOf? props with
  | none => .error { fault := .wrongType "keywords must be strings", line := none }
  | some values =>
    let world : Template.World := { environment := d.environment, load := d.load tree }
    (world.render { template := d.template, isMain := true } values).map fun markup =>
      Markup.injectStylesheet markup d.css

end Document
end DocumentServer
