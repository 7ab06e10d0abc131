import DocumentServer.Files.Write
import DocumentServer.Json.OfValue
import DocumentServer.Registry.Schedule

/-!
Writing a catalog: a page in markdown for every document, in the order of the ids. A failure ends the
writing; the pages before it stay.
-/
namespace DocumentServer.Catalog

/-- Sample properties as JSON on several lines. -/
def propertiesText (props : List (Value × Value)) : Except Fault String :=
  (Json.ofValue (.dict props)).map (Json.write .indented)

def pageLines (id slug properties markup : String) : List String :=
  [s!"# {id}", "", s!"Source: `{slug}`", "", "## Preview props", "", "```json", properties, "```",
    "", "## Preview markup", "", "```html", Text.trim markup, "```", ""]

/-- The page of a document with what its sample properties make of it. -/
def pageText (id slug : String) (props : List (Value × Value)) (markup : String) :
    Except Fault String := do
  let properties ← propertiesText props
  return String.intercalate "\n" (pageLines id slug properties markup)

/-! ## Files -/

/-- The files after pages have been written, and where those are or why there are no more. -/
abbrev Progress := Files.Tree × Except Failure (List String)

def pagePlace (output : Files.Place) (id : String) : Files.Place := output.under (id ++ ".md")

/-- Writes the page of one document, with what its sample properties make of it. -/
def writePage (registry : Registry) (output : Files.Place) (tree : Files.Tree) (entry : Entry) :
    Except Failure (String × Files.Tree) := do
  let rendering ← registry.render tree entry.id []
  let page ← (pageText entry.id entry.slug entry.document.previewProps rendering.markup).mapError
    Failure.fault
  let place := pagePlace output entry.id
  let tree ← (Files.writeFile tree place (Text.encodeUtf8 page)).mapError Failure.fault
  return (place.text, tree)

def writePages (registry : Registry) (output : Files.Place) :
    List Entry → Files.Tree → Progress
  | [], tree => (tree, .ok [])
  | entry :: rest, tree =>
    match writePage registry output tree entry with
    | .error e => (tree, .error e)
    | .ok (written, tree) =>
      let (tree, others) := writePages registry output rest tree
      (tree, others.map (written :: ·))

/-- Writes the catalog of a folder of templates. The folder for it is made first. -/
def write (tree : Files.Tree) (templates : Files.Path) (output : Files.Place) : Progress :=
  match Files.makeFolders tree output with
  | .error f => (tree, .error (.fault f))
  | .ok tree =>
    let (outcome, session) :=
      (Session.start templates tree).ask (.ofDocuments templates false) .entries
    match outcome with
    | .done (.entries entries) => writePages session.registry output (Entry.sortById entries) tree
    | .failed e => (tree, .error e)
    | _ => (tree, .ok [])

end DocumentServer.Catalog
