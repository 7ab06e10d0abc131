import DocumentServer.Files.Resolve

/-!
Static files: a file is served only if, with all links followed, it lies inside of the folder of
static files.
-/
namespace DocumentServer.Files

/-- Why no file is served. -/
inductive StaticError where
  | forbidden
  | notFound
  | fault (f : Fault)

/-- The place of a static file. -/
def resolveStatic (tree : Tree) (folder : Path) (relative : String) : Except StaticError Path := do
  let root ← (resolve tree folder).mapError .fault
  let candidate ← (resolve tree (joinText root relative)).mapError .fault
  if !isInside root candidate then throw .forbidden
  if !(← (isFileAt tree candidate).mapError .fault) then throw .notFound
  return candidate

end DocumentServer.Files
