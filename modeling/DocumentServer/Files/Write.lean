import DocumentServer.Files.Resolve

/-!
Making folders and writing files. Links on the way are followed, and so is a link at the end that a
file is written to.
-/
namespace DocumentServer.Files

/-- Why nothing can be put at a path. -/
inductive WriteError where
  | look (e : LookError)
  | taken
  | isFolder

def WriteError.fault (place : Place) (e : WriteError) : Fault :=
  let shown := Text.quote place.text
  match e with
  | .look e => e.faultAt place.text
  | .taken => ⟨.fileExists, s!"[Errno 17] File exists: {shown}"⟩
  | .isFolder => ⟨.isDirectory, s!"[Errno 21] Is a directory: {shown}"⟩

/-- The spot for a new node, inside of a folder that is there. -/
def spotFor (tree : Tree) (path : Path) : Except WriteError Path :=
  if (nameOf path).utf8ByteSize > maxNameOctets then .error (.look .nameTooLong)
  else match lookAt tree path.dropLast with
    | .ok .folder => .ok (leadsTo tree path.dropLast ++ [nameOf path])
    | .ok _ => .error (.look .notFolder)
    | .error e => .error (.look e)

/-! ## Folders -/

/-- Makes one folder. Nothing may be in its spot. -/
def makeFolder (tree : Tree) (path : Path) : Except WriteError Tree := do
  if path.isEmpty || nameOf path == ".." then throw .taken
  let spot ← spotFor tree path
  if (tree.node? spot).isSome then throw .taken
  return tree.put spot .folder

/-- A folder that is there already does no harm. -/
def keepFolder (tree : Tree) (place : Place) (made : Except WriteError Tree) : Except Fault Tree :=
  match made with
  | .ok tree => .ok tree
  | .error e =>
    match lookAt tree place.path with
    | .ok .folder => .ok tree
    | _ => .error (e.fault place)

/-- Makes a folder with as many of the folders above it as there are parts. -/
def makeFoldersUp (tree : Tree) (place : Place) : Nat → Except Fault Tree
  | 0 => keepFolder tree place (makeFolder tree place.path)
  | parts + 1 =>
    match makeFolder tree place.path with
    | .error (.look .missing) => do
      let tree ← makeFoldersUp tree place.parent parts
      keepFolder tree place (makeFolder tree place.path)
    | made => keepFolder tree place made

/-- Makes a folder with all folders above it, unless it is there. -/
def makeFolders (tree : Tree) (place : Place) : Except Fault Tree :=
  if place.path.any hasNul then .error nulFault
  else makeFoldersUp tree place place.parts.length

/-! ## Files -/

/-- The spot where writing to a path puts its content. -/
def fileSpot (tree : Tree) : Nat → Path → Except WriteError Path
  | 0, _ => .error (.look .tooManyLinks)
  | links + 1, path =>
    match lookAt tree path with
    | .ok .folder => .error .isFolder
    | .ok _ => .ok (leadsTo tree path)
    | .error .missing => do
      let spot ← spotFor tree path
      match tree.node? spot with
      | some (.link target) => fileSpot tree links (joinText spot.dropLast target)
      | _ => return spot
    | .error e => .error (.look e)

/-- Writes a file, in place of one that is there. -/
def writeFile (tree : Tree) (place : Place) (content : Octets) : Except Fault Tree :=
  if place.path.any hasNul then .error nulFault
  else match fileSpot tree maxLinks place.path with
    | .ok spot => .ok (tree.put spot (.file content))
    | .error e => .error (e.fault place)

end DocumentServer.Files
