import DocumentServer.Files.Tree

/-!
Following symbolic links. Resolving a path replaces every link by what it leads to; parts that do
not exist are kept. Two dots lead to the parent of what was reached so far.
-/
namespace DocumentServer.Files

/-- What is still to be done: a part to go to, or the end of the target of a link. -/
inductive Task where
  | part (name : String)
  | reached (link : Path)

/-- The path reached, links on the way with what they lead to, and what is still to be done. -/
structure Walk where
  reached : Path
  links : Association Path (Option Path)
  tasks : List Task

/-- Where a path leads to, or the place of a loop of links with the rest of the path behind it. -/
inductive Resolution where
  | path (path : Path)
  | loop (path : Path)

namespace Walk

/-- The pieces of a path text behind a number of parts. -/
def piecesBehind : Nat → List String → List String
  | 0, pieces => pieces
  | _, [] => []
  | n + 1, piece :: rest => piecesBehind (if isNamed piece then n else n + 1) rest

/-- Whether the last parts of the target of a link make a text that begins with a slash. -/
def startsAnew (tree : Tree) (link : Path) (parts : Nat) : Bool :=
  match tree.node? link with
  | some (.link target) =>
    let pieces := (Text.pieces '/' target.toList).map String.ofList
    match piecesBehind ((partsOf target).length - parts) pieces with
    | first :: _ :: _ => first == ""
    | _ => false
  | _ => false

/-- A place with what is still to be done behind it. The rest of a target is joined to it as text. -/
def joinRest (tree : Tree) (place : Path) (names : List String) : List Task → Path
  | [] => place ++ names
  | .part name :: rest => joinRest tree place (names ++ [name]) rest
  | .reached link :: rest =>
    joinRest tree (if startsAnew tree link names.length then names else place ++ names) [] rest

/-- Goes to a part that may be a link. -/
def goTo (tree : Tree) (w : Walk) (name : String) (rest : List Task) : Walk ⊕ Resolution :=
  let next := w.reached ++ [name]
  match tree.node? next with
  | some (.link target) => match Association.get? next w.links with
    | some (some known) => .inl { w with reached := known, tasks := rest }
    | some none => .inr (.loop (collapse (joinRest tree next [] rest)))
    | none => .inl
      { reached := if isAbsolute target then [] else w.reached
        links := Association.put next none w.links
        tasks := (partsOf target).map .part ++ .reached next :: rest }
  | _ => .inl { w with reached := next, tasks := rest }

def step (tree : Tree) (w : Walk) : Walk ⊕ Resolution :=
  match w.tasks with
  | [] => .inr (.path w.reached)
  | .reached link :: rest =>
    .inl { w with links := Association.put link (some w.reached) w.links, tasks := rest }
  | .part name :: rest =>
    if name == ".." then .inl { w with reached := w.reached.dropLast, tasks := rest }
    else goTo tree w name rest

def run (tree : Tree) : Nat → Walk → Resolution
  | 0, w => .path w.reached
  | fuel + 1, w => match step tree w with
    | .inl next => run tree fuel next
    | .inr found => found

end Walk

/-- Every link is followed at most once, so this many steps suffice. -/
def stepBound (tree : Tree) (path : Path) : Nat :=
  let targets := tree.nodes.map fun entry =>
    match entry.2 with
    | .link target => target.length + 2
    | _ => 0
  path.length + targets.foldr (· + ·) 0 + 1

def follow (tree : Tree) (path : Path) : Resolution :=
  Walk.run tree (stepBound tree path) { reached := [], links := [], tasks := path.map .part }

/-! ## What is at a path -/

/-- Why nothing can be said on what is at a path. -/
inductive LookError where
  | missing
  | notFolder
  | tooManyLinks
  | nameTooLong
  deriving DecidableEq

def maxLinks : Nat := 40

def maxNameOctets : Nat := 255

def maxPathOctets : Nat := 4095

/-- Looks at a path part by part, following links. -/
def look (tree : Tree) : Nat → Nat → Path → List String → Except LookError Node
  | 0, _, _, _ => .error .tooManyLinks
  | _, _, reached, [] => (tree.node? reached).elim (.error .missing) .ok
  | fuel + 1, links, reached, name :: rest =>
    if name == ".." then look tree fuel links reached.dropLast rest
    else if name.utf8ByteSize > maxNameOctets then .error .nameTooLong
    else
      let next := reached ++ [name]
      match tree.node? next with
      | none => .error .missing
      | some (.link target) =>
        if links + 1 > maxLinks then .error .tooManyLinks
        else
          let from_ := if isAbsolute target then [] else reached
          look tree fuel (links + 1) from_ (partsOf target ++ rest)
      | some (.file content) => if rest.isEmpty then .ok (.file content) else .error .notFolder
      | some .folder => look tree fuel links next rest

/-- What is at a path, with all links followed. -/
def lookAt (tree : Tree) (path : Path) : Except LookError Node :=
  if (pathText path).utf8ByteSize > maxPathOctets then .error .nameTooLong
  else look tree ((maxLinks + 1) * stepBound tree path) 0 [] path

/-- The fault of an error at a path of some spelling. -/
def LookError.faultAt (text : String) (e : LookError) : Fault :=
  let shown := Text.quote text
  match e with
  | .missing => ⟨.fileMissing, s!"[Errno 2] No such file or directory: {shown}"⟩
  | .notFolder => ⟨.notDirectory, s!"[Errno 20] Not a directory: {shown}"⟩
  | .tooManyLinks => ⟨.system, s!"[Errno 40] Too many levels of symbolic links: {shown}"⟩
  | .nameTooLong => ⟨.system, s!"[Errno 36] File name too long: {shown}"⟩

def LookError.fault (path : Path) (e : LookError) : Fault := e.faultAt (pathText path)

def hasNul (part : String) : Bool := part.toList.contains '\x00'

/-- Whether a test holds of what is at a path. Only a name that is too long is an error. -/
def testAt (tree : Tree) (path : Path) (test : Node → Bool) : Except Fault Bool :=
  match lookAt tree path with
  | .ok node => .ok (test node)
  | .error .nameTooLong => .error (LookError.fault path .nameTooLong)
  | .error _ => .ok false

def Node.isFile : Node → Bool
  | .file _ => true
  | _ => false

def Node.isFolder : Node → Bool
  | .folder => true
  | _ => false

def isFileAt (tree : Tree) (path : Path) : Except Fault Bool := testAt tree path Node.isFile

/-- No folder is at a path with a NUL. -/
def isFolderAt (tree : Tree) (path : Path) : Except Fault Bool :=
  if path.any hasNul then .ok false else testAt tree path Node.isFolder

/-- The octets of the file at a path. -/
def readOctets (tree : Tree) (path : Path) : Except Fault Octets :=
  match lookAt tree path with
  | .ok (.file content) => .ok content
  | .ok _ => .error ⟨.isDirectory, s!"[Errno 21] Is a directory: {Text.quote (pathText path)}"⟩
  | .error e => .error (e.fault path)

/-! ## Resolving -/

def nulFault : Fault := .wrongValue "embedded null byte"

def loopFault (path : Path) : Fault :=
  ⟨.runtime, s!"Symlink loop from {Text.quote (pathText path)}"⟩

/-- Whether looking at a path fails because of a loop of links. -/
def isLoop (tree : Tree) (path : Path) : Bool :=
  match lookAt tree path with
  | .error .tooManyLinks => true
  | _ => false

/-- The path that a path leads to, where it leads anywhere. -/
def leadsTo (tree : Tree) (path : Path) : Path :=
  match follow tree path with
  | .path p => p
  | .loop p => p

/-- Whether a part with a NUL comes to be looked at. Behind a loop of links only those do that are left
in the path. -/
def meetsNul (tree : Tree) (path : Path) : Bool :=
  path.any hasNul && match follow tree (path.takeWhile fun part => !hasNul part) with
    | .path _ => true
    | .loop _ => (leadsTo tree path).any hasNul

/-- The path that a path leads to. A loop of links is an error where the path runs into it. -/
def resolve (tree : Tree) (path : Path) : Except Fault Path :=
  if meetsNul tree path then .error nulFault
  else if isLoop tree (leadsTo tree path) then .error (loopFault (leadsTo tree path))
  else .ok (leadsTo tree path)

end DocumentServer.Files
