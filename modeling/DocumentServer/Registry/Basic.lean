import DocumentServer.Association
import DocumentServer.Document.Compiler

/-!
The registry of documents: a live index with one view by id and one by path, and what is known of
the rebuilds that replace it. Rebuilds carry generations; an index is replaced only by one of a
later generation.
-/
namespace DocumentServer

/-- A document under its id. -/
structure Entry where
  id : String
  /-- The path of the file below the root. -/
  slug : String
  path : Files.Path
  document : Document

namespace Entry
open Files

/-- The id of a document that declares none: the file name up to its first dot. -/
def idOf (file : Path) (document : Document) : String :=
  match document.id with
  | some id => if id.isEmpty then stem (nameOf file) else id
  | none => stem (nameOf file)

def slugOf (root path : Path) : String :=
  match below? root path with
  | some parts => relativeText parts
  | none => nameOf path

/-- The entry of a compiled file. Links are followed as they are now. -/
def ofDocument (tree : Tree) (root file : Path) (document : Document) : Except Fault Entry := do
  let path ← resolve tree file
  let folder ← resolve tree root
  return { id := idOf file document, slug := slugOf folder path, path, document }

/-- Entries in the order of their ids. -/
def sortById (entries : List Entry) : List Entry :=
  entries.mergeSort fun a b => Value.compareText a.id b.id != .gt

end Entry

/-- Two views of the entries that one rebuild collected. -/
structure Index where
  byId : Association String Entry := []
  byPath : Association Files.Path Entry := []
  generation : Nat := 0

namespace Index

/-- Adds an entry to both views, unless its id is taken. -/
def add (index : Index) (entry : Entry) : Except Failure Index :=
  match index.byId.get? entry.id with
  | some earlier => .error (.duplicate entry.id earlier.slug entry.slug)
  | none =>
    .ok { index with
      byId := index.byId.put entry.id entry
      byPath := index.byPath.put entry.path entry }

def ids (index : Index) : List String := index.byId.keys

def entries (index : Index) : List Entry := index.byId.values

/-- Both views hold the same entries, each where its id and its path say. -/
def isConsistent (index : Index) : Bool :=
  index.byId.length == index.byPath.length
    && index.byId.all (fun (id, entry) =>
      entry.id == id && (index.byPath.get? entry.path).any (·.id == id))
    && index.byPath.all fun (path, entry) =>
      entry.path == path && (index.byId.get? entry.id).any (·.path == path)

end Index

inductive Phase where
  | empty
  | refreshing
  | populated
  deriving DecidableEq, Repr

def Phase.name : Phase → String
  | .empty => "empty"
  | .refreshing => "refreshing"
  | .populated => "populated"

structure Registry where
  index : Index := {}
  phase : Phase := .empty
  /-- The latest rebuild, until it has ended. -/
  inFlight : Option Nat := none
  /-- The generation given out last. -/
  generation : Nat := 0

namespace Registry

/-- Starts a rebuild, of the next generation. -/
def start (registry : Registry) : Registry :=
  { registry with
    generation := registry.generation + 1
    inFlight := some (registry.generation + 1)
    phase := if registry.phase == .populated then .populated else .refreshing }

/-- Puts a complete index in place, unless a later one is live. -/
def install (registry : Registry) (index : Index) : Registry :=
  if registry.index.generation < index.generation then { registry with index, phase := .populated }
  else registry

/-- Notes that a rebuild has ended. Only the latest rebuild has a say in the phase. -/
def conclude (registry : Registry) (generation : Nat) (succeeded : Bool) : Registry :=
  if registry.inFlight == some generation then
    { registry with
      inFlight := none
      phase :=
        if succeeded || 0 < registry.index.generation then .populated else .empty }
  else registry

/-- The entry at a path, after all links on the way. -/
def findPath (registry : Registry) (tree : Files.Tree) (path : Files.Path) :
    Except Fault (Option Entry) := do
  return registry.index.byPath.get? (← Files.resolve tree path)

def find (registry : Registry) (id : String) : Option Entry := registry.index.byId.get? id

end Registry
end DocumentServer
