import DocumentServer.Association
import DocumentServer.Fault
import DocumentServer.Files.Path
import DocumentServer.Text.Utf8

/-!
A tree of files: folders, files with their content, and symbolic links with their target. A node is
found under its path as it is spelled, without following links.
-/
namespace DocumentServer.Files

inductive Node where
  | file (content : Octets)
  | folder
  | link (target : String)

structure Tree where
  nodes : Association Path Node

namespace Tree

def empty : Tree := { nodes := [] }

/-- The top of a tree is a folder. -/
def node? (tree : Tree) (path : Path) : Option Node :=
  if path.isEmpty then some .folder else Association.get? path tree.nodes

def isFolder (tree : Tree) (path : Path) : Bool :=
  match tree.node? path with
  | some .folder => true
  | _ => false

/-- The proper beginnings of a path that are paths themselves, the shortest first. -/
def foldersAbove (path : Path) : List Path :=
  (List.range path.length).map fun (n : Nat) => path.take n

/-- Makes the folders above a path that are not there. -/
def addFoldersAbove (tree : Tree) (path : Path) : Tree :=
  (foldersAbove path).foldl
    (fun tree folder =>
      if (tree.node? folder).isSome then tree
      else { nodes := Association.put folder .folder tree.nodes })
    tree

/-- Puts a node at a path, with all folders above it. A folder that is there stays. -/
def put (tree : Tree) (path : Path) (node : Node) : Tree :=
  let tree := tree.addFoldersAbove path
  match node, tree.node? path with
  | .folder, some .folder => tree
  | node, _ => { nodes := Association.put path node tree.nodes }

/-- Takes away a node and all that is below it. -/
def remove (tree : Tree) (path : Path) : Tree :=
  { nodes := tree.nodes.filter fun entry => !isInside path entry.1 }

/-- The nodes directly inside of a folder. -/
def children (tree : Tree) (folder : Path) : List (String × Node) :=
  tree.nodes.filterMap fun (path, node) =>
    if path.length == folder.length + 1 && isInside folder path then some (nameOf path, node)
    else none

end Tree
end DocumentServer.Files
