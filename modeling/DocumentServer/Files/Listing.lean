import DocumentServer.Files.Resolve
import DocumentServer.Text.Affix
import DocumentServer.Text.Letter
import DocumentServer.Value.Order

/-!
Listing the template files of a folder. One folder is read after the other, until none is left that
has come up. Hidden names and links are left out, at every depth. The files are ordered by their
parts.
-/
namespace DocumentServer.Files

def documentSuffixes : List String := [".html", ".htm", ".jinja", ".jinja2", ".j2"]

def isHidden (name : String) : Bool := name.toList.head? == some '.'

/-- Whether a file name is that of a document. -/
def isDocumentName (name : String) : Bool :=
  documentSuffixes.any fun suffix => Text.endsWith suffix (Text.toLower name)

/-- The order in which the entries of folders come. Any order will do, but no entry is left out and
none comes twice. -/
structure Enumeration (tree : Tree) where
  entries : Path → List (String × Node)
  complete : ∀ folder, (entries folder).Perm (tree.children folder)

/-- The entries in the order in which the tree holds them. -/
def Enumeration.ofNodes (tree : Tree) : Enumeration tree where
  entries := tree.children
  complete _ := .refl _

/-- Whether a path is longer than any that a folder can be read under. -/
def isOverlong (path : Path) : Bool := (pathText path).utf8ByteSize > maxPathOctets

/-- Folders that are still to be read, the next one first, and the documents found so far. All are
parts below the folder where the search began. -/
structure Search where
  pending : List Path
  found : List Path

/-! ## The folders that are searched -/

/-- The name of an entry that is searched in turn. -/
def folderName? : String × Node → Option String
  | (name, .folder) => if isHidden name then none else some name
  | _ => none

/-- The name of an entry that is a document. -/
def documentName? : String × Node → Option String
  | (name, .file _) => if !isHidden name && isDocumentName name then some name else none
  | _ => none

def foldersIn (tree : Tree) : Nat → Path → List Path
  | 0, _ => [[]]
  | levels + 1, place =>
    [] :: ((tree.children place).filterMap folderName?).flatMap fun name =>
      (foldersIn tree levels (place ++ [name])).map (name :: ·)

/-- No node lies deeper than this. -/
def deepest (tree : Tree) : Nat := (tree.nodes.map fun entry => entry.1.length).foldr max 0

/-- A folder with all folders below it that are searched from there. -/
def searched (tree : Tree) (place : Path) : List Path :=
  foldersIn tree (deepest tree - place.length) place

theorem length_le_deepest {tree : Tree} {path : Path} {node : Node}
    (member : (path, node) ∈ tree.nodes) : path.length ≤ deepest tree := by
  rw [deepest]
  generalize tree.nodes = nodes at member
  induction nodes with
  | nil => cases member
  | cons entry rest ih =>
      rw [List.map_cons, List.foldr_cons]
      rcases List.mem_cons.1 member with rfl | later
      · exact Nat.le_max_left ..
      · exact Nat.le_trans (ih later) (Nat.le_max_right ..)

theorem children_eq_nil {tree : Tree} {place : Path} (deep : deepest tree ≤ place.length) :
    tree.children place = [] := by
  refine List.filterMap_eq_nil_iff.2 ?_
  rintro ⟨path, node⟩ member
  have within := length_le_deepest member
  have apart : (path.length == place.length + 1) = false := by
    rw [beq_eq_false_iff_ne]
    omega
  simp [apart]

theorem searched_eq (tree : Tree) (place : Path) :
    searched tree place =
      [] :: ((tree.children place).filterMap folderName?).flatMap fun name =>
        (searched tree (place ++ [name])).map (name :: ·) := by
  cases levels : deepest tree - place.length with
  | zero =>
      rw [searched, levels, children_eq_nil (by omega)]
      rfl
  | succ fewer =>
      have below : ∀ name : String, deepest tree - (place ++ [name]).length = fewer := by
        intro name
        rw [List.length_append, List.length_singleton]
        omega
      simp only [searched, levels, below, foldersIn]

namespace Search

/-! ## Reading a folder -/

/-- Takes note of an entry of a folder. -/
def note (here : Path) (s : Search) (entry : String × Node) : Search :=
  if isHidden entry.1 then s
  else match entry.2 with
    | .folder => { s with pending := (here ++ [entry.1]) :: s.pending }
    | .file _ =>
      if isDocumentName entry.1 then { s with found := s.found ++ [here ++ [entry.1]] } else s
    | .link _ => s

/-- Folders with all folders below them that are searched from there. -/
def outstanding (tree : Tree) (top : Path) (pending : List Path) : List Path :=
  pending.flatMap fun here => (searched tree (top ++ here)).map (here ++ ·)

theorem note_pending (here : Path) (s : Search) (entry : String × Node) :
    (note here s entry).pending =
      ((folderName? entry).toList.map fun name => here ++ [name]) ++ s.pending := by
  obtain ⟨name, node⟩ := entry
  cases hidden : isHidden name <;> cases node <;> simp [note, folderName?, hidden]
  split <;> rfl

theorem note_found (here : Path) (s : Search) (entry : String × Node) :
    (note here s entry).found =
      s.found ++ (documentName? entry).toList.map fun name => here ++ [name] := by
  obtain ⟨name, node⟩ := entry
  cases hidden : isHidden name <;> cases node <;> simp [note, documentName?, hidden]
  split <;> simp

theorem pending_foldl_note (here : Path) (s : Search) (entries : List (String × Node)) :
    (entries.foldl (note here) s).pending.Perm
      (((entries.filterMap folderName?).map fun name => here ++ [name]) ++ s.pending) := by
  induction entries generalizing s with
  | nil => exact .refl _
  | cons entry rest ih =>
      refine (ih (note here s entry)).trans ?_
      rw [note_pending]
      cases shown : folderName? entry with
      | none => simp [shown]
      | some name =>
          rw [List.filterMap_cons_some shown]
          exact List.perm_middle

theorem found_foldl_note (here : Path) (s : Search) (entries : List (String × Node)) :
    (entries.foldl (note here) s).found =
      s.found ++ (entries.filterMap documentName?).map fun name => here ++ [name] := by
  induction entries generalizing s with
  | nil => simp
  | cons entry rest ih =>
      rw [List.foldl_cons, ih, note_found, List.append_assoc]
      cases shown : documentName? entry <;> simp [shown]

variable {tree : Tree}

/-- Reads a folder. -/
def read (e : Enumeration tree) (top here : Path) (s : Search) : Search :=
  (e.entries (top ++ here)).foldl (note here) s

/-- Reading a folder leaves all folders outstanding but this one. -/
theorem outstanding_read (e : Enumeration tree) (top here : Path) (s : Search) :
    (outstanding tree top (here :: s.pending)).Perm
      (here :: outstanding tree top (s.read e top here).pending) := by
  have pending := (pending_foldl_note here s (e.entries (top ++ here))).trans
    ((((e.complete (top ++ here)).filterMap folderName?).map _).append_right _)
  refine .trans (.of_eq ?_) ((pending.flatMap_right _).cons here).symm
  simp [outstanding, searched_eq tree (top ++ here), List.flatMap_map, List.map_flatMap,
    Function.comp_def]

/-- Reads one folder after the other until none is left. -/
def run (e : Enumeration tree) (root top : Path) : Search → Except Fault (List Path)
  | ⟨[], found⟩ => .ok found
  | ⟨here :: rest, found⟩ =>
    if isOverlong (root ++ here) then .error (LookError.fault (root ++ here) .nameTooLong)
    else run e root top (Search.read e top here ⟨rest, found⟩)
termination_by s => (outstanding tree top s.pending).length
decreasing_by
  have fewer := (outstanding_read e top here ⟨rest, found⟩).length_eq
  rw [List.length_cons] at fewer
  exact Nat.lt_of_succ_le (Nat.le_of_eq fewer.symm)

end Search

/-! ## Documents -/

/-- The order of paths: by the first part that differs. -/
def comparePaths : Path → Path → Ordering
  | [], [] => .eq
  | [], _ :: _ => .lt
  | _ :: _, [] => .gt
  | a :: as, b :: bs => if a == b then comparePaths as bs else Value.compareText a b

def isBefore (a b : Path) : Bool := comparePaths a b != .gt

/-- The documents below a folder in order, as parts below it, where the entries of folders come in
some order. What is no folder has none. -/
def searchDocuments {tree : Tree} (e : Enumeration tree) (root : Path) :
    Except Fault (List Path) := do
  if !(← isFolderAt tree root) then return []
  let top ← resolve tree root
  return (← Search.run e root top { pending := [[]], found := [] }).mergeSort isBefore

def listDocuments (tree : Tree) (root : Path) : Except Fault (List Path) :=
  searchDocuments (.ofNodes tree) root

end DocumentServer.Files
