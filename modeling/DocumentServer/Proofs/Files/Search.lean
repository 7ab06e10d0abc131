import DocumentServer.Files.Listing
import DocumentServer.Proofs.Fault
import DocumentServer.Proofs.Files.Resolve
import Mathlib.Data.List.Lex
import Mathlib.Data.String.Basic

/-!
The search for documents. Each step reads one folder, and leaves outstanding what it does not read
itself; so the search ends with the documents of all folders that can be reached without links and
hidden names, in whatever order the entries of folders come.
-/
namespace DocumentServer

/-! ## The order of paths -/

theorem Value.compareChars_spec (cs ds : List Char) :
    (compareChars cs ds = .lt ↔ cs < ds) ∧ (compareChars cs ds = .gt ↔ ds < cs) := by
  induction cs generalizing ds with
  | nil => cases ds <;> simp [compareChars]
  | cons c cs ih =>
      cases ds with
      | nil => simp [compareChars]
      | cons d ds =>
          rw [compareChars, List.cons_lt_cons_iff, List.cons_lt_cons_iff]
          by_cases same : c = d
          · subst same
            simpa using ih ds
          · have apart : (c == d) = false := by simpa using same
            simp only [apart, Bool.false_eq_true, if_false, same, Ne.symm same, false_and, or_false]
            exact ⟨Nat.compare_eq_lt, Nat.compare_eq_gt⟩

theorem Value.compareText_spec (s t : String) :
    (compareText s t = .lt ↔ s < t) ∧ (compareText s t = .gt ↔ t < s) := by
  rw [compareText, String.lt_iff_toList_lt, String.lt_iff_toList_lt]
  exact compareChars_spec _ _

namespace Files

theorem comparePaths_spec (a b : Path) :
    (comparePaths a b = .lt ↔ a < b) ∧ (comparePaths a b = .gt ↔ b < a) := by
  induction a generalizing b with
  | nil => cases b <;> simp [comparePaths]
  | cons x xs ih =>
      cases b with
      | nil => simp [comparePaths]
      | cons y ys =>
          rw [comparePaths, List.cons_lt_cons_iff, List.cons_lt_cons_iff]
          by_cases same : x = y
          · subst same
            simpa using ih ys
          · have apart : (x == y) = false := by simpa using same
            simp only [apart, Bool.false_eq_true, if_false, same, Ne.symm same, false_and, or_false]
            exact Value.compareText_spec x y

theorem isBefore_iff {a b : Path} : isBefore a b = true ↔ a ≤ b := by
  rw [isBefore, bne_iff_ne, Ne, (comparePaths_spec a b).2, not_lt]

theorem pairwise_mergeSort_le (files : List Path) : (files.mergeSort isBefore).Pairwise (· ≤ ·) := by
  have sorted := @List.pairwise_mergeSort _ isBefore
    (fun a b c first second => isBefore_iff.2 ((isBefore_iff.1 first).trans (isBefore_iff.1 second)))
    (fun a b => by simpa [isBefore_iff] using le_total a b) files
  exact sorted.imp isBefore_iff.1

/-- Sorting forgets the order in which paths were found. -/
theorem mergeSort_eq_of_perm {a b : List Path} (same : a.Perm b) :
    a.mergeSort isBefore = b.mergeSort isBefore :=
  ((List.mergeSort_perm a isBefore).trans (same.trans (List.mergeSort_perm b isBefore).symm)).eq_of_pairwise
    (fun _ _ _ _ => le_antisymm) (pairwise_mergeSort_le a) (pairwise_mergeSort_le b)

variable {tree : Tree} {place root top here : Path} {name : String}

/-! ## Entries of folders -/

theorem eq_concat_of_child {path : Path} (length : path.length = place.length + 1)
    (inside : isInside place path = true) : path = place ++ [nameOf path] := by
  obtain ⟨rest, rfl⟩ := List.isPrefixOf_iff_prefix.1 inside
  rw [List.length_append] at length
  obtain ⟨name, rfl⟩ := List.length_eq_one_iff.1 (by omega : rest.length = 1)
  simp [nameOf]

theorem mem_children {node : Node} (distinct : (Association.keys tree.nodes).Nodup) :
    (name, node) ∈ tree.children place ↔ tree.node? (place ++ [name]) = some node := by
  have someParts : (place ++ [name]).isEmpty = false := by simp
  rw [Tree.node?, someParts, if_neg Bool.false_ne_true]
  constructor
  · intro member
    obtain ⟨⟨path, found⟩, at_, same⟩ := List.mem_filterMap.1 member
    dsimp only at same
    split at same
    · next child =>
        simp only [Bool.and_eq_true, beq_iff_eq] at child
        obtain ⟨rfl, rfl⟩ := Prod.mk.inj (Option.some.inj same)
        rw [← eq_concat_of_child child.1 child.2]
        exact Association.get?_of_mem distinct at_
    · cases same
  · intro found
    refine List.mem_filterMap.2 ⟨_, Association.mem_of_get? found, ?_⟩
    simp [isInside, nameOf]

theorem names_distinct (distinct : (Association.keys tree.nodes).Nodup) (place : Path) :
    (tree.children place).Pairwise fun a b => a.1 ≠ b.1 := by
  rw [Association.keys, List.Nodup, List.pairwise_map] at distinct
  refine List.pairwise_filterMap.2 (distinct.imp ?_)
  rintro ⟨first, node⟩ ⟨second, other⟩ differ ⟨a, _⟩ foundA ⟨b, _⟩ foundB
  simp only [Option.ite_none_right_eq_some, Bool.and_eq_true, beq_iff_eq, Option.some.injEq,
    Prod.mk.injEq] at foundA foundB
  rintro rfl
  apply differ
  rw [eq_concat_of_child foundA.1.1 foundA.1.2, eq_concat_of_child foundB.1.1 foundB.1.2,
    foundA.2.1, foundB.2.1]

theorem folderName?_eq_some {entry : String × Node} :
    folderName? entry = some name ↔ entry = (name, .folder) ∧ isHidden name = false := by
  obtain ⟨other, node⟩ := entry
  cases node <;> simp [folderName?]
  grind

theorem documentName?_eq_some {entry : String × Node} :
    documentName? entry = some name ↔
      (∃ content, entry = (name, .file content)) ∧ isHidden name = false ∧
        isDocumentName name = true := by
  obtain ⟨other, node⟩ := entry
  cases node <;> simp [documentName?]
  grind

/-- Names picked from entries by their own names are as different as these. -/
theorem nodup_filterMap_names {entries : List (String × Node)} {pick : String × Node → Option String}
    (own : ∀ entry name, pick entry = some name → entry.1 = name)
    (distinct : entries.Pairwise fun a b => a.1 ≠ b.1) : (entries.filterMap pick).Nodup := by
  refine List.pairwise_filterMap.2 (distinct.imp ?_)
  intro a b differ first foundA second foundB
  rwa [← own a first foundA, ← own b second foundB]

/-! ## Folders that are searched -/

/-- From a place, folders lead down to another one, and none of their names is hidden. -/
inductive Searched (tree : Tree) : Path → Path → Prop
  | here {place : Path} : Searched tree place []
  | inside {place rest : Path} {name : String} : isHidden name = false →
      tree.node? (place ++ [name]) = some .folder → Searched tree (place ++ [name]) rest →
      Searched tree place (name :: rest)

/-- A document below a place: a file of that name, with folders down to it, and nothing hidden on the
way. -/
def IsDocument (tree : Tree) (place file : Path) : Prop :=
  ∃ here name content, file = here ++ [name] ∧ Searched tree place here ∧ isHidden name = false ∧
    isDocumentName name = true ∧ tree.node? (place ++ file) = some (.file content)

theorem mem_folderNames (distinct : (Association.keys tree.nodes).Nodup) :
    name ∈ (tree.children place).filterMap folderName? ↔
      isHidden name = false ∧ tree.node? (place ++ [name]) = some .folder := by
  simp only [List.mem_filterMap, folderName?_eq_some, ← mem_children distinct]
  constructor
  · rintro ⟨_, child, rfl, shown⟩
    exact ⟨shown, child⟩
  · rintro ⟨shown, child⟩
    exact ⟨_, child, rfl, shown⟩

theorem mem_searched (distinct : (Association.keys tree.nodes).Nodup) :
    here ∈ searched tree place ↔ Searched tree place here := by
  constructor
  · intro member
    induction here generalizing place with
    | nil => exact .here
    | cons name rest ih =>
        rw [searched_eq] at member
        simp only [List.mem_cons, reduceCtorEq, List.mem_flatMap, List.mem_map, false_or] at member
        obtain ⟨other, shown, below, later, same⟩ := member
        obtain ⟨rfl, rfl⟩ := List.cons.inj same
        obtain ⟨visible, folder⟩ := (mem_folderNames distinct).1 shown
        exact .inside visible folder (ih later)
  · intro leads
    induction leads with
    | here =>
        rw [searched_eq]
        exact List.mem_cons_self
    | inside visible folder _ ih =>
        rw [searched_eq]
        exact List.mem_cons_of_mem _ (List.mem_flatMap.2
          ⟨_, (mem_folderNames distinct).2 ⟨visible, folder⟩, List.mem_map_of_mem ih⟩)

theorem nodup_searched (distinct : (Association.keys tree.nodes).Nodup) (place : Path) :
    (searched tree place).Nodup := by
  unfold searched
  generalize deepest tree - place.length = levels
  induction levels generalizing place with
  | zero => exact List.nodup_singleton _
  | succ levels ih =>
      have names : ((tree.children place).filterMap folderName?).Nodup :=
        nodup_filterMap_names (fun _ _ shown => by rw [(folderName?_eq_some.1 shown).1])
          (names_distinct distinct place)
      rw [foldersIn, List.nodup_cons, List.nodup_flatMap]
      refine ⟨by simp, fun name _ => (ih _).map fun a b same => (List.cons.inj same).2, names.imp ?_⟩
      intro first second differ path ofFirst ofSecond
      obtain ⟨_, _, rfl⟩ := List.mem_map.1 ofFirst
      obtain ⟨_, _, same⟩ := List.mem_map.1 ofSecond
      exact differ (List.cons.inj same).1.symm

/-! ## Documents of folders -/

/-- The documents that lie in a folder itself. -/
def documentsAt (tree : Tree) (top here : Path) : List Path :=
  ((tree.children (top ++ here)).filterMap documentName?).map fun name => here ++ [name]

/-- The documents of all folders that are searched. -/
def documentsBelow (tree : Tree) (top : Path) : List Path :=
  (searched tree top).flatMap (documentsAt tree top)

variable {file : Path}

/-- Documents have names of their own, which are not hidden. -/
theorem mem_documentsAt (member : file ∈ documentsAt tree top here) :
    ∃ name, file = here ++ [name] ∧ isHidden name = false ∧ isDocumentName name = true := by
  obtain ⟨name, shown, rfl⟩ := List.mem_map.1 member
  obtain ⟨entry, -, named⟩ := List.mem_filterMap.1 shown
  exact ⟨name, rfl, (documentName?_eq_some.1 named).2⟩

theorem mem_documentsBelow (distinct : (Association.keys tree.nodes).Nodup) :
    file ∈ documentsBelow tree top ↔ IsDocument tree top file := by
  simp only [documentsBelow, List.mem_flatMap, mem_searched distinct, documentsAt, List.mem_map,
    List.mem_filterMap, documentName?_eq_some]
  constructor
  · rintro ⟨here, leads, name, ⟨_, child, ⟨content, rfl⟩, shown, named⟩, rfl⟩
    refine ⟨here, name, content, rfl, leads, shown, named, ?_⟩
    rw [← List.append_assoc, ← mem_children distinct]
    exact child
  · rintro ⟨here, name, content, rfl, leads, shown, named, there⟩
    rw [← List.append_assoc, ← mem_children distinct] at there
    exact ⟨here, leads, name, ⟨_, there, ⟨content, rfl⟩, shown, named⟩, rfl⟩

theorem nodup_documentsBelow (distinct : (Association.keys tree.nodes).Nodup) (top : Path) :
    (documentsBelow tree top).Nodup := by
  rw [documentsBelow, List.nodup_flatMap]
  constructor
  · intro here _
    refine (nodup_filterMap_names ?_ (names_distinct distinct (top ++ here))).map ?_
    · intro entry name shown
      obtain ⟨⟨_, rfl⟩, _⟩ := documentName?_eq_some.1 shown
      rfl
    · exact fun a b same => List.singleton_inj.1 (List.append_cancel_left same)
  · refine (nodup_searched distinct top).imp ?_
    intro first second differ file ofFirst ofSecond
    obtain ⟨_, rfl, _⟩ := mem_documentsAt ofFirst
    obtain ⟨_, same, _⟩ := mem_documentsAt ofSecond
    exact differ (List.append_singleton_inj.1 same).1

/-! ## Steps and runs -/

namespace Search

variable {e : Enumeration tree} {s : Search} {files : List Path} {f : Fault}

/-- Reading a folder finds the documents that lie in it. -/
theorem found_read (e : Enumeration tree) (top here : Path) (s : Search) :
    (s.read e top here).found.Perm (s.found ++ documentsAt tree top here) := by
  rw [read, found_foldl_note]
  exact (((e.complete (top ++ here)).filterMap documentName?).map _).append_left _

/-- All documents of a search: those found, and those of the folders outstanding. -/
def documents (tree : Tree) (top : Path) (s : Search) : List Path :=
  s.found ++ (outstanding tree top s.pending).flatMap (documentsAt tree top)

/-- Reading a folder leaves the documents of the search as they are. -/
theorem documents_read (e : Enumeration tree) (top here : Path) (rest found : List Path) :
    (documents tree top (Search.read e top here ⟨rest, found⟩)).Perm
      (documents tree top ⟨here :: rest, found⟩) := by
  have outstanding := (outstanding_read e top here ⟨rest, found⟩).flatMap_right (documentsAt tree top)
  rw [List.flatMap_cons] at outstanding
  refine .trans ((found_read e top here ⟨rest, found⟩).append_right _) ?_
  rw [List.append_assoc]
  exact (outstanding.append_left found).symm

/-- A search ends with all its documents, unless the path of a folder is too long to read it. -/
theorem run_cases (e : Enumeration tree) (root top : Path) (s : Search) :
    (∃ files, run e root top s = .ok files ∧ files.Perm (documents tree top s) ∧
      ∀ here ∈ outstanding tree top s.pending, isOverlong (root ++ here) = false) ∨
    ∃ here ∈ outstanding tree top s.pending, isOverlong (root ++ here) = true ∧
      run e root top s = .error (LookError.fault (root ++ here) .nameTooLong) := by
  fun_induction run e root top s with
  | case1 found =>
      refine .inl ⟨found, rfl, ?_, ?_⟩
      · simp [documents, outstanding]
      · simp [outstanding]
  | case2 here rest found long =>
      refine .inr ⟨here, ?_, long, rfl⟩
      exact (outstanding_read e top here ⟨rest, found⟩).mem_iff.2 List.mem_cons_self
  | case3 here rest found short ih =>
      have read := outstanding_read e top here ⟨rest, found⟩
      rcases ih with ⟨files, ran, same, others⟩ | ⟨other, member, long, failed⟩
      · refine .inl ⟨files, ran, same.trans (documents_read e top here rest found), ?_⟩
        intro other member
        rcases List.mem_cons.1 (read.mem_iff.1 member) with rfl | later
        · simpa using short
        · exact others other later
      · exact .inr ⟨other, read.mem_iff.2 (List.mem_cons_of_mem _ member), long, failed⟩

end Search

/-! ## Searches from a root -/

theorem outstanding_top (tree : Tree) (top : Path) :
    Search.outstanding tree top [[]] = searched tree top := by
  simp [Search.outstanding]

theorem searchDocuments_eq_run {e : Enumeration tree} (isFolder : isFolderAt tree root = .ok true)
    (resolved : resolve tree root = .ok top) :
    searchDocuments e root =
      (Search.run e root top ⟨[[]], []⟩).map (·.mergeSort isBefore) := by
  simp only [searchDocuments, isFolder, resolved, ok_bind]
  cases Search.run e root top ⟨[[]], []⟩ <;> rfl

/-- A folder whose folders can all be read is searched through, in whatever order the entries come. -/
theorem searchDocuments_eq (e : Enumeration tree) (isFolder : isFolderAt tree root = .ok true)
    (resolved : resolve tree root = .ok top)
    (short : ∀ here ∈ searched tree top, isOverlong (root ++ here) = false) :
    searchDocuments e root = .ok ((documentsBelow tree top).mergeSort isBefore) := by
  rw [searchDocuments_eq_run isFolder resolved]
  rcases Search.run_cases e root top ⟨[[]], []⟩ with ⟨files, ran, same, _⟩ | ⟨here, member, long, _⟩
  · rw [Search.documents, outstanding_top, List.nil_append] at same
    rw [ran]
    exact congrArg Except.ok (mergeSort_eq_of_perm same)
  · rw [outstanding_top] at member
    rw [short here member] at long
    cases long

/-- A folder that cannot be read stops the search. -/
theorem searchDocuments_of_overlong (e : Enumeration tree) (isFolder : isFolderAt tree root = .ok true)
    (resolved : resolve tree root = .ok top) (member : here ∈ searched tree top)
    (long : isOverlong (root ++ here) = true) :
    ∃ other ∈ searched tree top, isOverlong (root ++ other) = true ∧
      searchDocuments e root = .error (LookError.fault (root ++ other) .nameTooLong) := by
  rw [searchDocuments_eq_run isFolder resolved]
  rcases Search.run_cases e root top ⟨[[]], []⟩ with ⟨_, _, _, short⟩ | ⟨other, found, longToo, failed⟩
  · rw [outstanding_top] at short
    rw [short here member] at long
    cases long
  · rw [outstanding_top] at found
    exact ⟨other, found, longToo, by rw [failed]; rfl⟩

end Files
end DocumentServer
