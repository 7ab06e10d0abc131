import DocumentServer.Proofs.Files.Folder
import DocumentServer.Proofs.Files.Listing
import DocumentServer.Proofs.Files.Static

/-!
Where listed files lead, and how their places below the root are written. A path that something is
found at meets no loop of links, so each file of a listing leads to its place in the folder that the
root leads to. Written with slashes, two of these places are never the same text.
-/
namespace DocumentServer.Files

/-- A tree as a file system holds it: nothing is there twice, and no name holds a slash or a NUL. -/
structure Tree.Proper (tree : Tree) : Prop where
  distinct : (Association.keys tree.nodes).Nodup
  names : ∀ path ∈ Association.keys tree.nodes, ∀ name ∈ path,
    '/' ∉ name.toList ∧ hasNul name = false

variable {tree : Tree} {fuel links : Nat} {reached root file : Path} {names : List String}
  {node : Node} {files : List Path}

theorem Tree.Proper.name (proper : tree.Proper) {name : String}
    (there : tree.node? (reached ++ [name]) = some node) :
    '/' ∉ name.toList ∧ hasNul name = false := by
  have someParts : (reached ++ [name]).isEmpty = false := by simp
  rw [Tree.node?, someParts, if_neg Bool.false_ne_true] at there
  have known := Association.mem_of_get? there
  exact proper.names _ (List.mem_map_of_mem known) name (by simp)

/-! ## What is found -/

/-- No name that something is found at holds a NUL. -/
theorem noNul_of_look (proper : tree.Proper) (found : look tree fuel links reached names = .ok node) :
    names.any hasNul = false := by
  have finds := finds_of_look found
  clear found
  induction finds with
  | here _ => rfl
  | up _ ih =>
      rw [List.any_cons, Bool.or_eq_false_iff]
      exact ⟨by decide, ih⟩
  | link _ _ isLink _ _ ih =>
      rw [List.any_append, Bool.or_eq_false_iff] at ih
      rw [List.any_cons, Bool.or_eq_false_iff]
      exact ⟨(proper.name isLink).2, ih.2⟩
  | file _ _ isFile =>
      rw [List.any_cons, Bool.or_eq_false_iff]
      exact ⟨(proper.name isFile).2, rfl⟩
  | into _ _ isFolder _ ih =>
      rw [List.any_cons, Bool.or_eq_false_iff]
      exact ⟨(proper.name isFolder).2, ih⟩

theorem isFolderAt_eq_true {path : Path} :
    isFolderAt tree path = .ok true ↔
      path.any hasNul = false ∧ lookAt tree path = .ok .folder := by
  unfold isFolderAt testAt
  split
  · next nul => simp [nul]
  · next clean =>
      cases seen : lookAt tree path with
      | ok node => cases node <;> simp [clean, Node.isFolder]
      | error e => cases e <;> simp

/-! ## Listed files -/

theorem Searched.clean {here : Path} (proper : tree.Proper) (leads : Searched tree reached here) :
    ∀ name ∈ here, '/' ∉ name.toList ∧ hasNul name = false := by
  induction leads with
  | here => exact fun name named => absurd named List.not_mem_nil
  | inside _ folder _ ih => exact List.forall_mem_cons.2 ⟨proper.name folder, ih⟩

theorem IsDocument.clean (proper : tree.Proper) (document : IsDocument tree reached file) :
    ∀ name ∈ file, '/' ∉ name.toList ∧ hasNul name = false := by
  obtain ⟨here, name, content, rfl, leads, _, _, there⟩ := document
  rw [← List.append_assoc] at there
  exact List.forall_mem_append.2
    ⟨leads.clean proper, List.forall_mem_singleton.2 (proper.name there)⟩

/-- A root that is a folder leads somewhere, and can be resolved. -/
theorem resolve_folder (isFolder : isFolderAt tree root = .ok true) :
    ∃ place, FolderAt tree root place ∧ resolve tree root = .ok place := by
  obtain ⟨clean, seen⟩ := isFolderAt_eq_true.1 isFolder
  obtain ⟨place, folder⟩ := folderAt_of_lookAt seen
  exact ⟨place, folder, by rw [resolve_of_leads folder.leads, clean, if_neg Bool.false_ne_true]⟩

/-- A listed file leads to its place in the folder that the root leads to. -/
theorem resolve_listed (proper : tree.Proper) (listed : listDocuments tree root = .ok files)
    (member : file ∈ files) :
    resolve tree root = .ok (leadsTo tree root) ∧
      resolve tree (root ++ file) = .ok (leadsTo tree root ++ file) := by
  rcases listDocuments_cases listed with rfl | ⟨top, isFolder, resolved, same⟩
  · cases member
  obtain ⟨place, folder, resolvedToo⟩ := resolve_folder isFolder
  obtain rfl := Except.ok.inj (resolved.symm.trans resolvedToo)
  have document := (mem_documentsBelow proper.distinct).1 (same.mem_iff.1 member)
  have cleanFile : (root ++ file).any hasNul = false := by
    rw [List.any_append, (isFolderAt_eq_true.1 isFolder).1, Bool.false_or, List.any_eq_false]
    exact fun name named => by simp [(document.clean proper name named).2]
  rw [leadsTo_of_leads folder.leads]
  refine ⟨resolved, ?_⟩
  rw [resolve_of_leads (folder.leads.append document.plain.leads), cleanFile,
    if_neg Bool.false_ne_true]

/-! ## Slugs -/

/-- A path below a folder is the only one that is written as it is. -/
theorem relativeText_injective {a b : Path} (first : a ≠ []) (second : b ≠ [])
    (namesA : ∀ name ∈ a, '/' ∉ name.toList) (namesB : ∀ name ∈ b, '/' ∉ name.toList)
    (same : relativeText a = relativeText b) : a = b := by
  have pieces : ∀ path : Path, path ≠ [] → (∀ name ∈ path, '/' ∉ name.toList) →
      (relativeText path).toList.splitOn '/' = path.map String.toList := by
    intro path some named
    have apart : ∀ piece ∈ path.map String.toList, '/' ∉ piece := List.forall_mem_map.2 named
    rw [relativeText, if_neg (by simpa using some), String.toList_intercalate]
    exact List.splitOn_intercalate '/' apart (by simpa using some)
  have alike : a.map String.toList = b.map String.toList := by
    rw [← pieces a first namesA, ← pieces b second namesB, same]
  exact List.map_injective_iff.2 (fun _ _ => String.toList_inj.1) alike

/-- No two listed files have one slug. -/
theorem nodup_slugs (proper : tree.Proper) (listed : listDocuments tree root = .ok files) :
    (files.map relativeText).Nodup := by
  refine List.Nodup.map_on ?_ (nodup_listDocuments proper.distinct listed)
  intro a first b second same
  rcases listDocuments_cases listed with rfl | ⟨top, _, _, perm⟩
  · cases first
  have inA := (mem_documentsBelow proper.distinct).1 (perm.mem_iff.1 first)
  have inB := (mem_documentsBelow proper.distinct).1 (perm.mem_iff.1 second)
  exact relativeText_injective inA.ne_nil inB.ne_nil (fun name named => (inA.clean proper name named).1)
    (fun name named => (inB.clean proper name named).1) same

end DocumentServer.Files
