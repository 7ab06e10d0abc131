import DocumentServer.Proofs.Files.Slug

/-!
What a listing is, for every tree and every root. It holds the documents below the root in the order
of their parts, each once, in whatever order the entries of folders come. A listing fails only where a
name or a path is too long for the root to be looked at, or for a folder to be read.
-/
namespace DocumentServer.Files

variable {tree : Tree} {root top path : Path} {f : Fault}

/-- A path that is too long to list a root: that of the root itself, or of a folder that is searched. -/
def TooLong (tree : Tree) (root path : Path) : Prop :=
  (path = root ∧ root.any hasNul = false ∧ lookAt tree root = .error .nameTooLong) ∨
  ∃ top here, FolderAt tree root top ∧ Searched tree top here ∧ path = root ++ here ∧
    isOverlong path = true

/-! ## The root -/

theorem FolderAt.isFolderAt (proper : tree.Proper) (folder : FolderAt tree root top) :
    isFolderAt tree root = .ok true := by
  have found := folder.seen
  rw [lookAt_of_short (short_of_lookAt folder.seen)] at found
  exact isFolderAt_eq_true.2 ⟨noNul_of_look proper found, folder.seen⟩

theorem isFolderAt_eq_error :
    isFolderAt tree path = .error f ↔
      path.any hasNul = false ∧ lookAt tree path = .error .nameTooLong ∧
        f = LookError.fault path .nameTooLong := by
  unfold isFolderAt
  split
  · next nul => simp [nul]
  · next clean => simp [clean, testAt_eq_error]

theorem FolderAt.unique {other : Path} (folder : FolderAt tree root top)
    (again : FolderAt tree root other) : other = top := again.leads.unique folder.leads

/-- A root that can be looked at is not too long itself. -/
theorem TooLong.below {isFolder : Bool} (tooLong : TooLong tree root path)
    (tested : isFolderAt tree root = .ok isFolder) :
    ∃ top here, FolderAt tree root top ∧ Searched tree top here ∧ path = root ++ here ∧
      isOverlong path = true := by
  rcases tooLong with ⟨_, clean, seen⟩ | below
  · have failed := isFolderAt_eq_error.2 ⟨clean, seen, rfl⟩
    cases tested.symm.trans failed
  · exact below

theorem not_folderAt (proper : tree.Proper) (tested : isFolderAt tree root = .ok false) (top : Path) :
    ¬FolderAt tree root top := by
  intro folder
  cases tested.symm.trans (folder.isFolderAt proper)

theorem not_tooLong (proper : tree.Proper) (tested : isFolderAt tree root = .ok false) :
    ¬TooLong tree root path := by
  intro tooLong
  obtain ⟨top, _, folder, _⟩ := tooLong.below tested
  exact not_folderAt proper tested top folder

/-- Below a folder the paths that are too long are among those that come to be read. -/
theorem tooLong_iff (proper : tree.Proper) (tested : isFolderAt tree root = .ok true)
    (folder : FolderAt tree root top) :
    TooLong tree root path ↔
      ∃ here ∈ searched tree top, path = root ++ here ∧ isOverlong path = true := by
  simp only [mem_searched proper.distinct]
  constructor
  · intro tooLong
    obtain ⟨other, here, found, leads, same, long⟩ := tooLong.below tested
    obtain rfl := folder.unique found
    exact ⟨here, leads, same, long⟩
  · rintro ⟨here, leads, same, long⟩
    exact .inr ⟨top, here, folder, leads, same, long⟩

theorem searchDocuments_of_not_folder (e : Enumeration tree) (tested : isFolderAt tree root = .ok false) :
    searchDocuments e root = .ok [] := by
  rw [searchDocuments, tested]
  rfl

theorem searchDocuments_of_error (e : Enumeration tree) (failed : isFolderAt tree root = .error f) :
    searchDocuments e root = .error f := by
  rw [searchDocuments, failed]
  rfl

/-! ## The listing -/

theorem pairwise_lt_mergeSort {files : List Path} (distinct : files.Nodup) :
    (files.mergeSort isBefore).Pairwise (· < ·) := by
  have apart := (List.mergeSort_perm files isBefore).nodup_iff.2 distinct
  exact ((pairwise_mergeSort_le files).and apart).imp fun pair => lt_of_le_of_ne pair.1 pair.2

/-- Of a folder all documents are listed, in order and each once, if none of its folders is too long. -/
theorem searchDocuments_folder (proper : tree.Proper) (tested : isFolderAt tree root = .ok true)
    (resolved : resolve tree root = .ok top)
    (short : ∀ here ∈ searched tree top, isOverlong (root ++ here) = false) :
    ∃ files : List Path, (∀ e : Enumeration tree, searchDocuments e root = .ok files) ∧
      files.Pairwise (· < ·) ∧ ∀ file, file ∈ files ↔ IsDocument tree top file := by
  refine ⟨(documentsBelow tree top).mergeSort isBefore,
    fun e => searchDocuments_eq e tested resolved short,
    pairwise_lt_mergeSort (nodup_documentsBelow proper.distinct top), fun file => ?_⟩
  rw [List.mem_mergeSort, mem_documentsBelow proper.distinct]

/-- A root lists exactly the documents below it, each once and in the order of their parts, whatever order
the entries of folders come in. Only where a path is too long it lists nothing. -/
theorem searchDocuments_exact (tree : Tree) (proper : tree.Proper) (root : Path) :
    ((∀ path, ¬TooLong tree root path) → ∃ files : List Path,
      (∀ e : Enumeration tree, searchDocuments e root = .ok files) ∧
      files.Pairwise (· < ·) ∧
      (∀ file, file ∈ files ↔ ∃ top, FolderAt tree root top ∧ IsDocument tree top file) ∧
      ((∀ top, ¬FolderAt tree root top) → files = [])) ∧
    ∀ path, TooLong tree root path → ∀ e : Enumeration tree, ∃ long, TooLong tree root long ∧
      searchDocuments e root = .error (LookError.fault long .nameTooLong) := by
  cases tested : isFolderAt tree root with
  | error f =>
      obtain ⟨clean, seen, rfl⟩ := isFolderAt_eq_error.1 tested
      have rootLong : TooLong tree root root := .inl ⟨rfl, clean, seen⟩
      constructor
      · intro short
        exact absurd rootLong (short root)
      · intro _ _ e
        exact ⟨root, rootLong, searchDocuments_of_error e tested⟩
  | ok isFolder =>
  cases isFolder with
  | false =>
      constructor
      · intro _
        refine ⟨[], fun e => searchDocuments_of_not_folder e tested, .nil, ?_, fun _ => rfl⟩
        simp [not_folderAt proper tested]
      · intro path tooLong
        exact absurd tooLong (not_tooLong proper tested)
  | true =>
      obtain ⟨top, folder, resolved⟩ := resolve_folder tested
      simp only [tooLong_iff proper tested folder]
      constructor
      · intro short
        have allShort : ∀ here ∈ searched tree top, isOverlong (root ++ here) = false := by
          intro here member
          rw [← Bool.not_eq_true]
          intro long
          exact short _ ⟨here, member, rfl, long⟩
        obtain ⟨files, listed, sorted, all⟩ := searchDocuments_folder proper tested resolved allShort
        refine ⟨files, listed, sorted, fun file => ?_, fun none => absurd folder (none top)⟩
        rw [all]
        constructor
        · intro document
          exact ⟨top, folder, document⟩
        · rintro ⟨other, found, document⟩
          rwa [folder.unique found] at document
      · rintro _ ⟨here, member, rfl, long⟩ e
        obtain ⟨other, found, tooLong, failed⟩ :=
          searchDocuments_of_overlong e tested resolved member long
        exact ⟨_, ⟨other, found, rfl, tooLong⟩, failed⟩

/-- A link to a folder of pages. In it are a link back up, a link to a page and a hidden folder. -/
def ringTree : Tree where
  nodes :=
    [(["site"], .link "pages"), (["pages"], .folder), (["pages", "a-b.html"], .file []),
      (["pages", "a"], .folder), (["pages", "a", "b.J2"], .file []),
      (["pages", "a", "back"], .link ".."), (["pages", "copy.html"], .link "a/b.J2"),
      (["pages", ".drafts"], .folder), (["pages", ".drafts", "c.html"], .file []),
      (["pages", "notes.txt"], .file [])]

/-- A folder comes before a file with a longer name, although a slash does not come before a dash. -/
theorem ringTree_listed :
    ringTree.Proper ∧ (∀ path, ¬TooLong ringTree ["site"] path) ∧
      (∀ e : Enumeration ringTree,
        searchDocuments e ["site"] = .ok [["a", "b.J2"], ["a-b.html"]]) ∧
      ∀ file, file ∈ [["a", "b.J2"], ["a-b.html"]] ↔
        ∃ top, FolderAt ringTree ["site"] top ∧ IsDocument ringTree top file := by
  have proper : ringTree.Proper := ⟨by decide, by decide⟩
  have leads : Leads ringTree [] ["site"] ["pages"] := follow_eq_path_iff.1 rfl
  have allShort : ∀ here ∈ searched ringTree ["pages"], isOverlong (["site"] ++ here) = false := by
    decide
  have short : ∀ path, ¬TooLong ringTree ["site"] path := by
    rintro path (⟨_, _, long⟩ | ⟨top, here, folder, below, rfl, long⟩)
    · cases long.symm.trans (rfl : lookAt ringTree ["site"] = .ok .folder)
    · obtain rfl := folder.leads.unique leads
      rw [allShort here ((mem_searched proper.distinct).2 below)] at long
      cases long
  obtain ⟨files, all, _, exact, _⟩ := (searchDocuments_exact ringTree proper ["site"]).1 short
  have found : documentsBelow ringTree ["pages"] = [["a-b.html"], ["a", "b.J2"]] := by
    decide
  have ordered : [["a-b.html"], ["a", "b.J2"]].mergeSort isBefore = [["a", "b.J2"], ["a-b.html"]] :=
    (mergeSort_eq_of_perm (.swap ..)).trans (List.mergeSort_of_pairwise (by decide))
  have listed := searchDocuments_eq (.ofNodes ringTree) rfl rfl allShort
  rw [found, ordered, all] at listed
  obtain rfl := Except.ok.inj listed
  exact ⟨proper, short, all, exact⟩

/-- A name that nothing in a file system has. -/
def longName : String := .ofList (List.replicate 300 'a')

/-- A root that is not there cannot be listed if its name is too long. -/
theorem longName_not_listed :
    Tree.empty.Proper ∧ (∀ top, ¬FolderAt Tree.empty [longName] top) ∧
      ∀ e : Enumeration Tree.empty, searchDocuments e [longName] =
        .error (LookError.fault [longName] .nameTooLong) := by
  have seen : lookAt Tree.empty [longName] = .error .nameTooLong := by
    rw [lookAt_of_short (by decide +kernel)]
    change look Tree.empty (81 + 1) 0 [] [longName] = _
    rw [look, if_neg (by decide +kernel), if_pos (by decide +kernel)]
  have clean : ∀ n, hasNul (.ofList (List.replicate n 'a')) = false := fun n => by simp [hasNul]
  refine ⟨⟨.nil, fun _ none => absurd none List.not_mem_nil⟩, ?_, fun e => ?_⟩
  · intro top folder
    cases folder.seen.symm.trans seen
  · refine searchDocuments_of_error e (isFolderAt_eq_error.2 ⟨?_, seen, rfl⟩)
    rw [List.any_cons, List.any_nil, Bool.or_false]
    exact clean 300

end DocumentServer.Files
