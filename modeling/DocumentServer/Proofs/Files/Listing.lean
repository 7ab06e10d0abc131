import DocumentServer.Proofs.Files.Search
import Mathlib.Data.List.TakeWhile

/-!
What a listing holds. Each file is listed once, and lies plainly below the folder: there is no link on
the way to it. So while the files do not change, two of them never lead to one path.
-/
namespace DocumentServer.Files

variable {tree : Tree} {place root file : Path}

theorem not_dots_of_shown {name : String} (shown : isHidden name = false) : name ≠ ".." := by
  rintro rfl
  cases shown

theorem Searched.plain {here : Path} (leads : Searched tree place here) :
    Walk.Plain tree place here := by
  induction leads with
  | here => trivial
  | inside shown folder _ ih => exact ⟨not_dots_of_shown shown, by simp [folder], ih⟩

/-- A name below a folder that is searched. -/
theorem Searched.plain_concat {here : Path} {name : String} (leads : Searched tree place here)
    (shown : isHidden name = false)
    (noLink : ∀ target, tree.node? (place ++ (here ++ [name])) ≠ some (.link target)) :
    Walk.Plain tree place (here ++ [name]) := by
  induction leads with
  | here => exact ⟨not_dots_of_shown shown, noLink, trivial⟩
  | inside visible folder _ ih =>
      refine ⟨not_dots_of_shown visible, by simp [folder], ih ?_⟩
      simpa using noLink

theorem IsDocument.ne_nil (document : IsDocument tree place file) : file ≠ [] := by
  obtain ⟨here, name, _, rfl, _⟩ := document
  simp

theorem IsDocument.plain (document : IsDocument tree place file) : Walk.Plain tree place file := by
  obtain ⟨here, name, content, rfl, leads, shown, _, there⟩ := document
  exact leads.plain_concat shown (by simp [there])

/-- The stem is what a name begins with, up to its first dot. -/
theorem stem_eq_iff {name start : String} : stem name = start ↔
    '.' ∉ start.toList ∧ (name = start ∨ ∃ ending, name = start ++ "." ++ ending) := by
  rw [stem, ← String.toList_inj, String.toList_ofList]
  constructor
  · intro same
    have whole := List.takeWhile_append_dropWhile (p := (· != '.')) (l := name.toList)
    have plain : '.' ∉ start.toList := by
      intro inside
      rw [← same] at inside
      exact absurd (List.mem_takeWhile_imp (p := (· != '.')) inside) (by decide)
    rw [same] at whole
    cases rest : name.toList.dropWhile (· != '.') with
    | nil =>
        rw [rest, List.append_nil] at whole
        exact ⟨plain, .inl (String.toList_inj.1 whole.symm)⟩
    | cons c ending =>
        obtain rfl : c = '.' := by
          have stops := List.head_dropWhile_not (· != '.') (l := name.toList) (by simp [rest])
          simpa [rest] using stops
        refine ⟨plain, .inr ⟨.ofList ending, String.toList_inj.1 ?_⟩⟩
        rw [← whole, rest]
        simp
  · rintro ⟨plain, begins⟩
    have signs : ∀ c ∈ start.toList, (c != '.') = true := by
      intro c inside
      rw [bne_iff_ne]
      rintro rfl
      exact plain inside
    rcases begins with rfl | ⟨ending, rfl⟩
    · exact List.takeWhile_eq_self_iff.2 signs
    · rw [String.toList_append, String.toList_append, List.append_assoc,
        List.takeWhile_append_of_pos signs]
      simp

theorem stem_ne_empty {name : String} (shown : isHidden name = false)
    (named : isDocumentName name = true) : stem name ≠ "" := by
  rw [stem, ← String.toList_inj.ne, String.toList_ofList]
  cases chars : name.toList with
  | nil =>
      rw [String.toList_eq_nil_iff.1 chars] at named
      revert named
      decide
  | cons c rest =>
      have plain : (c != '.') = true := by
        rw [isHidden, chars] at shown
        simpa using shown
      simp [plain]

/-! ## The files of a root -/

variable {files : List Path}

theorem listDocuments_cases (listed : listDocuments tree root = .ok files) :
    files = [] ∨ ∃ top, isFolderAt tree root = .ok true ∧ resolve tree root = .ok top ∧
      files.Perm (documentsBelow tree top) := by
  obtain ⟨isFolder, tested, listed⟩ := bind_eq_ok.1 listed
  cases isFolder with
  | false =>
      change Except.ok [] = _ at listed
      exact .inl (Except.ok.inj listed).symm
  | true =>
      obtain ⟨top, resolved, listed⟩ := bind_eq_ok.1 listed
      obtain ⟨found, ran, listed⟩ := bind_eq_ok.1 listed
      refine .inr ⟨top, tested, resolved, ?_⟩
      rcases Search.run_cases (.ofNodes tree) root top ⟨[[]], []⟩ with ⟨_, ranToo, same, _⟩ | ⟨_, _, _, failed⟩
      · rw [ran] at ranToo
        cases ranToo
        rw [Search.documents, outstanding_top, List.nil_append] at same
        exact Except.ok.inj listed ▸ (List.mergeSort_perm _ _).trans same
      · rw [ran] at failed
        cases failed

/-- The stem of a listed file can serve as an id. -/
theorem stem_of_listed (listed : listDocuments tree root = .ok files) (member : file ∈ files) :
    stem (nameOf (root ++ file)) ≠ "" := by
  rcases listDocuments_cases listed with rfl | ⟨top, _, _, same⟩
  · cases member
  · obtain ⟨here, _, inFolder⟩ := List.mem_flatMap.1 (same.mem_iff.1 member)
    obtain ⟨name, rfl, shown, named⟩ := mem_documentsAt inFolder
    have last : nameOf (root ++ (here ++ [name])) = name := by simp [nameOf]
    rw [last]
    exact stem_ne_empty shown named

theorem nodup_listDocuments (distinct : (Association.keys tree.nodes).Nodup)
    (listed : listDocuments tree root = .ok files) : files.Nodup := by
  rcases listDocuments_cases listed with rfl | ⟨top, _, _, same⟩
  · exact List.nodup_nil
  · exact same.nodup_iff.2 (nodup_documentsBelow distinct top)

/-- Two listed files lead to one path only if they are the same. -/
theorem resolve_injective (distinct : (Association.keys tree.nodes).Nodup)
    (listed : listDocuments tree root = .ok files) {a b path : Path} (first : a ∈ files)
    (second : b ∈ files) (foundA : resolve tree (root ++ a) = .ok path)
    (foundB : resolve tree (root ++ b) = .ok path) : a = b := by
  rcases listDocuments_cases listed with rfl | ⟨top, _, folderAt, same⟩
  · cases first
  · have plainA := ((mem_documentsBelow distinct).1 (same.mem_iff.1 first)).plain
    have plainB := ((mem_documentsBelow distinct).1 (same.mem_iff.1 second)).plain
    have pathA := resolve_append folderAt plainA foundA
    have pathB := resolve_append folderAt plainB foundB
    exact List.append_cancel_left (pathA.symm.trans pathB)

end DocumentServer.Files
