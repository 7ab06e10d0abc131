import DocumentServer.Proofs.Fault
import DocumentServer.Proofs.Files.Listing
import DocumentServer.Proofs.Registry.Provenance

/-!
Agreement of the two views of the live index. Files may change while a rebuild works, and two that it
listed may come to lead to one path. Then the view by path lacks an entry that the view by id has.
-/
namespace DocumentServer

/-- An entry is under the path that its file led to. -/
theorem Entry.resolve_of_ofDocument {tree : Files.Tree} {root file : Files.Path}
    {document : Document} {entry : Entry}
    (named : Entry.ofDocument tree root file document = .ok entry) :
    Files.resolve tree file = .ok entry.path := by
  unfold Entry.ofDocument at named
  cases found : Files.resolve tree file with
  | error f => simp [found, bind, Except.bind] at named
  | ok path =>
      cases folder : Files.resolve tree root with
      | error f => simp [found, folder, bind, Except.bind] at named
      | ok top =>
          simp only [found, folder, bind, Except.bind, pure, Except.pure, Except.ok.injEq] at named
          rw [← named]

/-- The id of a listed document is not empty. -/
theorem Entry.id_ne_empty {tree : Files.Tree} {root file : Files.Path} {document : Document}
    {entry : Entry} (named : Files.stem (Files.nameOf file) ≠ "")
    (made : Entry.ofDocument tree root file document = .ok entry) : entry.id ≠ "" := by
  obtain ⟨path, _, made⟩ := bind_eq_ok.1 made
  obtain ⟨folder, _, made⟩ := bind_eq_ok.1 made
  cases made
  change Entry.idOf file document ≠ ""
  unfold Entry.idOf
  cases document.id with
  | none => exact named
  | some id =>
      dsimp only
      split
      · exact named
      · next given => simpa using given

namespace Session

variable {start s : Session} {events : List Event} {e : Event} {g : Nat} {index : Index}
  {files : List Files.Path}

/-! ## Where files led to -/

/-- A rebuild gets the document of the file that it waits for, which leads to a path then. -/
def Resolves (g : Nat) (file path : Files.Path) (s : Session) (e : Event) : Prop :=
  (∃ document, e = .compiled g (.ok document)) ∧
    (∃ collected call rest, s.progress? g = some (.compiling collected call file rest)) ∧
    Files.resolve s.tree file = .ok path

/-- A rebuild finds one tree whenever it lists files or gets a document. -/
def FindsTree (start : Session) (events : List Event) (g : Nat) (tree : Files.Tree) : Prop :=
  ∀ before e after, events = before ++ e :: after →
    ((∃ files, Lists g files (start.run before) e) ∨
      ∃ file path, Resolves g file path (start.run before) e) → (start.run before).tree = tree

theorem Collects.resolves {file : Files.Path} {entry : Entry} (collects : Collects g file entry s e) :
    Resolves g file entry.path s e := by
  obtain ⟨document, same, waits, named⟩ := collects
  exact ⟨⟨document, same⟩, waits, Entry.resolve_of_ofDocument named⟩

theorem Occurs.imp {kind other : Session → Event → Prop} (occurs : start.Occurs events kind)
    (implies : ∀ s e, kind s e → other s e) : start.Occurs events other := by
  obtain ⟨before, e, after, split, holds⟩ := occurs
  exact ⟨before, e, after, split, implies _ _ holds⟩

theorem Gathered.resolved (gathered : start.Gathered events g files index) :
    List.Forall₂ (fun file path => start.Occurs events (Resolves g file path)) files
      (index.entries.map (·.path)) := by
  rw [List.forall₂_map_right_iff]
  exact gathered.collected.imp fun _ _ occurs => occurs.imp fun _ _ collects => collects.resolves

theorem Gathered.consistent_iff (gathered : start.Gathered events g files index) :
    index.Consistent ↔ (index.entries.map (·.path)).Nodup := by
  have same := Index.consistent_ofEntries_iff (g := g) gathered.distinct
  rwa [← gathered.whole] at same

/-! ## Files that stay as they are -/

/-- A listing names the files of the documents from the root on. -/
theorem listing_eq_ok (listed : s.listing = .ok files) :
    ∃ found, Files.listDocuments s.tree s.root = .ok found ∧ files = found.map (s.root ++ ·) := by
  unfold listing at listed
  cases names : Files.listDocuments s.tree s.root with
  | error f => simp [names, Except.map] at listed
  | ok found =>
      rw [names] at listed
      exact ⟨found, rfl, (Except.ok.inj listed).symm⟩

/-- Files that one tree lists lead to different paths in it. -/
theorem nodup_of_resolved {tree : Files.Tree} {paths : List Files.Path}
    (distinct : (Association.keys tree.nodes).Nodup) (same : s.tree = tree)
    (listed : s.listing = .ok files)
    (resolved : List.Forall₂ (fun file path => Files.resolve tree file = .ok path) files paths) :
    paths.Nodup := by
  obtain ⟨found, names, rfl⟩ := listing_eq_ok listed
  rw [same] at names
  have once : (found.map (s.root ++ ·)).Nodup :=
    (Files.nodup_listDocuments distinct names).map fun a b => List.append_cancel_left
  have among := (List.forall₂_and_left (p := (· ∈ found.map (s.root ++ ·))) _ _).2
    ⟨fun _ member => member, resolved⟩
  refine (List.rel_nodup ⟨?_, ?_⟩ among).1 once
  · rintro a path b ⟨memberA, leadsA⟩ ⟨memberB, leadsB⟩
    obtain ⟨first, inA, rfl⟩ := List.mem_map.1 memberA
    obtain ⟨second, inB, rfl⟩ := List.mem_map.1 memberB
    rw [Files.resolve_injective distinct names inA inB leadsA leadsB]
  · rintro a path other ⟨_, leads⟩ ⟨_, leadsOther⟩
    exact Except.ok.inj (leads.symm.trans leadsOther)

/-- What a rebuild collects out of one tree has its views agree. -/
theorem Gathered.consistent (gathered : start.Gathered events g files index)
    (listed : start.Occurs events (Lists g files)) {tree : Files.Tree}
    (distinct : (Association.keys tree.nodes).Nodup) (finds : start.FindsTree events g tree) :
    index.Consistent := by
  rw [gathered.consistent_iff]
  obtain ⟨before, e, after, split, lists⟩ := listed
  refine nodup_of_resolved distinct (finds before e after split (.inl ⟨files, lists⟩)) lists.2.2 ?_
  refine gathered.resolved.imp ?_
  rintro file path ⟨before, e, after, split, resolves⟩
  rw [← finds before e after split (.inr ⟨file, path, resolves⟩)]
  exact resolves.2.2

/-! ## The live index -/

theorem index_of_generation_zero (root : Files.Path) (tree : Files.Tree) (events : List Event)
    (none : ((Session.start root tree).run events).registry.index.generation = 0) :
    ((Session.start root tree).run events).registry.index = {} := by
  induction events using List.reverseRecOn with
  | nil => rfl
  | append_singleton events e ih =>
      rw [run_concat] at none ⊢
      rcases index_cases (step_move ((Session.start root tree).run events) e) with
        kept | ⟨g, index, _, later, replaced, _⟩
      · rw [kept] at none ⊢
        exact ih none
      · rw [replaced] at none
        omega

/-- The live index holds the entries of one list, whose ids are all different. -/
theorem live_eq_ofEntries (root : Files.Path) (tree : Files.Tree) (events : List Event) :
    let live := ((Session.start root tree).run events).registry.index
    live = Index.ofEntries live.generation live.entries ∧ (live.entries.map (·.id)).Nodup := by
  intro live
  rcases Nat.eq_zero_or_pos live.generation with none | positive
  · have fresh : live = {} := index_of_generation_zero root tree events none
    rw [fresh]
    exact ⟨rfl, List.nodup_nil⟩
  · obtain ⟨files, _, gathered⟩ := (traced_run root tree events).live positive
    exact ⟨gathered.whole, gathered.distinct⟩

/-- Each entry that is live is under its id, and all that the view by path holds is an entry by id
under its path. The views agree exactly when no two entries that are live have one path, and the
check of an index tells whether they do. The paths are what the files that the rebuild listed led to,
each in the step in which the rebuild got its document. So the views agree if the rebuild found one
tree in all these steps. -/
theorem live_consistent_iff_distinct_paths (root : Files.Path) (tree : Files.Tree)
    (events : List Event) :
    let start := Session.start root tree
    let live := (start.run events).registry.index
    let paths := live.entries.map (·.path)
    (∀ id entry, (id, entry) ∈ live.byId → entry.id = id) ∧
    (∀ path entry, (path, entry) ∈ live.byPath →
      entry.path = path ∧ live.byId.get? entry.id = some entry) ∧
    live.byPath.length ≤ live.byId.length ∧
    (live.Consistent ↔ paths.Nodup) ∧
    (live.isConsistent = true ↔ live.Consistent) ∧
    (live.generation = 0 → live.Consistent) ∧
    (0 < live.generation →
      (∃ files, start.Occurs events (Lists live.generation files) ∧
        List.Forall₂ (fun file path => start.Occurs events (Resolves live.generation file path))
          files paths) ∧
      ∀ still : Files.Tree, (Association.keys still.nodes).Nodup →
        start.FindsTree events live.generation still → live.Consistent) := by
  intro start live paths
  have filled := live_eq_ofEntries root tree events
  obtain ⟨whole, ids⟩ : live = Index.ofEntries live.generation live.entries ∧ _ := filled
  have agree : live.Consistent ↔ paths.Nodup := by
    rw [whole]
    exact Index.consistent_ofEntries_iff ids
  refine ⟨?_, ?_, ?_, agree, ?_, ?_, ?_⟩
  · intro id entry member
    rw [whole] at member
    exact ((Index.byId_ofEntries _ _).1 member).2
  · intro path entry member
    rw [whole] at member ⊢
    exact Index.byPath_ofEntries ids member
  · rw [whole]
    simpa [Index.ofEntries] using Index.length_filed_le live.entries
  · rw [whole]
    exact Index.isConsistent_ofEntries_iff ids
  · intro none
    have fresh : live = {} := index_of_generation_zero root tree events none
    have noPaths : paths = [] := by
      simp only [paths, fresh]
      rfl
    rw [agree, noPaths]
    exact List.nodup_nil
  · intro positive
    obtain ⟨files, listed, gathered⟩ := (traced_run root tree events).live positive
    refine ⟨⟨files, listed, gathered.resolved⟩, ?_⟩
    intro still distinct finds
    exact gathered.consistent listed distinct finds

/-! ### Views that disagree -/

def twoPages : Files.Tree := { nodes := [(["a.html"], .file []), (["b.html"], .file [])] }

/-- The first page is a link to the second. -/
def linkedPages : Files.Tree :=
  { nodes := [(["a.html"], .link "b.html"), (["b.html"], .file [])] }

def blankDocument (path : Files.Path) : Document where
  environment := .ofDocuments
  template := { name := none, statements := [], blocks := [], mayExtend := false }
  path
  root := []
  css := none
  id := none
  previewProps := []

/-- A refresh during which a link takes the place of a page that has been listed. -/
def linkingRefresh : List Event :=
  [.call .refresh, .list 1, .proceed 1, .change linkedPages,
    .compiled 1 (.ok (blankDocument ["a.html"])), .compiled 1 (.ok (blankDocument ["b.html"]))]

theorem listing_twoPages (registry : Registry) (rebuilds : List Rebuild) (callers : List Caller) :
    Session.listing { root := [], tree := twoPages, registry, rebuilds, callers } =
      .ok [["a.html"], ["b.html"]] := by
  have short : ∀ here ∈ Files.searched twoPages [], Files.isOverlong ([] ++ here) = false := by
    decide
  have found : Files.documentsBelow twoPages [] = [["a.html"], ["b.html"]] := by decide
  have ordered : [["a.html"], ["b.html"]].mergeSort Files.isBefore = [["a.html"], ["b.html"]] :=
    List.mergeSort_of_pairwise (by decide)
  have listed := Files.searchDocuments_eq (.ofNodes twoPages) rfl rfl short
  simp [Session.listing, Files.listDocuments, listed, found, ordered, Except.map]

theorem linkingRefresh_hides_an_entry :
    let index := ((Session.start [] twoPages).run linkingRefresh).registry.index
    index.generation = 1 ∧ index.ids = ["a", "b"] ∧ index.byPath.keys = [["b.html"]] ∧
      ¬index.Consistent := by
  have listed : (Session.start [] twoPages).run (linkingRefresh.take 2) =
      { root := [], tree := twoPages, registry := Registry.start {}
        rebuilds := [{ generation := 1, progress := .listed (.ok [["a.html"], ["b.html"]]) }]
        callers := [{ request := .refresh, standing := .waiting 1 }] } := by
    have opened := listing_twoPages (Registry.start {}) [{ generation := 1 }]
      [{ request := .refresh, standing := .waiting 1 }]
    rw [← opened]
    rfl
  have collected : ((Session.start [] twoPages).run linkingRefresh).registry.index =
      Index.ofEntries 1
        [⟨"a", "b.html", ["b.html"], blankDocument ["a.html"]⟩,
          ⟨"b", "b.html", ["b.html"], blankDocument ["b.html"]⟩] := by
    rw [← List.take_append_drop 2 linkingRefresh, run_append, listed]
    rfl
  intro index
  rw [show index = _ from collected]
  refine ⟨rfl, rfl, rfl, ?_⟩
  rw [Index.consistent_ofEntries_iff (by decide)]
  decide

end Session
end DocumentServer
