import DocumentServer.Proofs.Registry.Soundness
import DocumentServer.Proofs.Registry.Views
import Mathlib.Data.List.Forall2

/-!
Where an index comes from. In a run that began with an empty session, all that is live was collected
by one rebuild, from the files that it listed in one step and compiled in others.
-/
namespace DocumentServer.Session

variable {start s t : Session} {events : List Event} {e : Event} {g : Nat}

/-! ## Steps of a run -/

/-- Some step of a run is of a kind, told by the session before it and its event. -/
def Occurs (start : Session) (events : List Event) (kind : Session → Event → Prop) : Prop :=
  ∃ before e after, events = before ++ e :: after ∧ kind (start.run before) e

/-- A rebuild has these files listed. -/
def Lists (g : Nat) (files : List Files.Path) (s : Session) (e : Event) : Prop :=
  e = .list g ∧ s.progress? g = some .scheduled ∧ s.listing = .ok files

/-- A rebuild gets the document of the file that it waits for. Its path is what the file leads to in
this step. -/
def Collects (g : Nat) (file : Files.Path) (entry : Entry) (s : Session) (e : Event) : Prop :=
  ∃ document, e = .compiled g (.ok document) ∧
    (∃ collected call rest, s.progress? g = some (.compiling collected call file rest)) ∧
    Entry.ofDocument s.tree s.root file document = .ok entry

/-- An index holds just what a rebuild collected in a run, one entry for each of some files. -/
structure Gathered (start : Session) (events : List Event) (g : Nat) (files : List Files.Path)
    (index : Index) : Prop where
  whole : index = Index.ofEntries g index.entries
  distinct : (index.entries.map (·.id)).Nodup
  collected : List.Forall₂ (fun file entry => start.Occurs events (Collects g file entry)) files
    index.entries

/-- An index is the whole work of the rebuild of its generation. -/
def Built (start : Session) (events : List Event) (index : Index) : Prop :=
  ∃ files, start.Occurs events (Lists index.generation files) ∧
    start.Gathered events index.generation files index

theorem run_append (s : Session) (first second : List Event) :
    s.run (first ++ second) = (s.run first).run second := List.foldl_append

theorem run_concat (s : Session) (events : List Event) (e : Event) :
    s.run (events ++ [e]) = (s.run events).step e := by
  rw [run_append]
  rfl

theorem Occurs.append {kind : Session → Event → Prop} (occurs : start.Occurs events kind)
    (more : List Event) : start.Occurs (events ++ more) kind := by
  obtain ⟨before, e, after, rfl, holds⟩ := occurs
  exact ⟨before, e, after ++ more, by simp, holds⟩

theorem Occurs.last {kind : Session → Event → Prop} (holds : kind (start.run events) e) :
    start.Occurs (events ++ [e]) kind := ⟨events, e, [], rfl, holds⟩

theorem Gathered.append {files : List Files.Path} {index : Index}
    (gathered : start.Gathered events g files index) (more : List Event) :
    start.Gathered (events ++ more) g files index where
  whole := gathered.whole
  distinct := gathered.distinct
  collected := gathered.collected.imp fun _ _ occurs => occurs.append more

theorem Built.append {index : Index} (built : start.Built events index) (more : List Event) :
    start.Built (events ++ more) index := by
  obtain ⟨files, listed, gathered⟩ := built
  exact ⟨files, listed.append more, gathered.append more⟩

/-! ## What rebuilds have at hand -/

theorem Advances.listed {p : Progress} {found : Except Fault (List Files.Path)}
    (advances : Advances s g e p (.listed found)) :
    e = .list g ∧ p = .scheduled ∧ s.listing = found := by
  cases advances
  exact ⟨rfl, rfl, rfl⟩

theorem gathered_nil (start : Session) (events : List Event) (g : Nat) :
    start.Gathered events g [] { generation := g } where
  whole := rfl
  distinct := List.nodup_nil
  collected := .nil

/-- The entry of the file that a rebuild waits for joins those it has. -/
theorem Gathered.collect {files rest : List Files.Path} {file : Files.Path} {call : Nat}
    {collected more : Index} {result : Except Failure Document}
    (gathered : start.Gathered events g files collected)
    (found : (start.run events).progress? g = some (.compiling collected call file rest))
    (joined : (start.run events).collect collected file result = .ok more) :
    start.Gathered (events ++ [.compiled g result]) g (files ++ [file]) more := by
  obtain ⟨document, entry, rfl, named, added⟩ := collect_ok joined
  rw [gathered.whole] at added
  obtain ⟨rfl, fresh⟩ := Index.add_ofEntries added
  refine ⟨by rw [Index.entries_ofEntries], ?_, ?_⟩
  · rw [Index.entries_ofEntries, List.map_append, List.nodup_append]
    refine ⟨gathered.distinct, List.nodup_singleton _, ?_⟩
    rintro id before other last rfl
    have same : id = entry.id := List.mem_singleton.1 last
    exact fresh (same ▸ before)
  · rw [Index.entries_ofEntries]
    exact List.rel_append (gathered.append _).collected
      (.cons (.last ⟨document, rfl, ⟨collected, call, rest, found⟩, named⟩) .nil)

/-- Each rebuild of a run works on files that it listed in the run, and each index that came of one
is all its work. -/
structure Traced (start : Session) (events : List Event) : Prop where
  listed : ∀ {g files}, (start.run events).progress? g = some (.listed (.ok files)) →
    start.Occurs events (Lists g files)
  compiling : ∀ {g collected call file rest},
    (start.run events).progress? g = some (.compiling collected call file rest) →
    ∃ past, start.Occurs events (Lists g (past ++ file :: rest)) ∧
      start.Gathered events g past collected
  live : 0 < (start.run events).registry.index.generation →
    start.Built events (start.run events).registry.index
  done : ∀ {g index}, (start.run events).outcome? g = some (.done index) → start.Built events index

namespace Traced

theorem nil (root : Files.Path) (tree : Files.Tree) : (Session.start root tree).Traced [] where
  listed := by
    intro g files found
    cases found
  compiling := by
    intro g collected call file rest found
    cases found
  live := by
    intro positive
    cases positive
  done := by
    intro g index told
    cases told

/-- A rebuild that completes has collected an entry for every file that it listed. -/
theorem completes (traced : start.Traced events) (sound : (start.run events).Sound)
    {index : Index} (completes : (start.run events).Completes g e index) :
    start.Built (events ++ [e]) index := by
  have own := sound.completes_generation completes
  rw [Built, own]
  cases completes with
  | empty found => exact ⟨[], (traced.listed found).append _, gathered_nil _ _ _⟩
  | last found joined =>
      obtain ⟨past, listed, gathered⟩ := traced.compiling found
      exact ⟨past ++ [_], listed.append _, gathered.collect found joined⟩

theorem listed_concat (traced : start.Traced events) {files : List Files.Path}
    (found : (start.run (events ++ [e])).progress? g = some (.listed (.ok files))) :
    start.Occurs (events ++ [e]) (Lists g files) := by
  rw [run_concat] at found
  rcases progress?_cases (step_move _ e) found trivial with
    before | ⟨_, fresh⟩ | ⟨q, before, advances⟩
  · exact (traced.listed before).append _
  · cases fresh
  · obtain ⟨rfl, rfl, names⟩ := advances.listed
    exact .last ⟨rfl, before, names⟩

theorem compiling_concat (traced : start.Traced events) {collected : Index} {call : Nat}
    {file : Files.Path} {rest : List Files.Path}
    (found : (start.run (events ++ [e])).progress? g =
      some (.compiling collected call file rest)) :
    ∃ past, start.Occurs (events ++ [e]) (Lists g (past ++ file :: rest)) ∧
      start.Gathered (events ++ [e]) g past collected := by
  rw [run_concat] at found
  rcases progress?_cases (step_move _ e) found trivial with
    before | ⟨_, fresh⟩ | ⟨q, before, advances⟩
  · obtain ⟨past, listed, gathered⟩ := traced.compiling before
    exact ⟨past, listed.append _, gathered.append _⟩
  · cases fresh
  · cases advances with
    | first => exact ⟨[], (traced.listed before).append _, gathered_nil _ _ _⟩
    | next joined =>
        obtain ⟨past, listed, gathered⟩ := traced.compiling before
        refine ⟨past ++ [_], ?_, gathered.collect before joined⟩
        simpa only [List.append_assoc, List.singleton_append] using listed.append _

theorem live_concat (traced : start.Traced events) (sound : (start.run events).Sound)
    (positive : 0 < (start.run (events ++ [e])).registry.index.generation) :
    start.Built (events ++ [e]) (start.run (events ++ [e])).registry.index := by
  rw [run_concat] at positive ⊢
  rcases index_cases (step_move (start.run events) e) with
    kept | ⟨g, index, completes, _, replaced, _⟩
  · rw [kept] at positive ⊢
    exact (traced.live positive).append _
  · rw [replaced]
    exact traced.completes sound completes

theorem done_concat (traced : start.Traced events) (sound : (start.run events).Sound)
    {index : Index} (told : (start.run (events ++ [e])).outcome? g = some (.done index)) :
    start.Built (events ++ [e]) index := by
  rw [run_concat] at told
  rcases outcome?_cases (step_move _ e) told with before | ⟨_, _, _, same⟩ | aborts
  · exact (traced.done before).append _
  · have positive := (sound.step e).live_of_done told
    obtain rfl := Outcome.done.inj same
    rw [← run_concat] at positive ⊢
    exact traced.live_concat sound positive
  · exact absurd rfl (aborts.not_done index)

theorem concat (traced : start.Traced events) (sound : (start.run events).Sound) (e : Event) :
    start.Traced (events ++ [e]) where
  listed := traced.listed_concat
  compiling := traced.compiling_concat
  live := traced.live_concat sound
  done := traced.done_concat sound

end Traced

/-- Every run from the start is traced. -/
theorem traced_run (root : Files.Path) (tree : Files.Tree) (events : List Event) :
    (Session.start root tree).Traced events := by
  induction events using List.reverseRecOn with
  | nil => exact .nil root tree
  | append_singleton events e ih => exact ih.concat (sound_run root tree events) e

end DocumentServer.Session
