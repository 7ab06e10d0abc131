import DocumentServer.Proofs.Registry.Rebuilding
import DocumentServer.Proofs.Registry.Views
import Mathlib.Data.List.Forall2

/-!
What populates a registry. A rebuild that nothing comes between succeeds exactly if the files can be
listed, each of them has an entry, and no two entries have one id; its index holds these entries.
-/
namespace DocumentServer

/-- An entry of a new id can be added. -/
theorem Index.add_fresh {g : Nat} {entries : List Entry} {entry : Entry}
    (fresh : entry.id ∉ entries.map (·.id)) :
    (ofEntries g entries).add entry = .ok (ofEntries g (entries ++ [entry])) := by
  have absent : (ofEntries g entries).byId.get? entry.id = none := by
    rwa [Association.get?_eq_none_iff, keys_byId]
  cases added : (ofEntries g entries).add entry with
  | ok index => rw [(add_ofEntries added).1]
  | error failure =>
      rw [add, absent] at added
      cases added

namespace Session

variable {s : Session} {compile : Files.Tree → Files.Path → Except Failure Document}

/-- The entry of a file as it is now. -/
def entryOf (s : Session) (compile : Files.Tree → Files.Path → Except Failure Document)
    (file : Files.Path) : Except Failure Entry := do
  let document ← compile s.tree file
  (Entry.ofDocument s.tree s.root file document).mapError .fault

theorem entryOf_eq_ok {file : Files.Path} {entry : Entry} :
    s.entryOf compile file = .ok entry ↔ ∃ document, compile s.tree file = .ok document ∧
      Entry.ofDocument s.tree s.root file document = .ok entry := by
  simp only [entryOf, bind_eq_ok, mapError_eq_ok]

theorem collect_eq (s : Session) (collected : Index) (file : Files.Path) :
    s.collect collected file (compile s.tree file) = s.entryOf compile file >>= collected.add := by
  rw [collect, entryOf]
  cases compile s.tree file <;> rfl

/-- Entries are gathered behind those that are there, all under ids of their own. -/
theorem gather_eq_ok {g : Nat} {files : List Files.Path} {before : List Entry} {index : Index}
    (distinct : (before.map (·.id)).Nodup) :
    s.gather compile (.ofEntries g before) files = .ok index ↔
      ∃ entries, List.Forall₂ (fun file entry => s.entryOf compile file = .ok entry) files entries ∧
        ((before ++ entries).map (·.id)).Nodup ∧ index = .ofEntries g (before ++ entries) := by
  induction files generalizing before with
  | nil =>
      constructor
      · intro gathered
        cases gathered
        exact ⟨[], .nil, by simpa using distinct, by simp⟩
      · rintro ⟨entries, made, _, rfl⟩
        cases made
        rw [List.append_nil]
        rfl
  | cons file rest ih =>
      rw [gather, List.foldlM_cons, bind_eq_ok]
      constructor
      · rintro ⟨more, joined, later⟩
        rw [collect_eq] at joined
        obtain ⟨entry, made, added⟩ := bind_eq_ok.1 joined
        obtain ⟨rfl, fresh⟩ := Index.add_ofEntries added
        have longer : ((before ++ [entry]).map (·.id)).Nodup := by
          rw [List.map_append, List.map_singleton, ← List.concat_eq_append]
          exact distinct.concat fresh
        obtain ⟨entries, others, ids, rfl⟩ := (ih longer).1 later
        rw [List.append_assoc, List.singleton_append] at ids
        exact ⟨entry :: entries, .cons made others, ids, by simp⟩
      · rintro ⟨entries, made, ids, rfl⟩
        obtain ⟨entry, others, first, later, rfl⟩ := List.forall₂_cons_left_iff.1 made
        rw [← List.singleton_append, ← List.append_assoc] at ids
        have longer : ((before ++ [entry]).map (·.id)).Nodup := by
          rw [List.map_append] at ids
          exact (List.nodup_append.1 ids).1
        have fresh : entry.id ∉ before.map (·.id) := by
          rw [List.map_append, List.nodup_append] at longer
          intro taken
          exact longer.2.2 _ taken _ (by simp) rfl
        refine ⟨.ofEntries g (before ++ [entry]), ?_, ?_⟩
        · rw [collect_eq, first, ok_bind, Index.add_fresh fresh]
        · exact (ih longer).2 ⟨others, later, ids, by simp⟩

theorem rebuilt_eq_ok {g : Nat} {index : Index} :
    s.rebuilt g compile = .ok index ↔
      ∃ files entries, s.listing = .ok files ∧
        List.Forall₂ (fun file entry => s.entryOf compile file = .ok entry) files entries ∧
        (entries.map (·.id)).Nodup ∧ index = .ofEntries g entries := by
  unfold rebuilt
  cases s.listing with
  | ok files =>
      refine (@gather_eq_ok s compile g files [] index List.nodup_nil).trans ?_
      constructor
      · rintro ⟨entries, made, ids, same⟩
        exact ⟨files, entries, rfl, made, ids, same⟩
      · rintro ⟨_, entries, listed, made, ids, same⟩
        cases listed
        exact ⟨entries, made, ids, same⟩
  | error fault =>
      constructor
      · intro made
        cases made
      · rintro ⟨_, _, listed, _⟩
        cases listed

/-- The first question populates a registry exactly if its rebuild succeeds, and then what that made
is live. -/
theorem populated_iff (root : Files.Path) (tree : Files.Tree) (question : Request) :
    let first := Session.start root tree
    let asked := (first.ask (.prompt compile) question).2
    (asked.registry.phase = .populated ↔ ∃ index, first.rebuilt 1 compile = .ok index) ∧
      ∀ index, first.rebuilt 1 compile = .ok index → asked.registry.index = index := by
  intro first asked
  have sound := Sound.start root tree
  have idle : first.Idle := by
    intro g p found
    cases found
  have needs : question = .refresh ∨ first.registry.phase ≠ .populated := .inr nofun
  cases made : first.rebuilt 1 compile with
  | ok index =>
      obtain ⟨_, _, _, registry, _⟩ := ask_made sound idle needs made
      have live : asked.registry = { index, phase := .populated, generation := 1 } := registry
      refine ⟨⟨fun _ => ⟨index, rfl⟩, fun _ => by rw [live]⟩, ?_⟩
      rintro _ ⟨⟩
      rw [live]
  | error failure =>
      obtain ⟨_, _, _, kept, _⟩ := ask_failed sound idle needs made
      have rests : asked.registry.index.generation = 0 := by
        change asked.registry.index = _ at kept
        rw [kept]
        rfl
      have proper : asked.registry.phase = asked.registry.properPhase := by
        obtain ⟨events, same⟩ := ask_run (.prompt compile) first question
        have reached : asked = first.run events := same
        rw [reached]
        exact (sound_run root tree events).phase
      refine ⟨⟨fun populated => ?_, nofun⟩, nofun⟩
      rw [proper, Registry.properPhase_eq_populated_iff, rests] at populated
      cases populated

end Session
end DocumentServer
