import DocumentServer.Proofs.Association
import DocumentServer.Registry.Basic
import Mathlib.Data.List.Induction

/-!
The two views of an index. A rebuild fills both with one entry after the other; they agree exactly
when no two entries have one path.
-/
namespace DocumentServer.Index

/-- Entries under their paths; of several with one path the last one stays. -/
def filed (entries : List Entry) : Association Files.Path Entry :=
  entries.foldl (fun filed entry => filed.put entry.path entry) []

/-- The index of a generation that holds entries in an order. -/
def ofEntries (generation : Nat) (entries : List Entry) : Index where
  byId := entries.map fun entry => (entry.id, entry)
  byPath := filed entries
  generation := generation

/-- Both views hold the same entries, each under its id and under its path. -/
structure Consistent (index : Index) : Prop where
  sameSize : index.byId.length = index.byPath.length
  byId : ∀ id entry, (id, entry) ∈ index.byId →
    entry.id = id ∧ index.byPath.get? entry.path = some entry
  byPath : ∀ path entry, (path, entry) ∈ index.byPath →
    entry.path = path ∧ index.byId.get? entry.id = some entry

variable {g : Nat} {entries : List Entry} {entry : Entry}

@[simp] theorem entries_ofEntries (g : Nat) (entries : List Entry) :
    (ofEntries g entries).entries = entries := by
  simp [Index.entries, ofEntries, Association.values, Function.comp_def]

theorem keys_byId (g : Nat) (entries : List Entry) :
    Association.keys (ofEntries g entries).byId = entries.map (·.id) := by
  simp [ofEntries, Association.keys, Function.comp_def]

theorem filed_concat (entries : List Entry) (entry : Entry) :
    filed (entries ++ [entry]) = (filed entries).put entry.path entry := by
  simp only [filed, List.foldl_append, List.foldl_cons, List.foldl_nil]

/-- Adding an entry of a new id puts it behind the others; nothing else can be added. -/
theorem add_ofEntries {added : Index} (gathered : (ofEntries g entries).add entry = .ok added) :
    added = ofEntries g (entries ++ [entry]) ∧ entry.id ∉ entries.map (·.id) := by
  unfold add at gathered
  split at gathered
  · cases gathered
  · next absent =>
      rw [Association.get?_eq_none_iff, keys_byId] at absent
      cases gathered
      refine ⟨?_, absent⟩
      have ids : (ofEntries g entries).byId.put entry.id entry =
          (ofEntries g (entries ++ [entry])).byId := by
        rw [Association.put_of_absent (by rwa [keys_byId])]
        simp [ofEntries]
      simp only [ids]
      simp [ofEntries, filed_concat]

/-! ## The view by path -/

theorem nodup_keys_filed (entries : List Entry) : (Association.keys (filed entries)).Nodup := by
  induction entries using List.reverseRecOn with
  | nil => exact List.nodup_nil
  | append_singleton entries entry ih =>
      rw [filed_concat]
      exact Association.nodup_keys_put ih _ _

theorem mem_filed {path : Files.Path} (member : (path, entry) ∈ filed entries) :
    entry ∈ entries ∧ entry.path = path := by
  induction entries using List.reverseRecOn with
  | nil => cases member
  | append_singleton entries last ih =>
      rw [filed_concat] at member
      rcases Association.mem_put member with before | ⟨rfl, rfl⟩
      · exact (ih before).imp_left (List.mem_append_left _)
      · exact ⟨List.mem_append_right _ (List.mem_singleton_self _), rfl⟩

theorem length_filed_le (entries : List Entry) : (filed entries).length ≤ entries.length := by
  induction entries using List.reverseRecOn with
  | nil => exact Nat.le_refl _
  | append_singleton entries last ih =>
      rw [filed_concat, List.length_append, List.length_singleton]
      exact Nat.le_trans (Association.length_put_le _ _ _) (Nat.succ_le_succ ih)

/-- Entries of different paths are filed as they come. -/
theorem filed_of_nodup (distinct : (entries.map (·.path)).Nodup) :
    filed entries = entries.map fun entry => (entry.path, entry) := by
  induction entries using List.reverseRecOn with
  | nil => rfl
  | append_singleton entries last ih =>
      rw [List.map_append, List.nodup_append] at distinct
      have absent : last.path ∉ Association.keys (filed entries) := by
        rw [ih distinct.1]
        intro present
        refine distinct.2.2 last.path ?_ last.path (by simp) rfl
        simpa [Association.keys, Function.comp_def] using present
      rw [filed_concat, Association.put_of_absent absent, ih distinct.1]
      simp

/-! ## Agreement of the views -/

theorem byId_ofEntries (id : String) (entry : Entry) :
    (id, entry) ∈ (ofEntries g entries).byId ↔ entry ∈ entries ∧ entry.id = id := by
  simp only [ofEntries, List.mem_map, Prod.mk.injEq]
  constructor
  · rintro ⟨found, member, same, rfl⟩
    exact ⟨member, same⟩
  · rintro ⟨member, same⟩
    exact ⟨entry, member, same, rfl⟩

/-- All entries by path are entries by id, each in its place. -/
theorem byPath_ofEntries (ids : (entries.map (·.id)).Nodup) {path : Files.Path}
    (member : (path, entry) ∈ (ofEntries g entries).byPath) :
    entry.path = path ∧ (ofEntries g entries).byId.get? entry.id = some entry := by
  obtain ⟨kept, same⟩ := mem_filed member
  refine ⟨same, Association.get?_of_mem ?_ ((byId_ofEntries _ _).2 ⟨kept, rfl⟩)⟩
  rwa [keys_byId]

theorem Consistent.isConsistent {index : Index} (consistent : index.Consistent) :
    index.isConsistent = true := by
  simp only [Index.isConsistent, Bool.and_eq_true, beq_iff_eq, List.all_eq_true, Prod.forall]
  refine ⟨⟨consistent.sameSize, ?_⟩, ?_⟩
  · intro id entry member
    obtain ⟨same, found⟩ := consistent.byId id entry member
    simp [found, same]
  · intro path entry member
    obtain ⟨same, found⟩ := consistent.byPath path entry member
    simp [found, same]

/-- Where the check holds, entries of one path have one id, so they are the same. -/
theorem nodup_paths_of_isConsistent (ids : (entries.map (·.id)).Nodup)
    (checked : (ofEntries g entries).isConsistent = true) : (entries.map (·.path)).Nodup := by
  simp only [Index.isConsistent, Bool.and_eq_true, List.all_eq_true, Prod.forall] at checked
  have filedAt : ∀ entry ∈ entries,
      ∃ found, (ofEntries g entries).byPath.get? entry.path = some found ∧ found.id = entry.id := by
    intro entry member
    have held := (checked.1.2 entry.id entry ((byId_ofEntries _ _).2 ⟨member, rfl⟩)).2
    obtain ⟨found, here, same⟩ := (Option.any_eq_true _ _).1 held
    exact ⟨found, here, eq_of_beq same⟩
  refine List.Nodup.map_on ?_ ids.of_map
  intro a first b second same
  obtain ⟨found, foundA, idA⟩ := filedAt a first
  obtain ⟨other, foundB, idB⟩ := filedAt b second
  rw [same, foundB] at foundA
  obtain rfl := Option.some.inj foundA
  exact List.inj_on_of_nodup_map ids first second (idA.symm.trans idB)

/-- The views agree exactly when no two entries have one path. -/
theorem consistent_ofEntries_iff (ids : (entries.map (·.id)).Nodup) :
    (ofEntries g entries).Consistent ↔ (entries.map (·.path)).Nodup := by
  constructor
  · intro consistent
    exact nodup_paths_of_isConsistent ids consistent.isConsistent
  · intro paths
    refine ⟨?_, ?_, fun path entry member => byPath_ofEntries ids member⟩
    · simp [ofEntries, filed_of_nodup paths]
    · intro id entry member
      obtain ⟨kept, same⟩ := (byId_ofEntries _ _).1 member
      refine ⟨same, Association.get?_of_mem (nodup_keys_filed entries) ?_⟩
      change (entry.path, entry) ∈ filed entries
      rw [filed_of_nodup paths]
      exact List.mem_map.2 ⟨entry, kept, rfl⟩

/-- The check sees all disagreements of the views. -/
theorem isConsistent_ofEntries_iff (ids : (entries.map (·.id)).Nodup) :
    (ofEntries g entries).isConsistent = true ↔ (ofEntries g entries).Consistent := by
  constructor
  · intro checked
    rw [consistent_ofEntries_iff ids]
    exact nodup_paths_of_isConsistent ids checked
  · exact Consistent.isConsistent

end DocumentServer.Index
