import DocumentServer.Proofs.Files.Slug
import DocumentServer.Proofs.Registry.Consistency
import DocumentServer.Proofs.Registry.Populating

/-!
Where a rebuild has to stop. It compiles the listed files one after the other, and stops at the first
that does not compile or whose id an earlier one has; the files before it all have entries.
-/
namespace DocumentServer

/-- The entry of a file that lies below a root. -/
def Entry.below (tree : Files.Tree) (root file : Files.Path) (document : Document) : Entry where
  id := idOf (root ++ file) document
  slug := Files.relativeText file
  path := Files.leadsTo tree root ++ file
  document := document

variable {tree : Files.Tree} {root file : Files.Path} {files past rest : List Files.Path}
  {compile : Files.Path → Except Failure Document} {document : Document} {entries : List Entry}
  {failure : Failure}

theorem Entry.ofDocument_listed (proper : tree.Proper)
    (listed : Files.listDocuments tree root = .ok files) (member : file ∈ files)
    (document : Document) :
    Entry.ofDocument tree root (root ++ file) document = .ok (.below tree root file document) := by
  obtain ⟨top, here⟩ := Files.resolve_listed proper listed member
  rcases Files.listDocuments_cases listed with rfl | ⟨folder, _, same⟩
  · cases member
  have inside : Files.below? (Files.leadsTo tree root) (Files.leadsTo tree root ++ file) =
      some file := by
    simp [Files.below?, Files.isInside, List.isPrefixOf_iff_prefix]
  rw [Entry.ofDocument, here, top]
  simp only [ok_bind, Entry.slugOf, inside]
  rfl

/-! ## Ids -/

/-- What a document is known under: the id that it declares, or else the name of its file up to the first
dot. An empty id counts as none. -/
inductive GoesUnder (file : Files.Path) (document : Document) (id : String) : Prop
  | declared : document.id = some id → id ≠ "" → GoesUnder file document id
  | named : (∀ declared, document.id = some declared → declared = "") → '.' ∉ id.toList →
      (Files.nameOf file = id ∨ ∃ ending, Files.nameOf file = id ++ "." ++ ending) →
      GoesUnder file document id

/-- It is the id of the entry. -/
theorem goesUnder_iff {id : String} : GoesUnder file document id ↔ Entry.idOf file document = id := by
  unfold Entry.idOf
  constructor
  · rintro (⟨told, nonempty⟩ | ⟨none, plain, name⟩)
    · rw [told]
      exact if_neg (by simpa using nonempty)
    · have stem := Files.stem_eq_iff.2 ⟨plain, name⟩
      cases told : document.id with
      | none => exact stem
      | some declared =>
          cases none declared told
          exact stem
  · intro same
    cases told : document.id with
    | none =>
        rw [told] at same
        obtain ⟨plain, name⟩ := Files.stem_eq_iff.1 same
        exact .named (fun _ there => by rw [told] at there; cases there) plain name
    | some declared =>
        rw [told] at same
        dsimp only at same
        split at same
        · next empty =>
            obtain ⟨plain, name⟩ := Files.stem_eq_iff.1 same
            refine .named (fun _ there => ?_) plain name
            rw [told] at there
            cases there
            simpa using empty
        · next some =>
            subst same
            exact .declared told (by simpa using some)

theorem GoesUnder.unique {a b : String} (one : GoesUnder file document a)
    (two : GoesUnder file document b) : a = b :=
  (goesUnder_iff.1 one).symm.trans (goesUnder_iff.1 two)

/-! ## Files that a rebuild stops at -/

/-- A rebuild has to stop at a file that does not compile, and at one whose id an earlier file has. -/
inductive Stops (root : Files.Path) (compile : Files.Path → Except Failure Document)
    (files : List Files.Path) : Nat → Failure → Prop
  | uncompiled {k : Nat} {file : Files.Path} {failure : Failure} : files[k]? = some file →
      compile (root ++ file) = .error failure → Stops root compile files k failure
  | taken {j k : Nat} {earlier file : Files.Path} {first second : Document} {id : String} : j < k →
      files[j]? = some earlier → files[k]? = some file →
      compile (root ++ earlier) = .ok first → compile (root ++ file) = .ok second →
      GoesUnder (root ++ earlier) first id → GoesUnder (root ++ file) second id →
      Stops root compile files k
        (.duplicate id (Files.relativeText earlier) (Files.relativeText file))

/-- Entries were made of files, one of each and in their order, and no two have one id. -/
structure Filled (tree : Files.Tree) (root : Files.Path)
    (compile : Files.Path → Except Failure Document) (files : List Files.Path)
    (entries : List Entry) : Prop where
  made : List.Forall₂ (fun file entry => ∃ document, compile (root ++ file) = .ok document ∧
    entry = .below tree root file document) files entries
  distinct : (entries.map (·.id)).Nodup

theorem Filled.nil : Filled tree root compile [] [] where
  made := .nil
  distinct := List.nodup_nil

theorem Filled.concat (filled : Filled tree root compile past entries)
    (compiled : compile (root ++ file) = .ok document)
    (fresh : Entry.idOf (root ++ file) document ∉ entries.map (·.id)) :
    Filled tree root compile (past ++ [file]) (entries ++ [.below tree root file document]) where
  made := List.rel_append filled.made (.cons ⟨document, compiled, rfl⟩ .nil)
  distinct := by
    rw [List.map_append, List.map_singleton, ← List.concat_eq_append]
    exact filled.distinct.concat fresh

/-- An entry stands where its file does. -/
theorem Filled.ofEntry (filled : Filled tree root compile past entries) {j : Nat} {entry : Entry}
    (there : entries[j]? = some entry) : ∃ file document, past[j]? = some file ∧
      compile (root ++ file) = .ok document ∧ entry = .below tree root file document := by
  obtain ⟨sameLength, each⟩ := List.forall₂_iff_get.1 filled.made
  obtain ⟨bound, rfl⟩ := List.getElem?_eq_some_iff.1 there
  have boundToo : j < past.length := by omega
  obtain ⟨document, compiled, same⟩ := each j boundToo bound
  exact ⟨past[j], document, List.getElem?_eq_getElem boundToo, compiled, same⟩

theorem Filled.ofFile (filled : Filled tree root compile past entries) {j : Nat}
    (there : past[j]? = some file) : ∃ document, compile (root ++ file) = .ok document ∧
      entries[j]? = some (.below tree root file document) := by
  obtain ⟨sameLength, each⟩ := List.forall₂_iff_get.1 filled.made
  obtain ⟨bound, rfl⟩ := List.getElem?_eq_some_iff.1 there
  have boundToo : j < entries.length := by omega
  obtain ⟨document, compiled, same⟩ := each j bound boundToo
  exact ⟨document, compiled, by rw [List.getElem?_eq_getElem boundToo]; exact congrArg some same⟩

/-- No rebuild has to stop where all files have entries. -/
theorem Filled.not_stops (filled : Filled tree root compile past entries) {k : Nat}
    (early : k < past.length) : ¬Stops root compile (past ++ rest) k failure := by
  rintro (⟨here, failed⟩ | ⟨before, there, here, first, second, one, two⟩)
  · rw [List.getElem?_append_left early] at here
    obtain ⟨document, compiled, _⟩ := filled.ofFile here
    rw [failed] at compiled
    cases compiled
  · rw [List.getElem?_append_left early] at here
    rw [List.getElem?_append_left (Nat.lt_trans before early)] at there
    obtain ⟨_, compiledThere, entryThere⟩ := filled.ofFile there
    obtain ⟨_, compiledHere, entryHere⟩ := filled.ofFile here
    rw [first] at compiledThere
    rw [second] at compiledHere
    cases compiledThere
    cases compiledHere
    have ids := filled.distinct
    have bound := (List.getElem?_eq_some_iff.1 entryThere).1
    refine absurd ((List.getElem?_inj (by simpa using bound) ids).1 ?_) (Nat.ne_of_lt before)
    rw [List.getElem?_map, List.getElem?_map, entryThere, entryHere]
    exact congrArg some ((goesUnder_iff.1 one).trans (goesUnder_iff.1 two).symm)

/-- The next file of a rebuild joins the entries that are there, or the rebuild stops at it. -/
theorem Filled.next (filled : Filled tree root compile past entries) (g : Nat) (file : Files.Path)
    (rest : List Files.Path) :
    (∃ more, (compile (root ++ file) >>= fun document =>
        (Index.ofEntries g entries).add (.below tree root file document)) =
          .ok (.ofEntries g more) ∧ Filled tree root compile (past ++ [file]) more) ∨
      ∃ failure, (compile (root ++ file) >>= fun document =>
        (Index.ofEntries g entries).add (.below tree root file document)) = .error failure ∧
          Stops root compile (past ++ file :: rest) past.length failure := by
  have here : (past ++ file :: rest)[past.length]? = some file := by simp
  cases compiled : compile (root ++ file) with
  | error failure => exact .inr ⟨failure, rfl, .uncompiled here compiled⟩
  | ok document =>
      rw [ok_bind]
      by_cases fresh : Entry.idOf (root ++ file) document ∈ entries.map (·.id)
      case neg => exact .inl ⟨_, Index.add_fresh fresh, filled.concat compiled fresh⟩
      obtain ⟨earlier, found⟩ : ∃ earlier,
          (Index.ofEntries g entries).byId.get? (Entry.idOf (root ++ file) document) = some earlier := by
        rw [← Option.ne_none_iff_exists', Ne, Association.get?_eq_none_iff, Index.keys_byId]
        exact not_not_intro fresh
      obtain ⟨member, same⟩ := (Index.byId_ofEntries _ _).1 (Association.mem_of_get? found)
      obtain ⟨j, there⟩ := List.mem_iff_getElem?.1 member
      obtain ⟨other, first, place, compiledToo, rfl⟩ := filled.ofEntry there
      have before : j < past.length := (List.getElem?_eq_some_iff.1 place).1
      refine .inr ⟨_, ?_, .taken before ?_ here compiledToo compiled (goesUnder_iff.2 same)
        (goesUnder_iff.2 rfl)⟩
      · simp only [Index.add, Entry.below]
        rw [found]
        rfl
      · rw [List.getElem?_append_left before, place]

/-- A rebuild can stop for one reason only at the first file that it has to stop at. -/
theorem Stops.unique {k : Nat} {other : Failure} (stops : Stops root compile files k failure)
    (again : Stops root compile files k other)
    (first : ∀ j < k, ∀ reason, ¬Stops root compile files j reason) : failure = other := by
  have earlier : ∀ {i j : Nat}, j < k → ∀ {a b : Files.Path} {one two : Document} {id : String},
      files[i]? = some a → files[j]? = some b → compile (root ++ a) = .ok one →
      compile (root ++ b) = .ok two → GoesUnder (root ++ a) one id → GoesUnder (root ++ b) two id →
      ¬i < j :=
    fun before _ _ _ _ _ placeA placeB compiledA compiledB idA idB less =>
      first _ before _ (.taken less placeA placeB compiledA compiledB idA idB)
  rcases stops with ⟨here, failed⟩ | ⟨before, place, here, one, two, there, id⟩ <;>
    rcases again with
      ⟨hereToo, failedToo⟩ | ⟨beforeToo, placeToo, hereToo, oneToo, twoToo, thereToo, idToo⟩ <;>
    obtain rfl := Option.some.inj (here.symm.trans hereToo)
  · exact Except.error.inj (failed.symm.trans failedToo)
  · cases failed.symm.trans twoToo
  · cases two.symm.trans failedToo
  · obtain rfl := Except.ok.inj (two.symm.trans twoToo)
    obtain rfl := id.unique idToo
    obtain rfl : _ = _ := Nat.le_antisymm
      (Nat.not_lt.1 (earlier before placeToo place oneToo one thereToo there))
      (Nat.not_lt.1 (earlier beforeToo place placeToo one oneToo there thereToo))
    obtain rfl := Option.some.inj (place.symm.trans placeToo)
    rfl

/-! ## Entries of all files -/

/-- What entries tell of their files is told in the order of the files. -/
theorem Filled.map_eq {α : Type} {told : Entry → α} (tell : Files.Path → α)
    (filled : Filled tree root compile files entries)
    (same : ∀ file document, told (.below tree root file document) = tell file) :
    entries.map told = files.map tell := by
  have made := filled.made
  clear filled
  induction made with
  | nil => rfl
  | cons here _ ih =>
      obtain ⟨document, _, rfl⟩ := here
      rw [List.map_cons, List.map_cons, same, ih]

/-- Entries of listed files stand in both views of their index in the order of the files. -/
theorem Filled.byPath (filled : Filled tree root compile files entries) (once : files.Nodup) (g : Nat) :
    (Index.ofEntries g entries).byPath = entries.map fun entry => (entry.path, entry) := by
  refine Index.filed_of_nodup ?_
  rw [filled.map_eq (Files.leadsTo tree root ++ ·) fun _ _ => rfl]
  exact once.map fun a b => List.append_cancel_left

/-- Each entry has the id that its document goes under. -/
theorem Filled.goUnder (filled : Filled tree root compile files entries) :
    List.Forall₂ (fun file entry => ∃ document, compile (root ++ file) = .ok document ∧
      entry = .below tree root file document ∧ GoesUnder (root ++ file) document entry.id)
        files entries := by
  refine filled.made.imp ?_
  rintro file entry ⟨document, compiled, rfl⟩
  exact ⟨document, compiled, rfl, goesUnder_iff.2 rfl⟩

theorem Filled.ids_ne_empty (filled : Filled tree root compile files entries) (proper : tree.Proper)
    (listed : Files.listDocuments tree root = .ok files) : "" ∉ entries.map (·.id) := by
  intro empty
  obtain ⟨entry, member, none⟩ := List.mem_map.1 empty
  obtain ⟨j, there⟩ := List.mem_iff_getElem?.1 member
  obtain ⟨file, document, place, _, rfl⟩ := filled.ofEntry there
  have known : file ∈ files := List.mem_iff_getElem?.2 ⟨j, place⟩
  exact Entry.id_ne_empty (Files.stem_of_listed listed known)
    (Entry.ofDocument_listed proper listed known document) none

end DocumentServer
