import DocumentServer.Proofs.Files.Folder
import DocumentServer.Proofs.Files.Static

/-!
What the search for a static file breaks off with: a NUL, a loop of links that is left in the path, or a
name that is too long. Where no loop is met, the paths alone tell whether it does.
-/
namespace DocumentServer.Files

variable {tree : Tree} {folder root location path reached : Path} {relative : String} {f : Fault}
  {names : List String} {fuel links : Nat}

/-- What the search for a static file breaks off with. -/
inductive Trips (tree : Tree) (folder : Path) (relative : String) : Fault → Prop
  | folder {f : Fault} : resolve tree folder = .error f → Trips tree folder relative f
  | nul {root : Path} : resolve tree folder = .ok root →
      meetsNul tree (joinText root relative) = true → Trips tree folder relative nulFault
  | loop {root : Path} : resolve tree folder = .ok root →
      meetsNul tree (joinText root relative) = false →
      lookAt tree (leadsTo tree (joinText root relative)) = .error .tooManyLinks →
      Trips tree folder relative (loopFault (leadsTo tree (joinText root relative)))
  | tooLong {root location : Path} : resolve tree folder = .ok root →
      resolve tree (joinText root relative) = .ok location → isInside root location = true →
      lookAt tree location = .error .nameTooLong →
      Trips tree folder relative (LookError.fault location .nameTooLong)

/-- Folders lead down from a place. -/
def Folders (tree : Tree) : Path → List String → Prop
  | _, [] => True
  | place, name :: rest =>
    tree.node? (place ++ [name]) = some .folder ∧ Folders tree (place ++ [name]) rest

/-- A path cannot be looked at: it is too long, or one of its names is, with folders down to it. -/
def Unseeable (tree : Tree) (path : Path) : Prop :=
  maxPathOctets < (pathText path).utf8ByteSize ∨
    ∃ before name rest, path = before ++ name :: rest ∧ maxNameOctets < name.utf8ByteSize ∧
      Folders tree [] before

/-! ## Names that are too long -/

/-- Behind a name that is not too long, folders lead through it to one that is. -/
theorem exists_long_cons {name : String} {rest : List String}
    (short : ¬maxNameOctets < name.utf8ByteSize) :
    (∃ before other more, name :: rest = before ++ other :: more ∧
        maxNameOctets < other.utf8ByteSize ∧ Folders tree reached before) ↔
      tree.node? (reached ++ [name]) = some .folder ∧
        ∃ before other more, rest = before ++ other :: more ∧
          maxNameOctets < other.utf8ByteSize ∧ Folders tree (reached ++ [name]) before := by
  constructor
  · rintro ⟨before, other, more, split, long, folders⟩
    cases before with
    | nil =>
        obtain ⟨rfl, rfl⟩ := List.cons.inj split
        exact absurd long short
    | cons first before =>
        obtain ⟨rfl, rfl⟩ := List.cons.inj split
        exact ⟨folders.1, before, other, more, rfl, long, folders.2⟩
  · rintro ⟨folder, before, other, more, rfl, long, folders⟩
    exact ⟨name :: before, other, more, rfl, long, folder, folders⟩

theorem look_nameTooLong (plain : Walk.Plain tree reached names) (enough : names.length < fuel) :
    look tree fuel links reached names = .error .nameTooLong ↔
      ∃ before name rest, names = before ++ name :: rest ∧ maxNameOctets < name.utf8ByteSize ∧
        Folders tree reached before := by
  induction names generalizing reached fuel with
  | nil =>
      obtain ⟨fuel, rfl⟩ : ∃ n, fuel = n + 1 := ⟨fuel - 1, by simp at enough; omega⟩
      rw [look_nil]
      cases tree.node? reached <;> simp
  | cons name rest ih =>
      obtain ⟨fuel, rfl⟩ : ∃ n, fuel = n + 1 := ⟨fuel - 1, by simp at enough; omega⟩
      obtain ⟨differs, noLink, later⟩ := plain
      have goes : (name == "..") = false := by simp [differs]
      rw [look, goes, if_neg Bool.false_ne_true]
      split
      · next long => exact iff_of_true rfl ⟨[], name, rest, rfl, long, trivial⟩
      next short =>
      rw [exists_long_cons short]
      dsimp only
      cases there : tree.node? (reached ++ [name]) with
      | none => simp
      | some node =>
          cases node with
          | file content => cases rest <;> simp
          | folder => simpa using ih later (by simpa using enough)
          | link target => exact absurd there (noLink target)

theorem lookAt_nameTooLong (plain : Walk.Plain tree [] path) :
    lookAt tree path = .error .nameTooLong ↔ Unseeable tree path := by
  unfold lookAt Unseeable
  split
  · next long => exact iff_of_true rfl (.inl long)
  · next short =>
      rw [look_nameTooLong plain (length_lt_steps tree path), or_iff_right short]

/-! ## What the search breaks off with -/

theorem resolve_eq_error :
    resolve tree path = .error f ↔
      (meetsNul tree path = true ∧ f = nulFault) ∨
        (meetsNul tree path = false ∧ lookAt tree (leadsTo tree path) = .error .tooManyLinks ∧
          f = loopFault (leadsTo tree path)) := by
  unfold resolve isLoop
  cases meetsNul tree path with
  | true => simp [eq_comm]
  | false =>
      cases lookAt tree (leadsTo tree path) with
      | ok node => simp
      | error e => cases e <;> simp [eq_comm]

theorem resolveStatic_of_unresolved (failed : resolve tree folder = .error f) :
    resolveStatic tree folder relative = .error (.fault f) := by
  simp [resolveStatic, failed, Except.mapError, bind, Except.bind]

theorem resolveStatic_of_unplaced (rootFound : resolve tree folder = .ok root)
    (failed : resolve tree (joinText root relative) = .error f) :
    resolveStatic tree folder relative = .error (.fault f) := by
  simp [resolveStatic, rootFound, failed, Except.mapError, bind, Except.bind]

theorem resolveStatic_eq_fault :
    resolveStatic tree folder relative = .error (.fault f) ↔ Trips tree folder relative f := by
  constructor
  · intro broken
    cases rootFound : resolve tree folder with
    | error g =>
        rw [resolveStatic_of_unresolved rootFound] at broken
        cases broken
        exact .folder rootFound
    | ok root =>
    cases placeFound : resolve tree (joinText root relative) with
    | error g =>
        rw [resolveStatic_of_unplaced rootFound placeFound] at broken
        cases broken
        rcases resolve_eq_error.1 placeFound with ⟨met, rfl⟩ | ⟨unmet, many, rfl⟩
        · exact .nul rootFound met
        · exact .loop rootFound unmet many
    | ok location =>
        rw [resolveStatic_eq rootFound placeFound] at broken
        split at broken
        · next inside =>
            split at broken
            · cases broken
            · cases broken
            · next tested =>
                cases broken
                obtain ⟨long, rfl⟩ := testAt_eq_error.1 tested
                exact .tooLong rootFound placeFound inside long
        · cases broken
  · intro trips
    cases trips with
    | folder failed => exact resolveStatic_of_unresolved failed
    | nul rootFound met =>
        exact resolveStatic_of_unplaced rootFound (resolve_eq_error.2 (.inl ⟨met, rfl⟩))
    | loop rootFound unmet many =>
        exact resolveStatic_of_unplaced rootFound (resolve_eq_error.2 (.inr ⟨unmet, many, rfl⟩))
    | tooLong rootFound placeFound inside long =>
        have tested : isFileAt tree _ = .error _ := testAt_eq_error.2 ⟨long, rfl⟩
        rw [resolveStatic_eq rootFound placeFound, if_pos inside, tested]

/-- Where no loop of links is met, only a NUL in one of the paths and a name that is too long break the
search off. -/
theorem trips_of_leads (rootAt : Leads tree [] folder root)
    (placeAt : Leads tree [] (joinText folder relative) location) :
    (∃ f, Trips tree folder relative f) ↔
      folder.any hasNul = true ∨ (joinText root relative).any hasNul = true ∨
        isInside root location = true ∧ Unseeable tree location := by
  simp only [← resolveStatic_eq_fault]
  have rootFound := resolve_of_leads rootAt
  have placeFound := resolve_of_leads (joinText_leads rootAt placeAt)
  cases nul : folder.any hasNul with
  | true =>
      rw [nul, if_pos rfl] at rootFound
      simp [resolveStatic_of_unresolved rootFound]
  | false =>
  rw [nul, if_neg Bool.false_ne_true] at rootFound
  cases nulBelow : (joinText root relative).any hasNul with
  | true =>
      rw [nulBelow, if_pos rfl] at placeFound
      simp [resolveStatic_of_unplaced rootFound placeFound]
  | false =>
  rw [nulBelow, if_neg Bool.false_ne_true] at placeFound
  rw [resolveStatic_eq rootFound placeFound, ← lookAt_nameTooLong placeAt.plain]
  cases inside : isInside root location with
  | false => simp
  | true =>
      rw [if_pos rfl, isFileAt]
      cases tested : testAt tree location Node.isFile with
      | error f => simp [(testAt_eq_error.1 tested).1]
      | ok isFile =>
          have seen : lookAt tree location ≠ .error .nameTooLong := by
            intro long
            cases tested.symm.trans (testAt_eq_error.2 ⟨long, rfl⟩)
          cases isFile <;> simp [seen]

/-- What is served can be read. -/
theorem readOctets_of_served (served : resolveStatic tree folder relative = .ok location) :
    ∃ content, readOctets tree location = .ok content := by
  cases rootFound : resolve tree folder with
  | error f => cases (resolveStatic_of_unresolved rootFound).symm.trans served
  | ok root =>
  cases placeFound : resolve tree (joinText root relative) with
  | error f => cases (resolveStatic_of_unplaced rootFound placeFound).symm.trans served
  | ok place =>
      rw [resolveStatic_eq rootFound placeFound] at served
      split at served
      · split at served
        · next isFile =>
            cases served
            unfold isFileAt testAt at isFile
            unfold readOctets
            cases seen : lookAt tree location with
            | ok node => cases node <;> simp_all [Node.isFile]
            | error e => cases e <;> simp_all
        · cases served
        · cases served
      · cases served

end DocumentServer.Files
