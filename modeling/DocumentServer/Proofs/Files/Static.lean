import DocumentServer.Files.Static
import DocumentServer.Proofs.Files.Location

/-!
Which static files are served. Where no loop of links is met, a file is served exactly if the place
that its path leads to lies inside of the place of the folder; a loop can hide links from the check.
-/
namespace DocumentServer.Files

variable {tree : Tree} {names rest : List String} {name : String} {reached place root path : Path}
  {content : Octets} {fuel links : Nat}

/-! ## Looking where no link is -/

/-- Names below a folder are those of a file, with folders all the way. -/
def HasFileBelow (tree : Tree) (reached : Path) (names : List String) (content : Octets) : Prop :=
  tree.node? (reached ++ names) = some (.file content) ∧
    ∀ k, 0 < k → k < names.length → tree.node? (reached ++ names.take k) = some .folder

/-- A file is at a path as it is spelled. -/
def HasFile (tree : Tree) (path : Path) (content : Octets) : Prop :=
  HasFileBelow tree [] path content

theorem hasFileBelow_of_folder (folder : tree.node? (reached ++ [name]) = some .folder) :
    HasFileBelow tree reached (name :: rest) content ↔
      HasFileBelow tree (reached ++ [name]) rest content := by
  constructor
  · rintro ⟨file, folders⟩
    refine ⟨by simpa using file, ?_⟩
    intro k positive short
    simpa using folders (k + 1) (by omega) (by simpa using short)
  · rintro ⟨file, folders⟩
    refine ⟨by simpa using file, ?_⟩
    intro k positive short
    obtain ⟨k, rfl⟩ : ∃ n, k = n + 1 := ⟨k - 1, by omega⟩
    cases k with
    | zero => simpa using folder
    | succ k => simpa using folders (k + 1) (by omega) (by simpa using short)

theorem hasFileBelow_of_not_folder (other : tree.node? (reached ++ [name]) ≠ some .folder) :
    HasFileBelow tree reached (name :: rest) content ↔
      rest = [] ∧ tree.node? (reached ++ [name]) = some (.file content) := by
  constructor
  · rintro ⟨file, folders⟩
    cases rest with
    | nil => exact ⟨rfl, file⟩
    | cons next more => exact absurd (by simpa using folders 1 (by omega) (by simp)) other
  · rintro ⟨rfl, file⟩
    refine ⟨file, ?_⟩
    intro k positive short
    simp at short
    omega

/-- Looking at a path without links does not run into a loop, and finds the file that is there. -/
theorem look_plain (plain : Walk.Plain tree reached names) (enough : names.length < fuel) :
    look tree fuel links reached names ≠ .error .tooManyLinks ∧
      (look tree fuel links reached names ≠ .error .nameTooLong → ∀ content,
        look tree fuel links reached names = .ok (.file content) ↔
          HasFileBelow tree reached names content) := by
  induction names generalizing reached fuel with
  | nil =>
      obtain ⟨fuel, rfl⟩ : ∃ n, fuel = n + 1 := ⟨fuel - 1, by simp at enough; omega⟩
      cases there : tree.node? reached <;> simp [look, there, HasFileBelow]
  | cons name rest ih =>
      obtain ⟨fuel, rfl⟩ : ∃ n, fuel = n + 1 := ⟨fuel - 1, by simp at enough; omega⟩
      obtain ⟨differs, noLink, later⟩ := plain
      have goes : (name == "..") = false := by simp [differs]
      simp only [look, goes, Bool.false_eq_true, if_false]
      split
      · simp
      cases there : tree.node? (reached ++ [name]) with
      | none =>
          have other : tree.node? (reached ++ [name]) ≠ some .folder := by simp [there]
          simp [hasFileBelow_of_not_folder other, there]
      | some node =>
          cases node with
          | file content =>
              have other : tree.node? (reached ++ [name]) ≠ some .folder := by simp [there]
              cases rest <;> simp [hasFileBelow_of_not_folder other, there]
          | folder =>
              simp only [hasFileBelow_of_folder there]
              exact ih later (by simpa using enough)
          | link target => exact absurd there (noLink target)

theorem length_lt_steps (tree : Tree) (path : Path) :
    path.length < (maxLinks + 1) * stepBound tree path := by
  rw [Walk.stepBound_eq]
  have few : path.length + 1 ≤ path.length + Walk.budget [] tree.nodes + 1 := by omega
  exact Nat.lt_of_lt_of_le few (Nat.le_mul_of_pos_left _ (Nat.succ_pos _))

theorem lookAt_plain (plain : Walk.Plain tree [] path) :
    lookAt tree path ≠ .error .tooManyLinks ∧
      (lookAt tree path ≠ .error .nameTooLong → ∀ content,
        lookAt tree path = .ok (.file content) ↔ HasFile tree path content) := by
  unfold lookAt
  split
  · simp
  · exact look_plain plain (length_lt_steps tree path)

theorem readOctets_plain (plain : Walk.Plain tree [] path)
    (shown : lookAt tree path ≠ .error .nameTooLong) (file : HasFile tree path content) :
    readOctets tree path = .ok content := by
  rw [readOctets, ((lookAt_plain plain).2 shown content).2 file]

theorem isFileAt_plain (plain : Walk.Plain tree [] path) {isFile : Bool}
    (tested : isFileAt tree path = .ok isFile) :
    lookAt tree path ≠ .error .nameTooLong ∧
      (isFile = true ↔ ∃ content, HasFile tree path content) := by
  unfold isFileAt testAt at tested
  cases seen : lookAt tree path with
  | ok node =>
      have shown : lookAt tree path ≠ .error .nameTooLong := by simp [seen]
      simp only [seen] at tested
      cases tested
      refine ⟨by simp, ?_⟩
      simp only [← (lookAt_plain plain).2 shown, seen]
      cases node <;> simp [Node.isFile]
  | error e =>
      have shown : e ≠ .nameTooLong := by
        rintro rfl
        simp [seen] at tested
      have unread : lookAt tree path ≠ .error .nameTooLong := by simpa [seen] using shown
      refine ⟨by simpa using shown, ?_⟩
      simp only [← (lookAt_plain plain).2 unread, seen]
      cases e <;> simp_all

/-- A test fails only where a name is too long. -/
theorem testAt_eq_error {test : Node → Bool} {f : Fault} :
    testAt tree path test = .error f ↔
      lookAt tree path = .error .nameTooLong ∧ f = LookError.fault path .nameTooLong := by
  unfold testAt
  cases lookAt tree path with
  | ok node => simp
  | error e => cases e <;> simp [eq_comm]

/-! ## Resolving -/

/-- On a path that leads somewhere each part is looked at. -/
theorem meetsNul_of_leads (leads : Leads tree [] path place) : meetsNul tree path = path.any hasNul := by
  rw [meetsNul]
  obtain ⟨_, leads⟩ := leads
  rw [← List.takeWhile_append_dropWhile (l := path) (p := fun part => !hasNul part)] at leads
  obtain ⟨stop, first, -⟩ := leads.split
  rw [follow_eq_path_iff.2 first, Bool.and_true]

theorem resolve_of_leads (leads : Leads tree [] path place) :
    resolve tree path = if path.any hasNul then .error nulFault else .ok place := by
  have noLoop : isLoop tree place = false := by
    have seen := (lookAt_plain leads.plain).1
    unfold isLoop
    split
    · contradiction
    · rfl
  simp [resolve, meetsNul_of_leads leads, leadsTo_of_leads leads, noLoop]

/-! ## Serving -/

theorem joinText_leads {folder location : Path} {relative : String}
    (rootAt : Leads tree [] folder root)
    (placeAt : Leads tree [] (joinText folder relative) location) :
    Leads tree [] (joinText root relative) location := by
  unfold joinText at placeAt ⊢
  split at placeAt
  · next absolute => simpa [absolute] using placeAt
  · next inside =>
      rw [if_neg inside]
      have plain := rootAt.plain.leads
      exact plain.append (placeAt.rest rootAt)

theorem resolveStatic_eq {folder location : Path} {relative : String}
    (rootFound : resolve tree folder = .ok root)
    (placeFound : resolve tree (joinText root relative) = .ok location) :
    resolveStatic tree folder relative =
      if isInside root location then
        match isFileAt tree location with
        | .ok true => .ok location
        | .ok false => .error .notFound
        | .error f => .error (.fault f)
      else .error .forbidden := by
  simp only [resolveStatic, rootFound, placeFound, Except.mapError, bind, Except.bind, pure,
    Except.pure]
  cases isInside root location with
  | false => rfl
  | true =>
      cases isFileAt tree location with
      | ok isFile => cases isFile <;> rfl
      | error f => rfl

/-- A folder of static files with a link to itself and a link out of the folder. -/
def loopedTree : Tree where
  nodes :=
    [(["secret"], .folder), (["secret", "file.txt"], .file [115]), (["static"], .folder),
      (["static", "a.txt"], .file [97]), (["static", "l"], .link "l"),
      (["static", "out"], .link "../secret")]

end DocumentServer.Files
