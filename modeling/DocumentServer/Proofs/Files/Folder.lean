import DocumentServer.Proofs.Fault
import DocumentServer.Proofs.Files.Location

/-!
Folders that paths lead to, and what is written into them. There are only folders and links on the way
to a folder, so it does not change where something is put in a spot with nothing or a file.
-/
namespace DocumentServer.Files

variable {tree later : Tree} {fuel links : Nat} {reached path place spot : Path} {names : List String}
  {name : String} {node : Node}

/-! ## Trees that keep their folders and links -/

/-- A place is a folder, and so are all places above it. -/
def Tree.Open (tree : Tree) (place : Path) : Prop :=
  ∀ above, above <+: place → tree.node? above = some .folder

/-- The folders and the links of a tree are in a later one, too. -/
structure Tree.KeptBy (tree later : Tree) : Prop where
  nodes : ∀ path node, tree.node? path = some node → node.isFile = false →
    later.node? path = some node
  steps : Walk.budget [] tree.nodes ≤ Walk.budget [] later.nodes

theorem Tree.Open.here (isOpen : tree.Open place) : tree.node? place = some .folder :=
  isOpen place (List.prefix_refl place)

theorem Tree.open_top (tree : Tree) : tree.Open [] := by
  intro above inside
  obtain rfl := List.prefix_nil.1 inside
  rfl

theorem Tree.Open.dropLast (isOpen : tree.Open place) : tree.Open place.dropLast :=
  fun above inside => isOpen above (inside.trans (List.dropLast_prefix place))

theorem Tree.Open.concat (isOpen : tree.Open place) (folder : tree.node? (place ++ [name]) = some .folder) :
    tree.Open (place ++ [name]) := by
  intro above inside
  rcases List.prefix_concat_iff.1 inside with rfl | before
  · exact folder
  · exact isOpen above before

theorem Tree.KeptBy.refl (tree : Tree) : tree.KeptBy tree := ⟨fun _ _ there _ => there, Nat.le_refl _⟩

theorem Tree.KeptBy.isOpen (kept : tree.KeptBy later) (isOpen : tree.Open place) : later.Open place :=
  fun above inside => kept.nodes above .folder (isOpen above inside) rfl

theorem Walk.budget_le_put {nodes : Association Path Node}
    (free : ∀ old, Association.get? path nodes = some old → cost old = 0) (node : Node) :
    budget [] nodes ≤ budget [] (Association.put path node nodes) := by
  induction nodes with
  | nil => exact Nat.zero_le _
  | cons entry rest ih =>
      obtain ⟨first, old⟩ := entry
      by_cases hit : first = path
      · subst hit
        have none : cost old = 0 := free old (by simp [Association.get?])
        simp [Association.put, budget, Association.get?, none]
      · have further := ih (by simpa [Association.get?, hit] using free)
        simpa [Association.put, budget, Association.get?, hit] using further

/-- What is put into a folder is there then, and everything else is as it was. -/
theorem Tree.put_open (isOpen : tree.Open place) (free : tree.node? (place ++ [name]) ≠ some .folder)
    (node : Node) :
    (∀ path, (tree.put (place ++ [name]) node).node? path =
      if path = place ++ [name] then some node else tree.node? path) ∧
    (tree.put (place ++ [name]) node).nodes = Association.put (place ++ [name]) node tree.nodes := by
  have above : tree.addFoldersAbove (place ++ [name]) = tree := by
    have known : ∀ folder ∈ foldersAbove (place ++ [name]), (tree.node? folder).isSome := by
      intro folder member
      obtain ⟨n, short, rfl⟩ := List.mem_map.1 member
      have within : n ≤ place.length := by simpa [Nat.lt_succ_iff] using short
      rw [List.take_append_of_le_length within, isOpen _ (List.take_prefix n place)]
      rfl
    rw [addFoldersAbove]
    generalize foldersAbove (place ++ [name]) = folders at known
    induction folders with
    | nil => rfl
    | cons folder rest ih =>
        obtain ⟨first, others⟩ := List.forall_mem_cons.1 known
        rw [List.foldl_cons, if_pos first, ih others]
  have whole : tree.put (place ++ [name]) node =
      { nodes := Association.put (place ++ [name]) node tree.nodes } := by
    simp only [put, above]
    split
    · next same => exact absurd same free
    · rfl
  rw [whole]
  refine ⟨?_, rfl⟩
  intro path
  by_cases hit : path = place ++ [name]
  · subst hit
    simp [Tree.node?, Association.get?_put]
  · rw [if_neg hit]
    simp [Tree.node?, Association.get?_put, Ne.symm hit]

theorem Tree.keptBy_put (isOpen : tree.Open place)
    (free : ∀ old, tree.node? (place ++ [name]) = some old → old.isFile = true) (node : Node) :
    tree.KeptBy (tree.put (place ++ [name]) node) := by
  have noFolder : tree.node? (place ++ [name]) ≠ some .folder := by
    intro folder
    cases free .folder folder
  obtain ⟨nodes, whole⟩ := put_open isOpen noFolder node
  refine ⟨?_, ?_⟩
  · intro path old there other
    rw [nodes, if_neg, there]
    rintro rfl
    rw [free old there] at other
    cases other
  · rw [whole]
    refine Walk.budget_le_put ?_ node
    intro old there
    have isFile := free old (by simpa [Tree.node?] using there)
    cases old with
    | file content => rfl
    | _ => cases isFile

/-! ## Ways to folders -/

theorem look_nil (tree : Tree) (fuel links : Nat) (reached : Path) :
    look tree (fuel + 1) links reached [] = (tree.node? reached).elim (.error .missing) .ok := rfl

section
variable {rest : List String} (differs : name ≠ "..") (short : name.utf8ByteSize ≤ maxNameOctets)
include differs short

theorem look_link {target : String} (isLink : tree.node? (reached ++ [name]) = some (.link target))
    (few : links < maxLinks) : look tree (fuel + 1) links reached (name :: rest) =
      look tree fuel (links + 1) (linkStart reached target) (partsOf target ++ rest) := by
  have other : ¬(name == "..") = true := by simpa using differs
  rw [look, if_neg other, if_neg (Nat.not_lt.2 short)]
  simp only [isLink, if_neg (Nat.not_lt.2 few)]
  rfl

theorem look_into (isFolder : tree.node? (reached ++ [name]) = some .folder) :
    look tree (fuel + 1) links reached (name :: rest) =
      look tree fuel links (reached ++ [name]) rest := by
  have other : ¬(name == "..") = true := by simpa using differs
  rw [look, if_neg other, if_neg (Nat.not_lt.2 short)]
  simp only [isFolder]

end

/-- What is found by looking, told name by name. -/
inductive Finds (tree : Tree) : Nat → Nat → Path → List String → Node → Prop
  | here {fuel links : Nat} {place : Path} {node : Node} : tree.node? place = some node →
      Finds tree (fuel + 1) links place [] node
  | up {fuel links : Nat} {place : Path} {rest : List String} {node : Node} :
      Finds tree fuel links place.dropLast rest node →
      Finds tree (fuel + 1) links place (".." :: rest) node
  | link {fuel links : Nat} {place : Path} {name target : String} {rest : List String} {node : Node} :
      name ≠ ".." → name.utf8ByteSize ≤ maxNameOctets →
      tree.node? (place ++ [name]) = some (.link target) → links < maxLinks →
      Finds tree fuel (links + 1) (linkStart place target) (partsOf target ++ rest) node →
      Finds tree (fuel + 1) links place (name :: rest) node
  | file {fuel links : Nat} {place : Path} {name : String} {content : Octets} :
      name ≠ ".." → name.utf8ByteSize ≤ maxNameOctets →
      tree.node? (place ++ [name]) = some (.file content) →
      Finds tree (fuel + 1) links place [name] (.file content)
  | into {fuel links : Nat} {place : Path} {name : String} {rest : List String} {node : Node} :
      name ≠ ".." → name.utf8ByteSize ≤ maxNameOctets →
      tree.node? (place ++ [name]) = some .folder →
      Finds tree fuel links (place ++ [name]) rest node →
      Finds tree (fuel + 1) links place (name :: rest) node

theorem finds_of_look (found : look tree fuel links reached names = .ok node) :
    Finds tree fuel links reached names node := by
  induction fuel generalizing links reached names with
  | zero => cases found
  | succ fuel ih =>
      cases names with
      | nil =>
          rw [look_nil] at found
          cases there : tree.node? reached with
          | none =>
              rw [there] at found
              cases found
          | some other =>
              rw [there] at found
              cases found
              exact .here there
      | cons name rest =>
          rw [look] at found
          split at found
          · next up =>
              obtain rfl := eq_of_beq up
              exact .up (ih found)
          next other =>
          have differs : name ≠ ".." := by simpa using other
          split at found
          · cases found
          next long =>
          have short := Nat.not_lt.1 long
          dsimp only at found
          split at found
          · cases found
          · next target isLink =>
              split at found
              · cases found
              · next few => exact .link differs short isLink (Nat.not_lt.1 few) (ih found)
          · next content isFile =>
              split at found
              · next last =>
                  obtain rfl := List.isEmpty_iff.1 last
                  cases found
                  exact .file differs short isFile
              · cases found
          · next isFolder => exact .into differs short isFolder (ih found)

/-- The way to a folder leads over folders and links only, so it can be gone in a later tree, and on
from there. -/
theorem look_folder (found : look tree fuel links reached names = .ok .folder)
    (isOpen : tree.Open reached) :
    ∃ place used after, tree.Open place ∧ used < fuel ∧ ∀ later, tree.KeptBy later →
      Leads later reached names place ∧ ∀ fuel more,
        look later (fuel + used) links reached (names ++ more) = look later fuel after place more := by
  have finds := finds_of_look found
  clear found
  generalize isFolder : Node.folder = node at finds
  induction finds with
  | @here fuel links place _ _ =>
      exact ⟨place, 0, links, isOpen, Nat.succ_pos _, fun _ _ => ⟨⟨0, .here⟩, fun _ _ => rfl⟩⟩
  | up _ ih =>
      obtain ⟨place, used, after, opened, fewer, goes⟩ := ih isOpen.dropLast isFolder
      refine ⟨place, used + 1, after, opened, Nat.succ_lt_succ fewer, fun later kept => ?_⟩
      obtain ⟨leads, looks⟩ := goes later kept
      exact ⟨leads.up, looks⟩
  | @link _ _ reached _ target _ _ differs short isLink few _ ih =>
      -- A link leads on from its own folder or from the top, and both are open.
      have opened : tree.Open (linkStart reached target) := by
        unfold linkStart
        split
        · exact tree.open_top
        · exact isOpen
      obtain ⟨place, used, after, opened, fewer, goes⟩ := ih opened isFolder
      refine ⟨place, used + 1, after, opened, Nat.succ_lt_succ fewer, fun later kept => ?_⟩
      obtain ⟨⟨_, leads⟩, looks⟩ := goes later kept
      have linked := kept.nodes _ _ isLink rfl
      obtain ⟨stop, toTarget, onward⟩ := leads.split
      refine ⟨.link differs linked toTarget onward, fun fuel more => ?_⟩
      rw [← Nat.add_assoc, List.cons_append, look_link differs short linked few, ← looks,
        List.append_assoc]
  | file => cases isFolder
  | into differs short isOnWay _ ih =>
      obtain ⟨place, used, after, opened, fewer, goes⟩ := ih (isOpen.concat isOnWay) isFolder
      refine ⟨place, used + 1, after, opened, Nat.succ_lt_succ fewer, fun later kept => ?_⟩
      obtain ⟨leads, looks⟩ := goes later kept
      have folder := kept.nodes _ _ isOnWay rfl
      refine ⟨.down differs (by simp [folder]) leads, fun fuel more => ?_⟩
      rw [← Nat.add_assoc, List.cons_append, look_into differs short folder]
      exact looks fuel more

theorem stepBound_le (kept : tree.KeptBy later) (path : Path) (more : List String) :
    stepBound tree path + more.length ≤ stepBound later (path ++ more) := by
  have steps := kept.steps
  rw [Walk.stepBound_eq, Walk.stepBound_eq, List.length_append]
  omega

/-- A path leads to a folder. -/
structure FolderAt (tree : Tree) (path place : Path) : Prop where
  seen : lookAt tree path = .ok .folder
  leads : Leads tree [] path place

theorem short_of_lookAt (seen : lookAt tree path = .ok node) :
    (pathText path).utf8ByteSize ≤ maxPathOctets := by
  unfold lookAt at seen
  split at seen
  · cases seen
  · next short => exact Nat.not_lt.1 short

theorem lookAt_of_short (short : (pathText path).utf8ByteSize ≤ maxPathOctets) :
    lookAt tree path = look tree ((maxLinks + 1) * stepBound tree path) 0 [] path :=
  if_neg (Nat.not_lt.2 short)

theorem folderAt_of_lookAt (seen : lookAt tree path = .ok .folder) :
    ∃ place, FolderAt tree path place := by
  have found := seen
  rw [lookAt_of_short (short_of_lookAt seen)] at found
  obtain ⟨place, _, _, _, _, goes⟩ := look_folder found tree.open_top
  exact ⟨place, seen, (goes tree (.refl tree)).1⟩

/-! ## Names in folders -/

theorem pieces_of_noSlash {chars : List Char} (noSlash : '/' ∉ chars) :
    Text.pieces '/' chars = [chars] := by
  induction chars with
  | nil => rfl
  | cons c rest ih =>
      rw [List.mem_cons, not_or] at noSlash
      have other : (c == '/') = false := by simp [Ne.symm noSlash.1]
      rw [Text.pieces, other, if_neg Bool.false_ne_true, ih noSlash.2]

/-- A text without slashes names one part. -/
theorem partsOf_of_noSlash {text : String} (noSlash : '/' ∉ text.toList) (some : text ≠ "")
    (other : text ≠ ".") : partsOf text = [text] := by
  simp [partsOf, isNamed, pieces_of_noSlash noSlash, some, other]

/-- A name that something in a folder can have, so that the path to it can be followed. -/
structure Fits (path : Path) (name : String) : Prop where
  differs : name ≠ ".."
  short : name.utf8ByteSize ≤ maxNameOctets
  pathShort : (pathText (path ++ [name])).utf8ByteSize ≤ maxPathOctets

namespace FolderAt

/-- What is in a folder is looked at by going on from there. -/
theorem way (folder : FolderAt tree path place) :
    tree.Open place ∧ ∃ used after, used < (maxLinks + 1) * stepBound tree path ∧
      ∀ later, tree.KeptBy later → Leads later [] path place ∧ ∀ fuel more,
        look later (fuel + used) 0 [] (path ++ more) = look later fuel after place more := by
  have found := folder.seen
  rw [lookAt_of_short (short_of_lookAt folder.seen)] at found
  obtain ⟨other, used, after, opened, fewer, goes⟩ := look_folder found tree.open_top
  obtain rfl := folder.leads.unique (goes tree (.refl tree)).1
  exact ⟨opened, used, after, fewer, goes⟩

theorem isOpen (folder : FolderAt tree path place) : tree.Open place := folder.way.1

/-- What a short path leads to that goes on from a folder to a name in it. -/
theorem lookAt_child (folder : FolderAt tree path place) (fits : Fits path name)
    (noLink : ∀ target, tree.node? (place ++ [name]) ≠ some (.link target)) :
    lookAt tree (path ++ [name]) = (tree.node? (place ++ [name])).elim (.error .missing) .ok ∧
      leadsTo tree (path ++ [name]) = place ++ [name] := by
  obtain ⟨_, used, after, fewer, goes⟩ := folder.way
  obtain ⟨leads, looks⟩ := goes tree (.refl tree)
  refine ⟨?_, leadsTo_of_leads (leads.append (.down fits.differs noLink ⟨0, .here⟩))⟩
  have enough : (maxLinks + 1) * (stepBound tree path + 1) ≤
      (maxLinks + 1) * stepBound tree (path ++ [name]) :=
    Nat.mul_le_mul_left _ (stepBound_le (.refl tree) path [name])
  obtain ⟨fuel, same⟩ : ∃ fuel, (maxLinks + 1) * stepBound tree (path ++ [name]) =
      fuel + 2 + used := by
    refine ⟨(maxLinks + 1) * stepBound tree (path ++ [name]) - used - 2, ?_⟩
    rw [Nat.mul_add] at enough
    have links : 2 ≤ maxLinks + 1 := by decide
    omega
  have other : (name == "..") = false := by simpa using fits.differs
  rw [lookAt_of_short fits.pathShort, same, looks, look, other, if_neg Bool.false_ne_true,
    if_neg (Nat.not_lt.2 fits.short)]
  dsimp only
  cases there : tree.node? (place ++ [name]) with
  | none => rfl
  | some node =>
      cases node with
      | file content => rfl
      | folder =>
          change look tree (fuel + 1) after (place ++ [name]) [] = _
          rw [look_nil, there]
      | link target => exact absurd there (noLink target)

theorem kept (folder : FolderAt tree path place) (kept : tree.KeptBy later) :
    FolderAt later path place := by
  obtain ⟨opened, used, after, fewer, goes⟩ := folder.way
  obtain ⟨leads, looks⟩ := goes later kept
  refine ⟨?_, leads⟩
  have enough : (maxLinks + 1) * stepBound tree path ≤ (maxLinks + 1) * stepBound later path := by
    have bound := stepBound_le kept path []
    rw [List.append_nil] at bound
    exact Nat.mul_le_mul_left _ bound
  obtain ⟨fuel, same⟩ : ∃ fuel, (maxLinks + 1) * stepBound later path = fuel + 1 + used :=
    ⟨(maxLinks + 1) * stepBound later path - used - 1, by omega⟩
  have looked := looks (fuel + 1) []
  rw [List.append_nil, look_nil, (kept.isOpen opened).here] at looked
  rw [lookAt_of_short (short_of_lookAt folder.seen), same, looked]
  rfl

end FolderAt

/-! ## Making folders -/

theorem spotFor_eq_ok : spotFor tree path = .ok spot ↔
    (nameOf path).utf8ByteSize ≤ maxNameOctets ∧
      ∃ place, FolderAt tree path.dropLast place ∧ spot = place ++ [nameOf path] := by
  unfold spotFor
  split
  · next long =>
      refine ⟨nofun, ?_⟩
      rintro ⟨short, _⟩
      exact absurd short (Nat.not_le.2 long)
  next short =>
  split
  · next seen =>
      obtain ⟨place, folder⟩ := folderAt_of_lookAt seen
      rw [leadsTo_of_leads folder.leads]
      constructor
      · rintro ⟨⟩
        exact ⟨Nat.not_lt.1 short, place, folder, rfl⟩
      · rintro ⟨_, other, folderToo, rfl⟩
        rw [folder.leads.unique folderToo.leads]
  · next other seen =>
      refine ⟨nofun, ?_⟩
      rintro ⟨_, place, folder, _⟩
      rw [folder.seen] at seen
      cases seen
      exact absurd rfl other
  · next failed =>
      refine ⟨nofun, ?_⟩
      rintro ⟨_, place, folder, _⟩
      rw [folder.seen] at failed
      cases failed

theorem append_nameOf (some : path ≠ []) : path.dropLast ++ [nameOf path] = path := by
  rw [nameOf, List.getLast?_eq_some_getLast some]
  exact List.dropLast_append_getLast some

theorem makeFolder_eq_ok (made : makeFolder tree path = .ok later) :
    ∃ parent name spot, path = parent ++ [name] ∧ name ≠ ".." ∧ name.utf8ByteSize ≤ maxNameOctets ∧
      FolderAt tree parent spot ∧ tree.node? (spot ++ [name]) = none ∧
      later = tree.put (spot ++ [name]) .folder := by
  unfold makeFolder at made
  split at made
  · cases made
  next proper =>
  rw [Bool.or_eq_true, not_or] at proper
  obtain ⟨spot, found, made⟩ := bind_eq_ok.1 made
  obtain ⟨short, place, folder, rfl⟩ := spotFor_eq_ok.1 found
  have some : path ≠ [] := by simpa using proper.1
  split at made
  · cases made
  next free =>
  cases made
  exact ⟨path.dropLast, nameOf path, place, (append_nameOf some).symm, by simpa using proper.2, short,
    folder, by simpa using free, rfl⟩

/-- A tree has folders that another one has nothing in place of; apart from that they agree. -/
def Tree.AddsFolders (tree later : Tree) : Prop :=
  ∀ path, later.node? path = tree.node? path ∨
    tree.node? path = none ∧ later.node? path = some .folder

theorem Tree.AddsFolders.trans {last : Tree} (first : tree.AddsFolders later)
    (second : later.AddsFolders last) : tree.AddsFolders last := by
  intro path
  rcases second path with same | ⟨absent, folder⟩
  · rw [same]
    exact first path
  · rcases first path with same | ⟨_, there⟩
    · exact .inr ⟨same ▸ absent, folder⟩
    · rw [there] at absent
      cases absent

theorem addsFolders_of_makeFolder (made : makeFolder tree path = .ok later) :
    tree.AddsFolders later := by
  obtain ⟨parent, name, spot, rfl, _, _, folder, free, rfl⟩ := makeFolder_eq_ok made
  intro path
  rw [(Tree.put_open folder.isOpen (by simp [free]) .folder).1]
  split
  · next hit => exact .inr ⟨hit ▸ free, rfl⟩
  · exact .inl rfl

/-- A folder that is made is there. -/
theorem folderAt_of_makeFolder (made : makeFolder tree path = .ok later)
    (short : (pathText path).utf8ByteSize ≤ maxPathOctets) : ∃ spot, FolderAt later path spot := by
  obtain ⟨parent, name, spot, rfl, differs, nameShort, folder, free, rfl⟩ := makeFolder_eq_ok made
  have there : (tree.put (spot ++ [name]) .folder).node? (spot ++ [name]) = some .folder := by
    rw [(Tree.put_open folder.isOpen (by simp [free]) .folder).1, if_pos rfl]
  have empty : ∀ old, tree.node? (spot ++ [name]) = some old → old.isFile = true := by simp [free]
  have kept := folder.kept (Tree.keptBy_put folder.isOpen empty .folder)
  have noLink : ∀ target, (tree.put (spot ++ [name]) .folder).node? (spot ++ [name]) ≠
      some (.link target) := by simp [there]
  have seen := (kept.lookAt_child ⟨differs, nameShort, short⟩ noLink).1
  rw [there] at seen
  exact folderAt_of_lookAt seen

theorem keepFolder_eq_ok {place : Place} {made : Except WriteError Tree}
    (kept : keepFolder tree place made = .ok later) :
    made = .ok later ∨ later = tree ∧ lookAt tree place.path = .ok .folder := by
  unfold keepFolder at kept
  split at kept
  · cases kept
    exact .inl rfl
  · split at kept
    · next seen =>
        cases kept
        exact .inr ⟨rfl, seen⟩
    · cases kept

theorem addsFolders_of_keepFolder {place : Place}
    (kept : keepFolder tree place (makeFolder tree place.path) = .ok later) :
    tree.AddsFolders later := by
  rcases keepFolder_eq_ok kept with made | ⟨rfl, _⟩
  · exact addsFolders_of_makeFolder made
  · exact fun _ => .inl rfl

/-- Making folders ends with making the last of them. -/
theorem makeFoldersUp_eq_ok {parts : Nat} {place : Place}
    (made : makeFoldersUp tree place parts = .ok later) :
    ∃ before, tree.AddsFolders before ∧
      keepFolder before place (makeFolder before place.path) = .ok later := by
  induction parts generalizing tree later place with
  | zero => exact ⟨tree, fun _ => .inl rfl, made⟩
  | succ parts ih =>
      rw [makeFoldersUp] at made
      split at made
      · obtain ⟨above, madeAbove, kept⟩ := bind_eq_ok.1 made
        obtain ⟨before, first, keptAbove⟩ := ih madeAbove
        exact ⟨above, first.trans (addsFolders_of_keepFolder keptAbove), kept⟩
      · exact ⟨tree, fun _ => .inl rfl, made⟩

/-- Making a folder with all folders above it leaves it there, and changes nothing else. -/
theorem makeFolders_eq_ok {place : Place} (made : makeFolders tree place = .ok later) :
    place.path.any hasNul = false ∧ tree.AddsFolders later ∧
      ((pathText place.path).utf8ByteSize ≤ maxPathOctets → ∃ spot, FolderAt later place.path spot) := by
  unfold makeFolders at made
  split at made
  · cases made
  next clean =>
  obtain ⟨before, first, kept⟩ := makeFoldersUp_eq_ok made
  refine ⟨by simpa using clean, first.trans (addsFolders_of_keepFolder kept), fun short => ?_⟩
  rcases keepFolder_eq_ok kept with last | ⟨rfl, seen⟩
  · exact folderAt_of_makeFolder last short
  · exact folderAt_of_lookAt seen

/-! ## Writing files -/

/-- A file is written into the folder that its path leads to. -/
theorem FolderAt.writeFile (folder : FolderAt tree path spot) (fits : Fits path name)
    (free : ∀ node, tree.node? (spot ++ [name]) = some node → node.isFile = true) {place : Place}
    (below : place.path = path ++ [name]) (clean : place.path.any hasNul = false) (content : Octets) :
    Files.writeFile tree place content = .ok (tree.put (spot ++ [name]) (.file content)) := by
  have noLink : ∀ target, tree.node? (spot ++ [name]) ≠ some (.link target) := by
    intro target isLink
    cases free _ isLink
  obtain ⟨seen, leads⟩ := folder.lookAt_child fits noLink
  have found : fileSpot tree maxLinks (path ++ [name]) = .ok (spot ++ [name]) := by
    rw [maxLinks, fileSpot, seen, leads]
    cases there : tree.node? (spot ++ [name]) with
    | none =>
        have fresh : spotFor tree (path ++ [name]) = .ok (spot ++ [name]) := by
          rw [spotFor_eq_ok, nameOf, List.getLast?_concat, List.dropLast_concat]
          exact ⟨fits.short, spot, folder, rfl⟩
        simp only [Option.elim_none, fresh, ok_bind, there]
        rfl
    | some node =>
        have isFile := free node there
        cases node with
        | file content => rfl
        | _ => cases isFile
  rw [Files.writeFile, clean, if_neg Bool.false_ne_true, below, found]

end DocumentServer.Files
