import DocumentServer.Files.Write
import DocumentServer.Proofs.Association

/-!
Following links ends. A walk takes fewer steps than it is allowed, as it follows no link twice; so a
path below a folder leads below what the folder leads to, where no link is on the way.
-/
namespace DocumentServer.Files

namespace Walk

variable {tree : Tree} {w v : Walk} {found other : Resolution} {path : Path}

/-- A walk comes to its end and finds something. -/
inductive Ends (tree : Tree) : Walk → Resolution → Prop
  | here {w : Walk} {found : Resolution} : step tree w = .inr found → Ends tree w found
  | after {w v : Walk} {found : Resolution} :
      step tree w = .inl v → Ends tree v found → Ends tree w found

theorem Ends.unique (first : Ends tree w found) (second : Ends tree w other) : found = other := by
  induction first with
  | here ends =>
      cases second with
      | here same =>
          rw [ends] at same
          exact Sum.inr.inj same
      | after goes _ =>
          rw [ends] at goes
          cases goes
  | after goes _ ih =>
      cases second with
      | here ends =>
          rw [goes] at ends
          cases ends
      | after same rest =>
          rw [goes] at same
          cases same
          exact ih rest

/-! ## The number of steps -/

/-- How many steps a node may cost that has not been followed. -/
def cost : Node → Nat
  | .link target => target.length + 2
  | _ => 0

/-- How many steps the links may cost that have not been followed. -/
def budget (links : Association Path (Option Path)) : Association Path Node → Nat
  | [] => 0
  | (path, node) :: rest =>
    (if (Association.get? path links).isSome then 0 else cost node) + budget links rest

def measure (tree : Tree) (w : Walk) : Nat := w.tasks.length + budget w.links tree.nodes

theorem isSome_get?_put (path link : Path) (known : Option Path)
    (links : Association Path (Option Path)) :
    (Association.get? path (Association.put link known links)).isSome =
      (link == path || (Association.get? path links).isSome) := by
  rw [Association.get?_put]
  split <;> simp_all

theorem budget_put_le (link : Path) (known : Option Path)
    (links : Association Path (Option Path)) (nodes : Association Path Node) :
    budget (Association.put link known links) nodes ≤ budget links nodes := by
  induction nodes with
  | nil => exact Nat.le_refl _
  | cons entry rest ih =>
      obtain ⟨path, node⟩ := entry
      simp only [budget, isSome_get?_put]
      by_cases seen : (Association.get? path links).isSome
      · simpa [seen] using ih
      · cases link == path <;> simp [seen] <;> omega

/-- The cost of a link is spent when it is followed for the first time. -/
theorem budget_put_add_le {link : Path} {links : Association Path (Option Path)}
    (fresh : Association.get? link links = none) (known : Option Path) {node : Node}
    {nodes : Association Path Node} (member : (link, node) ∈ nodes) :
    budget (Association.put link known links) nodes + cost node ≤ budget links nodes := by
  induction nodes with
  | nil => cases member
  | cons entry rest ih =>
      obtain ⟨path, other⟩ := entry
      simp only [budget, isSome_get?_put]
      rcases List.mem_cons.1 member with same | later
      · cases same
        have := budget_put_le link known links rest
        simp only [BEq.rfl, fresh, Option.isSome_none, Bool.or_false, if_true, Nat.zero_add,
          Bool.false_eq_true, if_false]
        omega
      · have := ih later
        by_cases seen : (Association.get? path links).isSome
        · simp only [seen, Bool.or_true, if_true, Nat.zero_add]
          omega
        · cases link == path <;> simp [seen] <;> omega

theorem length_pieces_le (cs : List Char) : (Text.pieces '/' cs).length ≤ cs.length + 1 := by
  induction cs with
  | nil => exact Nat.le_refl _
  | cons c rest ih =>
      simp only [Text.pieces]
      split
      · simpa using ih
      · split
        · next same =>
            rw [same] at ih
            simp only [List.length_cons, Nat.add_le_add_iff_right] at ih ⊢
            omega
        · simp

theorem length_partsOf_le (text : String) : (partsOf text).length ≤ text.length + 1 := by
  have pieces := length_pieces_le text.toList
  rw [String.length_toList] at pieces
  refine Nat.le_trans (List.length_filter_le _ _) ?_
  rwa [List.length_map]

theorem measure_step (goes : step tree w = .inl v) : measure tree v < measure tree w := by
  unfold step at goes
  split at goes
  · cases goes
  · next link rest same =>
      cases goes
      have := budget_put_le link (some w.reached) w.links tree.nodes
      simp only [measure, same, List.length_cons]
      omega
  · next name rest same =>
      split at goes
      · cases goes
        simp [measure, same]
      · simp only [goTo] at goes
        split at goes
        · next target isLink =>
            split at goes
            · cases goes
              simp [measure, same]
            · cases goes
            · next fresh =>
                cases goes
                have member : (w.reached ++ [name], Node.link target) ∈ tree.nodes := by
                  refine Association.mem_of_get? ?_
                  simpa [Tree.node?] using isLink
                have spent := budget_put_add_le fresh none member
                have parts := length_partsOf_le target
                simp only [cost] at spent
                simp only [measure, same, List.length_append, List.length_map, List.length_cons]
                omega
        · cases goes
          simp [measure, same]

theorem ends_run {steps : Nat} (enough : measure tree w < steps) :
    Ends tree w (run tree steps w) := by
  induction steps generalizing w with
  | zero => cases enough
  | succ steps ih =>
      unfold run
      split
      · next goes => exact .after goes (ih (by have := measure_step goes; omega))
      · next ends => exact .here ends

/-- A walk that has gone nowhere yet. -/
def start (path : Path) : Walk := { reached := [], links := [], tasks := path.map .part }

theorem stepBound_eq (tree : Tree) (path : Path) :
    stepBound tree path = path.length + budget [] tree.nodes + 1 := by
  have same : ∀ nodes : Association Path Node,
      (nodes.map fun entry => cost entry.2).foldr (· + ·) 0 = budget [] nodes := by
    intro nodes
    induction nodes with
    | nil => rfl
    | cons entry rest ih => simp [budget, Association.get?, ih]
  rw [← same, stepBound]
  congr 4

theorem ends_follow (tree : Tree) (path : Path) : Ends tree (start path) (follow tree path) := by
  apply ends_run
  rw [stepBound_eq, measure, start, List.length_map]
  exact Nat.lt_succ_self _

/-! ## Going further -/

/-- A walk that has some more names to go to at its end. -/
def extend (w : Walk) (names : List String) : Walk := { w with tasks := w.tasks ++ names.map .part }

theorem joinRest_parts (tree : Tree) (place : Path) (names more : List String) :
    joinRest tree place names (more.map .part) = place ++ names ++ more := by
  induction more generalizing names with
  | nil => simp [joinRest]
  | cons name rest ih => rw [List.map_cons, joinRest, ih, List.append_assoc, List.append_assoc,
      List.append_assoc, List.singleton_append]

theorem joinRest_append (tree : Tree) (place : Path) (names : List String) (tasks : List Task)
    (more : List String) : joinRest tree place names (tasks ++ more.map .part) =
      joinRest tree place names tasks ++ more := by
  induction tasks generalizing place names with
  | nil => exact joinRest_parts tree place names more
  | cons task rest ih =>
      cases task with
      | part name => exact ih place (names ++ [name])
      | reached link => exact ih _ []

theorem collapse_append {names : List String} (down : ".." ∉ names) (path : Path) :
    collapse (path ++ names) = collapse path ++ names := by
  unfold collapse
  rw [List.foldl_append]
  generalize path.foldl (fun done part => if part == ".." then done.dropLast else done ++ [part]) []
    = reached
  induction names generalizing reached with
  | nil => simp
  | cons name rest ih =>
      rw [List.mem_cons, not_or] at down
      have other : (name == "..") = false := by simp [Ne.symm down.1]
      rw [List.foldl_cons, other, if_neg Bool.false_ne_true, ih down.2, List.append_assoc]
      rfl

theorem step_extend_inl {names : List String} (goes : step tree w = .inl v) :
    step tree (w.extend names) = .inl (v.extend names) := by
  unfold step at goes
  split at goes
  · cases goes
  · next same =>
      cases goes
      simp [step, extend, same]
  · next name rest same =>
      split at goes
      · next up =>
          cases goes
          simp [step, extend, same, up]
      · next down =>
          simp only [goTo] at goes
          simp only [step, extend, same, List.cons_append, down, Bool.false_eq_true, if_false, goTo]
          split at goes
          · split at goes
            · cases goes
              rfl
            · cases goes
            · cases goes
              simp
          · cases goes
            rfl

theorem step_extend_loop {names : List String} (down : ".." ∉ names)
    (ends : step tree w = .inr (.loop path)) :
    step tree (w.extend names) = .inr (.loop (path ++ names)) := by
  unfold step at ends
  split at ends
  · cases ends
  · cases ends
  · next name rest same =>
      split at ends
      · cases ends
      · next other =>
          simp only [goTo] at ends
          simp only [step, extend, same, List.cons_append, other, Bool.false_eq_true, if_false, goTo]
          split at ends
          · split at ends
            · cases ends
            · cases ends
              rw [joinRest_append, collapse_append down]
            · cases ends
          · cases ends

theorem step_path (ends : step tree w = .inr (.path path)) : w.tasks = [] ∧ w.reached = path := by
  unfold step at ends
  split at ends
  · next same =>
      cases ends
      exact ⟨same, rfl⟩
  · cases ends
  · split at ends
    · cases ends
    · simp only [goTo] at ends
      split at ends
      · split at ends <;> cases ends
      · cases ends

/-- Names below a folder with no link on the way. -/
def Plain (tree : Tree) : Path → List String → Prop
  | _, [] => True
  | folder, name :: rest =>
    name ≠ ".." ∧ (∀ target, tree.node? (folder ++ [name]) ≠ some (.link target)) ∧
      Plain tree (folder ++ [name]) rest

theorem Plain.down {folder : Path} {names : List String} (plain : Plain tree folder names) :
    ".." ∉ names := by
  induction names generalizing folder with
  | nil => simp
  | cons name rest ih =>
      obtain ⟨other, _, later⟩ := plain
      rw [List.mem_cons, not_or]
      exact ⟨Ne.symm other, ih later⟩

theorem ends_plain {folder : Path} {names : List String} (plain : Plain tree folder names)
    (links : Association Path (Option Path)) :
    Ends tree { reached := folder, links, tasks := names.map .part } (.path (folder ++ names)) := by
  induction names generalizing folder with
  | nil => exact .here (by simp [step])
  | cons name rest ih =>
      obtain ⟨other, noLink, later⟩ := plain
      have goes : step tree { reached := folder, links, tasks := (name :: rest).map .part } =
          .inl { reached := folder ++ [name], links, tasks := rest.map .part } := by
        have down : (name == "..") = false := by simp [other]
        -- As no link is there, `noLink` leaves only the last way to go.
        simp only [step, List.map_cons, down, Bool.false_eq_true, if_false, goTo]
      simpa using Ends.after goes (ih later)

theorem Ends.extend_path {names : List String} (ends : Ends tree w (.path path))
    (plain : Plain tree path names) : Ends tree (w.extend names) (.path (path ++ names)) := by
  generalize same : Resolution.path path = found at ends
  induction ends with
  | here stops =>
      subst same
      obtain ⟨none, reached⟩ := step_path stops
      subst reached
      simpa [extend, none] using ends_plain plain _
  | after goes _ ih => exact .after (step_extend_inl goes) (ih same)

theorem Ends.extend_loop {names : List String} (ends : Ends tree w (.loop path))
    (down : ".." ∉ names) : Ends tree (w.extend names) (.loop (path ++ names)) := by
  generalize same : Resolution.loop path = found at ends
  induction ends with
  | here stops =>
      subst same
      exact .here (step_extend_loop down stops)
  | after goes _ ih => exact .after (step_extend_inl goes) (ih same)

theorem start_append (path : Path) (names : List String) :
    start (path ++ names) = (start path).extend names := by
  simp [start, extend]

end Walk

/-! ## Paths below a folder -/

theorem leadsTo_append {tree : Tree} {root : Path} {names : List String}
    (plain : Walk.Plain tree (leadsTo tree root) names) :
    leadsTo tree (root ++ names) = leadsTo tree root ++ names := by
  have ends := Walk.ends_follow tree (root ++ names)
  rw [Walk.start_append] at ends
  unfold leadsTo at plain ⊢
  cases found : follow tree root with
  | path path =>
      simp only [found] at plain
      have here := found ▸ Walk.ends_follow tree root
      rw [ends.unique (here.extend_path plain)]
  | loop path =>
      simp only [found] at plain
      have here := found ▸ Walk.ends_follow tree root
      rw [ends.unique (here.extend_loop plain.down)]

theorem leadsTo_of_resolve {tree : Tree} {path found : Path} (named : resolve tree path = .ok found) :
    found = leadsTo tree path := by
  unfold resolve at named
  split at named
  · cases named
  · split at named
    · cases named
    · exact (Except.ok.inj named).symm

/-- What lies plainly below a folder leads below what the folder leads to. -/
theorem resolve_append {tree : Tree} {root folder found : Path} {names : List String}
    (folderAt : resolve tree root = .ok folder) (plain : Walk.Plain tree folder names)
    (foundAt : resolve tree (root ++ names) = .ok found) : found = folder ++ names := by
  obtain rfl := leadsTo_of_resolve folderAt
  rw [leadsTo_of_resolve foundAt, leadsTo_append plain]

end DocumentServer.Files
