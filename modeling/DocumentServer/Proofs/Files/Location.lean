import DocumentServer.Proofs.Files.Resolve

/-!
Where paths lead, told without a machine: part by part, and by the target where a part is a link. A
path that runs into a loop of links leads nowhere. Resolving finds the place that a path leads to, and
no link is on the way to that place any more.
-/
namespace DocumentServer.Files

/-- Where the target of a link is read that lies in a folder. -/
def linkStart (folder : Path) (target : String) : Path :=
  if isAbsolute target then [] else folder

/-- From a place, names lead to another one in a number of steps. -/
inductive LeadsIn (tree : Tree) : Nat → Path → List String → Path → Prop
  | here {place : Path} : LeadsIn tree 0 place [] place
  | up {n : Nat} {place found : Path} {rest : List String} :
      LeadsIn tree n place.dropLast rest found → LeadsIn tree (n + 1) place (".." :: rest) found
  | down {n : Nat} {place found : Path} {name : String} {rest : List String} :
      name ≠ ".." → (∀ target, tree.node? (place ++ [name]) ≠ some (.link target)) →
      LeadsIn tree n (place ++ [name]) rest found → LeadsIn tree (n + 1) place (name :: rest) found
  | link {n m : Nat} {place known found : Path} {name target : String} {rest : List String} :
      name ≠ ".." → tree.node? (place ++ [name]) = some (.link target) →
      LeadsIn tree n (linkStart place target) (partsOf target) known →
      LeadsIn tree m known rest found → LeadsIn tree (n + m + 1) place (name :: rest) found

/-- From a place, names lead to another one. -/
def Leads (tree : Tree) (place : Path) (names : List String) (found : Path) : Prop :=
  ∃ n, LeadsIn tree n place names found

variable {tree : Tree} {n m : Nat} {place found other : Path} {names more : List String}

theorem LeadsIn.unique (leads : LeadsIn tree n place names found)
    (again : LeadsIn tree m place names other) : n = m ∧ found = other := by
  induction leads generalizing m other with
  | here =>
      cases again
      exact ⟨rfl, rfl⟩
  | up _ ih =>
      cases again with
      | up again =>
          obtain ⟨rfl, same⟩ := ih again
          exact ⟨rfl, same⟩
      | down differs _ _ => exact absurd rfl differs
      | link differs _ _ _ => exact absurd rfl differs
  | down differs noLink _ ih =>
      cases again with
      | up _ => exact absurd rfl differs
      | down _ _ again =>
          obtain ⟨rfl, same⟩ := ih again
          exact ⟨rfl, same⟩
      | link _ isLink _ _ => exact absurd isLink (noLink _)
  | link differs isLink _ _ ihTarget ihRest =>
      cases again with
      | up _ => exact absurd rfl differs
      | down _ noLink _ => exact absurd isLink (noLink _)
      | link _ isLinkToo target rest =>
          rw [isLink] at isLinkToo
          cases isLinkToo
          obtain ⟨rfl, rfl⟩ := ihTarget target
          obtain ⟨rfl, same⟩ := ihRest rest
          exact ⟨rfl, same⟩

theorem Leads.unique (leads : Leads tree place names found)
    (again : Leads tree place names other) : found = other := by
  obtain ⟨_, leads⟩ := leads
  obtain ⟨_, again⟩ := again
  exact (leads.unique again).2

theorem Leads.up (leads : Leads tree place.dropLast names found) :
    Leads tree place (".." :: names) found := by
  obtain ⟨n, leads⟩ := leads
  exact ⟨n + 1, .up leads⟩

theorem Leads.down {name : String} (differs : name ≠ "..")
    (noLink : ∀ target, tree.node? (place ++ [name]) ≠ some (.link target))
    (leads : Leads tree (place ++ [name]) names found) : Leads tree place (name :: names) found := by
  obtain ⟨n, leads⟩ := leads
  exact ⟨n + 1, .down differs noLink leads⟩

theorem Leads.link {name target : String} {stop : Path} (differs : name ≠ "..")
    (isLink : tree.node? (place ++ [name]) = some (.link target))
    (toTarget : Leads tree (linkStart place target) (partsOf target) stop)
    (leads : Leads tree stop names found) : Leads tree place (name :: names) found := by
  obtain ⟨n, toTarget⟩ := toTarget
  obtain ⟨m, leads⟩ := leads
  exact ⟨n + m + 1, .link differs isLink toTarget leads⟩

theorem LeadsIn.append (leads : LeadsIn tree n place names found)
    (further : LeadsIn tree m found more other) : LeadsIn tree (n + m) place (names ++ more) other := by
  induction leads with
  | here => simpa using further
  | up _ ih => exact Nat.add_right_comm .. ▸ .up (ih further)
  | down differs noLink _ ih => exact Nat.add_right_comm .. ▸ .down differs noLink (ih further)
  | link differs isLink target _ _ ih =>
      have joined := LeadsIn.link differs isLink target (ih further)
      simpa [Nat.add_assoc, Nat.add_comm, Nat.add_left_comm] using joined

theorem Leads.append (leads : Leads tree place names found) (further : Leads tree found more other) :
    Leads tree place (names ++ more) other := by
  obtain ⟨_, leads⟩ := leads
  obtain ⟨_, further⟩ := further
  exact ⟨_, leads.append further⟩

theorem LeadsIn.split (leads : LeadsIn tree n place (names ++ more) other) :
    ∃ found, Leads tree place names found ∧ Leads tree found more other := by
  generalize joined : names ++ more = all at leads
  induction leads generalizing names with
  | @here place =>
      obtain ⟨rfl, rfl⟩ := List.append_eq_nil_iff.1 joined
      exact ⟨place, ⟨0, .here⟩, ⟨0, .here⟩⟩
  | @up n place found rest leads ih =>
      cases names with
      | nil =>
          subst joined
          exact ⟨place, ⟨0, .here⟩, ⟨_, .up leads⟩⟩
      | cons name names =>
          cases joined
          obtain ⟨mid, first, second⟩ := ih rfl
          exact ⟨mid, first.up, second⟩
  | @down n place found name rest differs noLink leads ih =>
      cases names with
      | nil =>
          subst joined
          exact ⟨place, ⟨0, .here⟩, ⟨_, .down differs noLink leads⟩⟩
      | cons name names =>
          cases joined
          obtain ⟨mid, first, second⟩ := ih rfl
          exact ⟨mid, first.down differs noLink, second⟩
  | @link n m place known found name target rest differs isLink toTarget leads _ ih =>
      cases names with
      | nil =>
          subst joined
          exact ⟨place, ⟨0, .here⟩, ⟨_, .link differs isLink toTarget leads⟩⟩
      | cons name names =>
          cases joined
          obtain ⟨mid, first, second⟩ := ih rfl
          exact ⟨mid, .link differs isLink ⟨_, toTarget⟩ first, second⟩

/-- Where a beginning leads, the rest leads on from there. -/
theorem Leads.rest (all : Leads tree place (names ++ more) other)
    (first : Leads tree place names found) : Leads tree found more other := by
  obtain ⟨_, all⟩ := all
  obtain ⟨mid, firstToo, second⟩ := all.split
  rwa [first.unique firstToo]

/-! ## Places without links -/

namespace Walk

theorem plain_append {folder : Path} :
    Plain tree folder (names ++ more) ↔ Plain tree folder names ∧ Plain tree (folder ++ names) more := by
  induction names generalizing folder with
  | nil => simp [Plain]
  | cons name rest ih => simp [Plain, ih, and_assoc]

theorem Plain.leads {folder : Path} (plain : Plain tree folder names) :
    Leads tree folder names (folder ++ names) := by
  induction names generalizing folder with
  | nil => exact ⟨0, by simpa using LeadsIn.here⟩
  | cons name rest ih =>
      obtain ⟨differs, noLink, later⟩ := plain
      exact .down differs noLink (by simpa using ih later)

theorem Plain.dropLast {folder : Path} (plain : Plain tree folder names) :
    Plain tree folder names.dropLast := by
  rcases List.eq_nil_or_concat names with rfl | ⟨before, name, rfl⟩
  · exact plain
  · rw [List.concat_eq_append] at plain ⊢
    rw [List.dropLast_concat]
    exact (plain_append.1 plain).1

end Walk

/-- No link is on the way to where a path leads. -/
theorem LeadsIn.plain (leads : LeadsIn tree n place names found) (plain : Walk.Plain tree [] place) :
    Walk.Plain tree [] found := by
  induction leads with
  | here => exact plain
  | up _ ih => exact ih plain.dropLast
  | down differs noLink _ ih =>
      refine ih (Walk.plain_append.2 ⟨plain, ?_⟩)
      exact ⟨differs, noLink, trivial⟩
  | @link _ _ place _ _ _ target _ _ _ _ _ ihTarget ihRest =>
      refine ihRest (ihTarget ?_)
      unfold linkStart
      split
      · trivial
      · exact plain

theorem Leads.plain (leads : Leads tree [] names found) : Walk.Plain tree [] found := by
  obtain ⟨_, leads⟩ := leads
  exact leads.plain trivial

/-! ## Walks find the place -/

/-- The target of a link leads to a place. -/
def LinkLeads (tree : Tree) (n : Nat) (link found : Path) : Prop :=
  ∃ folder name target, link = folder ++ [name] ∧ tree.node? link = some (.link target) ∧
    LeadsIn tree n (linkStart folder target) (partsOf target) found

theorem LinkLeads.unique {link : Path} (leads : LinkLeads tree n link found)
    (again : LinkLeads tree m link other) : n = m ∧ found = other := by
  obtain ⟨folder, name, target, rfl, isLink, leads⟩ := leads
  obtain ⟨folderToo, nameToo, targetToo, same, isLinkToo, again⟩ := again
  obtain ⟨rfl, rfl⟩ := List.append_singleton_inj.1 same
  rw [isLink] at isLinkToo
  cases isLinkToo
  exact leads.unique again

namespace Walk

/-- The parts that are still to be gone to. -/
def restOf (tasks : List Task) : List String :=
  tasks.filterMap fun
    | .part name => some name
    | .reached _ => none

/-- How a walk goes on. -/
inductive Goes (tree : Tree) : Walk → Walk → Prop
  | close {place link : Path} {links : Association Path (Option Path)} {rest : List Task} :
      Goes tree { reached := place, links, tasks := .reached link :: rest }
        { reached := place, links := Association.put link (some place) links, tasks := rest }
  | up {place : Path} {links : Association Path (Option Path)} {rest : List Task} :
      Goes tree { reached := place, links, tasks := .part ".." :: rest }
        { reached := place.dropLast, links, tasks := rest }
  | down {place : Path} {links : Association Path (Option Path)} {name : String} {rest : List Task} :
      name ≠ ".." → (∀ target, tree.node? (place ++ [name]) ≠ some (.link target)) →
      Goes tree { reached := place, links, tasks := .part name :: rest }
        { reached := place ++ [name], links, tasks := rest }
  | revisit {place stop : Path} {links : Association Path (Option Path)} {name target : String}
      {rest : List Task} :
      name ≠ ".." → tree.node? (place ++ [name]) = some (.link target) →
      Association.get? (place ++ [name]) links = some (some stop) →
      Goes tree { reached := place, links, tasks := .part name :: rest }
        { reached := stop, links, tasks := rest }
  | enter {place : Path} {links : Association Path (Option Path)} {name target : String}
      {rest : List Task} :
      name ≠ ".." → tree.node? (place ++ [name]) = some (.link target) →
      Association.get? (place ++ [name]) links = none →
      Goes tree { reached := place, links, tasks := .part name :: rest }
        { reached := linkStart place target
          links := Association.put (place ++ [name]) none links
          tasks := (partsOf target).map .part ++ .reached (place ++ [name]) :: rest }

theorem goTo_cases {w v : Walk} {name : String} {rest : List Task} (tasks : w.tasks = .part name :: rest)
    (differs : name ≠ "..") (goes : goTo tree w name rest = .inl v) : Goes tree w v := by
  obtain ⟨place, links, _⟩ := w
  cases tasks
  simp only [goTo] at goes
  split at goes
  · next target isLink =>
      split at goes
      · next seen =>
          cases goes
          exact .revisit differs isLink seen
      · cases goes
      · next unseen =>
          cases goes
          exact .enter differs isLink unseen
  · next noLink =>
      cases goes
      exact .down differs noLink

theorem step_eq_inl {w v : Walk} : step tree w = .inl v ↔ Goes tree w v := by
  constructor
  · intro goes
    unfold step at goes
    split at goes
    · cases goes
    · next same =>
        obtain ⟨place, links, _⟩ := w
        cases same
        cases goes
        exact .close
    · next name rest same =>
        split at goes
        · next up =>
            rw [beq_iff_eq] at up
            obtain ⟨place, links, _⟩ := w
            cases same
            cases goes
            exact up ▸ .up
        · next differs => exact goTo_cases same (by simpa using differs) goes
  · intro goes
    cases goes with
    | close => rfl
    | up => simp [step]
    | down differs noLink => simp [step, differs, goTo]
    | revisit differs isLink seen => simp [step, differs, goTo, isLink, seen]
    | enter differs isLink unseen =>
        simp [step, differs, goTo, isLink, unseen, linkStart]

theorem Goes.ends {w v : Walk} {result : Resolution} (goes : Goes tree w v)
    (ends : Ends tree v result) : Ends tree w result := .after (step_eq_inl.2 goes) ends

/-- What a walk takes for the end of a link is where the link leads. -/
def Known (tree : Tree) (links : Association Path (Option Path)) : Prop :=
  ∀ link found, Association.get? link links = some (some found) → ∃ n, LinkLeads tree n link found

/-- The links that a walk is in the middle of need at least a number of steps. -/
def Busy (tree : Tree) (links : Association Path (Option Path)) (n : Nat) : Prop :=
  ∀ link, Association.get? link links = some none → ∀ m found, LinkLeads tree m link found → n ≤ m

theorem Busy.mono {links : Association Path (Option Path)} (busy : Busy tree links n)
    (fewer : m ≤ n) : Busy tree links m :=
  fun link open_ steps found leads => Nat.le_trans fewer (busy link open_ steps found leads)

theorem Known.put_none {links : Association Path (Option Path)} (known : Known tree links)
    (link : Path) : Known tree (Association.put link none links) := by
  intro other found seen
  rw [Association.get?_put] at seen
  split at seen
  · cases seen
  · exact known other found seen

theorem Known.put_some {links : Association Path (Option Path)} (known : Known tree links)
    {link : Path} (leads : LinkLeads tree n link found) :
    Known tree (Association.put link (some found) links) := by
  intro other place seen
  rw [Association.get?_put] at seen
  split at seen
  · next same =>
      cases seen
      rw [beq_iff_eq] at same
      exact ⟨n, same ▸ leads⟩
  · exact known other place seen

theorem Busy.put_none {links : Association Path (Option Path)} (busy : Busy tree links n)
    {link : Path} (leads : LinkLeads tree n link found) :
    Busy tree (Association.put link none links) n := by
  intro other open_ steps place leadsToo
  rw [Association.get?_put] at open_
  split at open_
  · next same =>
      rw [beq_iff_eq] at same
      subst same
      exact Nat.le_of_eq (leads.unique leadsToo).1
  · exact busy other open_ steps place leadsToo

theorem Busy.fewer {links : Association Path (Option Path)} (busy : Busy tree links (n + 1)) :
    Busy tree links n := busy.mono (Nat.le_succ n)

/-- A walk gets over some names to another place, and is in the middle of the same links there. -/
structure Passes (tree : Tree) (place : Path) (names : List String) (found : Path)
    (links after : Association Path (Option Path)) : Prop where
  known : Known tree after
  same : ∀ link, Association.get? link after = some none ↔ Association.get? link links = some none
  ends : ∀ {tasks result}, Ends tree { reached := found, links := after, tasks } result →
    Ends tree { reached := place, links, tasks := names.map .part ++ tasks } result

/-- A walk that has been through a link is in the middle of the same links as before it. -/
theorem Passes.closed {links between : Association Path (Option Path)} {link : Path}
    (through : Passes tree place names found (Association.put link none links) between)
    (unseen : Association.get? link links = none) (stop other : Path) :
    Association.get? other (Association.put link (some stop) between) = some none ↔
      Association.get? other links = some none := by
  rw [Association.get?_put]
  split
  · next here =>
      rw [beq_iff_eq] at here
      simp [← here, unseen]
  · next elsewhere => rw [through.same, Association.get?_put, if_neg elsewhere]

/-- A link is passed by way of its target, and its end is known from then on. -/
theorem Passes.enter {links between after : Association Path (Option Path)} {stop : Path}
    {name target : String} {rest : List String} (differs : name ≠ "..")
    (isLink : tree.node? (place ++ [name]) = some (.link target))
    (unseen : Association.get? (place ++ [name]) links = none)
    (toTarget : Passes tree (linkStart place target) (partsOf target) stop
      (Association.put (place ++ [name]) none links) between)
    (onward : Passes tree stop rest found
      (Association.put (place ++ [name]) (some stop) between) after) :
    Passes tree place (name :: rest) found links after where
  known := onward.known
  same := fun link => (onward.same link).trans (toTarget.closed unseen stop link)
  ends := by
    intro tasks result finish
    have atTarget : Ends tree { reached := stop, links := between
                                tasks := .reached (place ++ [name]) :: (rest.map .part ++ tasks) }
        result := Goes.close.ends (onward.ends finish)
    exact (Goes.enter differs isLink unseen).ends (toTarget.ends atTarget)

/-- A walk comes to the place where its names lead. It meets no link that it is in the middle of, as
the names it goes on with would take fewer steps than they do. -/
theorem passes_of_leadsIn (leads : LeadsIn tree n place names found)
    {links : Association Path (Option Path)} (known : Known tree links) (busy : Busy tree links n) :
    ∃ after, Passes tree place names found links after := by
  induction leads generalizing links with
  | here => exact ⟨links, known, fun _ => Iff.rfl, fun ends => ends⟩
  | up _ ih =>
      obtain ⟨after, passes⟩ := ih known busy.fewer
      exact ⟨after, passes.known, passes.same, fun later => Goes.up.ends (passes.ends later)⟩
  | down differs noLink _ ih =>
      obtain ⟨after, passes⟩ := ih known busy.fewer
      exact ⟨after, passes.known, passes.same,
        fun later => (Goes.down differs noLink).ends (passes.ends later)⟩
  | @link n m place stop found name target rest differs isLink leads _ ihTarget ihRest =>
      have linkLeads : LinkLeads tree n (place ++ [name]) stop :=
        ⟨place, name, target, rfl, isLink, leads⟩
      have later : Busy tree links m := busy.mono (by omega)
      cases state : Association.get? (place ++ [name]) links with
      | some seen =>
          cases seen with
          | some end_ =>
              obtain ⟨_, leadsToo⟩ := known _ _ state
              obtain ⟨_, rfl⟩ := linkLeads.unique leadsToo
              obtain ⟨after, passes⟩ := ihRest known later
              exact ⟨after, passes.known, passes.same,
                fun later => (Goes.revisit differs isLink state).ends (passes.ends later)⟩
          | none =>
              have few := busy _ state _ _ linkLeads
              omega
      | none =>
          obtain ⟨between, toTarget⟩ := ihTarget (known.put_none (place ++ [name]))
            ((busy.mono (by omega)).put_none linkLeads)
          obtain ⟨after, onward⟩ := ihRest (toTarget.known.put_some linkLeads)
            fun link open_ => later link ((toTarget.closed state stop link).1 open_)
          exact ⟨after, Passes.enter differs isLink state toTarget onward⟩

theorem ends_of_leads {path : Path} (leads : Leads tree [] path found) :
    Ends tree (start path) (.path found) := by
  obtain ⟨n, leads⟩ := leads
  have known : Known tree [] := by
    intro link found seen
    cases seen
  have busy : Busy tree [] n := by
    intro link seen
    cases seen
  obtain ⟨after, passes⟩ := passes_of_leadsIn leads known busy
  have done : Ends tree { reached := found, links := after, tasks := [] } (.path found) := .here rfl
  simpa [start] using passes.ends done

/-- The ends of links that a walk has still to come by are where the links lead. -/
def Pending (tree : Tree) (place : Path) (tasks : List Task) : Prop :=
  ∀ before link after, tasks = before ++ .reached link :: after → ∀ found,
    Leads tree place (restOf before) found → ∃ n, LinkLeads tree n link found

theorem restOf_part (name : String) (tasks : List Task) :
    restOf (.part name :: tasks) = name :: restOf tasks := rfl

theorem restOf_parts (names : List String) (tasks : List Task) :
    restOf (names.map .part ++ tasks) = names ++ restOf tasks := by
  induction names with
  | nil => rfl
  | cons name rest ih => rw [List.map_cons, List.cons_append, restOf_part, ih, List.cons_append]

theorem restOf_map (names : List String) : restOf (names.map .part) = names := by
  simpa only [restOf, List.append_nil, List.filterMap_nil] using restOf_parts names []

theorem not_pending_parts (names : List String) {before after : List Task} {link : Path} :
    names.map .part ≠ before ++ .reached link :: after := by
  intro split
  have inside : Task.reached link ∈ names.map Task.part := by simp [split]
  simp at inside

/-- A step on a name that leads on to a place keeps the ends of links. -/
theorem Pending.move {name : String} {next : Path} {rest : List Task}
    (pending : Pending tree place (.part name :: rest))
    (back : ∀ {names found}, Leads tree next names found → Leads tree place (name :: names) found) :
    Pending tree next rest := by
  rintro before link after rfl found leads
  exact pending (.part name :: before) link after rfl found (back leads)

/-- A step into a link comes by the end of that link too. -/
theorem Pending.enter {name target : String} {rest : List Task} (differs : name ≠ "..")
    (isLink : tree.node? (place ++ [name]) = some (.link target))
    (pending : Pending tree place (.part name :: rest)) :
    Pending tree (linkStart place target)
      ((partsOf target).map .part ++ .reached (place ++ [name]) :: rest) := by
  intro before link after split found leads
  rcases List.append_eq_append_iff.1 split with ⟨more, rfl, ends⟩ | ⟨more, parts, ends⟩
  · rw [restOf_parts] at leads
    cases more with
    | nil =>
        cases ends
        obtain ⟨n, leads⟩ := leads
        exact ⟨n, place, name, target, rfl, isLink, List.append_nil (partsOf target) ▸ leads⟩
    | cons task more =>
        cases ends
        obtain ⟨_, leads⟩ := leads
        obtain ⟨stop, toTarget, onward⟩ := leads.split
        exact pending (.part name :: more) link after rfl found
          (Leads.link differs isLink toTarget onward)
  · cases more with
    | nil =>
        cases ends
        rw [List.append_nil] at parts
        subst parts
        rw [restOf_map] at leads
        obtain ⟨n, leads⟩ := leads
        exact ⟨n, place, name, target, rfl, isLink, leads⟩
    | cons task more =>
        cases ends
        exact absurd parts (not_pending_parts _)

/-- What a step leaves to be done leads where all that was to be done leads. -/
theorem Goes.leads {w v : Walk} (goes : Goes tree w v) (known : Known tree w.links)
    (pending : Pending tree w.reached w.tasks) :
    Known tree v.links ∧ Pending tree v.reached v.tasks ∧
      ∀ {found}, Leads tree v.reached (restOf v.tasks) found →
        Leads tree w.reached (restOf w.tasks) found := by
  cases goes with
  | @close place link links rest =>
      obtain ⟨n, leads⟩ := pending [] link rest rfl place ⟨0, .here⟩
      refine ⟨known.put_some leads, ?_, fun leads => leads⟩
      rintro before other after rfl found leads
      exact pending (.reached link :: before) other after rfl found leads
  | @up place links rest =>
      exact ⟨known, pending.move Leads.up, Leads.up⟩
  | @down place links name rest differs noLink =>
      exact ⟨known, pending.move (Leads.down differs noLink), Leads.down differs noLink⟩
  | @revisit place stop links name target rest differs isLink seen =>
      obtain ⟨n, folder, other, otherTarget, same, isLinkToo, toTarget⟩ := known _ _ seen
      obtain ⟨rfl, rfl⟩ := List.append_singleton_inj.1 same
      rw [isLink] at isLinkToo
      cases isLinkToo
      have toStop : Leads tree (linkStart place target) (partsOf target) stop := ⟨n, toTarget⟩
      exact ⟨known, pending.move (Leads.link differs isLink toStop),
        Leads.link differs isLink toStop⟩
  | enter differs isLink unseen =>
      refine ⟨known.put_none _, pending.enter differs isLink, ?_⟩
      intro found leads
      rw [restOf_parts] at leads
      obtain ⟨_, leads⟩ := leads
      obtain ⟨stop, toTarget, onward⟩ := leads.split
      exact Leads.link differs isLink toTarget onward

/-- Where a walk ends its names lead. -/
theorem leads_of_ends {w : Walk} (ends : Ends tree w (.path found)) (known : Known tree w.links)
    (pending : Pending tree w.reached w.tasks) : Leads tree w.reached (restOf w.tasks) found := by
  generalize same : Resolution.path found = result at ends
  induction ends with
  | here stops =>
      subst same
      obtain ⟨none, rfl⟩ := step_path stops
      rw [none]
      exact ⟨0, .here⟩
  | after goes _ ih =>
      obtain ⟨knownThen, pendingThen, back⟩ := (step_eq_inl.1 goes).leads known pending
      exact back (ih knownThen pendingThen same)

end Walk

theorem follow_eq_path_iff {path : Path} :
    follow tree path = .path found ↔ Leads tree [] path found := by
  constructor
  · intro led
    have ends := Walk.ends_follow tree path
    rw [led] at ends
    have known : Walk.Known tree (Walk.start path).links := by
      intro link found seen
      cases seen
    have pending : Walk.Pending tree (Walk.start path).reached (Walk.start path).tasks :=
      fun before link after split => absurd split (Walk.not_pending_parts path)
    have leads := Walk.leads_of_ends ends known pending
    rwa [Walk.start, Walk.restOf_map] at leads
  · intro leads
    exact (Walk.ends_follow tree path).unique (Walk.ends_of_leads leads)

theorem leadsTo_of_leads (leads : Leads tree [] names place) : leadsTo tree names = place := by
  rw [leadsTo, follow_eq_path_iff.2 leads]

end DocumentServer.Files
