import DocumentServer.Proofs.Registry.Stopping

/-!
How far a rebuild gets that nothing disturbs. It goes over the listed files up to the one that it has
to stop at, whatever is live and whatever other rebuilds and callers do meanwhile.
-/
namespace DocumentServer

/-- The rebuild that an event is a step of. -/
def Event.rebuild? : Event → Option Nat
  | .list g | .proceed g | .compiled g _ | .cancelRebuild g | .note g => some g
  | .change _ | .call _ | .resume _ | .cancel _ => none

namespace Session

variable {s t : Session} {e : Event} {events more : List Event} {g : Nat} {files : List Files.Path}
  {compile : Files.Path → Except Failure Document} {p : Progress}

/-! ## What the steps of a rebuild begin with -/

/-- The files that a rebuild begins to compile in a step. -/
def begins (s : Session) (g : Nat) (e : Event) : List Files.Path :=
  if e.rebuild? = some g then (s.step e).compiled.drop s.compiled.length else []

/-- The files that a rebuild begins to compile in a run, in order. -/
def begun (s : Session) (g : Nat) : List Event → List Files.Path
  | [] => []
  | e :: rest => s.begins g e ++ (s.step e).begun g rest

theorem begun_append (s : Session) (g : Nat) (events more : List Event) :
    s.begun g (events ++ more) = s.begun g events ++ (s.run events).begun g more := by
  induction events generalizing s with
  | nil => rfl
  | cons e rest ih =>
      rw [List.cons_append, begun, begun, ih, List.append_assoc]
      rfl

theorem begun_concat (s : Session) (g : Nat) (events : List Event) (e : Event) :
    s.begun g (events ++ [e]) = s.begun g events ++ (s.run events).begins g e := by
  rw [begun_append, begun, begun, List.append_nil]

theorem advance_compiled (s : Session) (g : Nat) (collected : Index) (files : List Files.Path) :
    (s.advance g collected files).compiled = s.compiled ++ files.head?.toList := by
  cases files with
  | nil => exact (List.append_nil _).symm
  | cons file rest => rfl

theorem advance_tree (s : Session) (g : Nat) (collected : Index) (files : List Files.Path) :
    (s.advance g collected files).tree = s.tree := by
  cases files <;> rfl

/-- No step of a rebuild forgets a file that was compiled, or changes the files. -/
theorem own_step (own : e.rebuild? = some g) :
    s.compiled <+: (s.step e).compiled ∧ (s.step e).tree = s.tree := by
  have rests : s.compiled <+: s.compiled ∧ s.tree = s.tree := ⟨List.prefix_refl _, rfl⟩
  have goes : ∀ h collected files, s.compiled <+: (s.advance h collected files).compiled ∧
      (s.advance h collected files).tree = s.tree := by
    intro h collected files
    rw [advance_compiled, advance_tree]
    exact ⟨List.prefix_append _ _, rfl⟩
  cases e with
  | list h =>
      simp only [step, list]
      split <;> exact rests
  | proceed h =>
      simp only [step, proceed]
      split
      · exact goes ..
      · exact rests
      · exact rests
  | compiled h result =>
      simp only [step, Session.compile]
      split
      · split
        · exact goes ..
        · exact rests
      · exact rests
  | cancelRebuild h =>
      simp only [step, cancelRebuild]
      split <;> exact rests
  | note h =>
      simp only [step, note]
      split <;> exact rests
  | change tree => cases own
  | call request => cases own
  | resume caller => cases own
  | cancel caller => cases own

/-- In a run that has only steps of one rebuild, what it begins with is all that is compiled. -/
theorem compiled_run (own : ∀ e ∈ events, e.rebuild? = some g) :
    (s.run events).compiled = s.compiled ++ s.begun g events := by
  induction events generalizing s with
  | nil => exact (List.append_nil _).symm
  | cons e rest ih =>
      obtain ⟨first, later⟩ := List.forall_mem_cons.1 own
      have grown : s.compiled ++ s.begins g e = (s.step e).compiled := by
        rw [begins, if_pos first]
        exact List.prefix_iff_eq_append.1 (own_step first).1
      rw [begun, ← List.append_assoc, grown]
      exact ih later

theorem root_step (s : Session) (e : Event) : (s.step e).root = s.root := by
  cases e with
  | change tree => rfl
  | call request =>
      simp only [step, call, awaitInFlight, await, ensureInFlight]
      repeat' split
      all_goals rfl
  | list g =>
      simp only [step, list]
      split <;> rfl
  | proceed g =>
      simp only [step, proceed]
      split
      · next files _ => cases files <;> rfl
      · rfl
      · rfl
  | compiled g result =>
      simp only [step, Session.compile]
      split
      · next rest _ =>
          split
          · cases rest <;> rfl
          · rfl
      · rfl
  | cancelRebuild g =>
      simp only [step, cancelRebuild]
      split <;> rfl
  | note g =>
      simp only [step, note]
      split <;> rfl
  | resume caller =>
      simp only [step, resume]
      repeat' split
      all_goals rfl
  | cancel caller =>
      simp only [step, cancel, giveUp_awaited]
      split <;> rfl

theorem root_run (s : Session) (events : List Event) : (s.run events).root = s.root := by
  induction events generalizing s with
  | nil => rfl
  | cons e rest ih => exact (ih (s.step e)).trans (root_step s e)

/-- A step that is none of a rebuild leaves it where it is. -/
theorem progress?_other (found : s.progress? g = some p) (other : e.rebuild? ≠ some g) :
    (s.step e).progress? g = some p := by
  have apart : ∀ {h q} {t : Session}, t.rebuilds = (s.setProgress h q).rebuilds →
      e.rebuild? = some h → t.progress? g = some p := by
    intro h q t rebuilds own
    have differs : g ≠ h := fun same => other (same ▸ own)
    rw [progress?_congr rebuilds, setProgress_other s q differs, found]
  cases step_move s e with
  | rest _ rebuilds => rw [progress?_congr rebuilds, found]
  | start _ _ rebuilds => rw [progress?_congr rebuilds, progress?_startRebuild, found, Option.some_or]
  | advance _ advances _ rebuilds => exact apart rebuilds (by cases advances <;> rfl)
  | complete completes _ rebuilds => exact apart rebuilds (by cases completes <;> rfl)
  | abort aborts _ rebuilds => exact apart rebuilds (by cases aborts <;> rfl)
  | note same _ _ rebuilds => exact apart rebuilds (by rw [same]; rfl)

/-! ## How far a rebuild has got -/

/-- Nothing disturbs a rebuild in a step: as long as it runs the files are those of a tree, each of its
compiles ends as it is told to, and it is not given up. -/
structure Keeps (s : Session) (g : Nat) (tree : Files.Tree)
    (compile : Files.Path → Except Failure Document) (e : Event) : Prop where
  tree : ∀ p, s.progress? g = some p → p.IsRunning → s.tree = tree
  results : ∀ {result collected call file rest}, e = .compiled g result →
    s.progress? g = some (.compiling collected call file rest) → result = compile file
  kept : e ≠ .cancelRebuild g

/-- Nothing disturbs a rebuild in a run. -/
def Undisturbed (s : Session) (g : Nat) (compile : Files.Path → Except Failure Document)
    (events : List Event) : Prop :=
  ∀ before e after, events = before ++ e :: after → (s.run before).Keeps g s.tree compile e

/-- A rebuild has come to its end, having begun with some files: with all of them, or with those up to
the first that it had to stop at. -/
inductive Halts (s : Session) (events : List Event) (g : Nat)
    (compile : Files.Path → Except Failure Document) (files : List Files.Path) :
    Outcome Index → List Files.Path → Prop
  | whole {entries : List Entry} {outcome : Outcome Index} :
      Filled s.tree s.root compile files entries →
      s.Occurs events (fun t e => t.Completes g e (.ofEntries g entries) ∧
        outcome = .done (t.registry.install (.ofEntries g entries)).index) →
      Halts s events g compile files outcome files
  | stopped {k : Nat} {failure : Failure} : Stops s.root compile files k failure →
      (∀ j < k, ∀ other, ¬Stops s.root compile files j other) →
      Halts s events g compile files (.failed failure) (files.take (k + 1))

/-- How far a rebuild has got, and which files it has begun with. -/
inductive Stage (s : Session) (events : List Event) (g : Nat)
    (compile : Files.Path → Except Failure Document) (files : List Files.Path) :
    Progress → List Files.Path → Prop
  | scheduled : Stage s events g compile files .scheduled []
  | listed : Stage s events g compile files (.listed (.ok (files.map (s.root ++ ·)))) []
  | compiling {past rest : List Files.Path} {file : Files.Path} {entries : List Entry} {call : Nat} :
      files = past ++ file :: rest → Filled s.tree s.root compile past entries →
      Stage s events g compile files
        (.compiling (.ofEntries g entries) call (s.root ++ file) (rest.map (s.root ++ ·)))
        (past ++ [file])
  | ended {outcome : Outcome Index} {begun : List Files.Path} :
      Halts s events g compile files outcome begun → Stage s events g compile files (.ended outcome) begun
  | noted {outcome : Outcome Index} {begun : List Files.Path} :
      Halts s events g compile files outcome begun → Stage s events g compile files (.noted outcome) begun

theorem Halts.append {outcome : Outcome Index} {begun : List Files.Path}
    (halts : Halts s events g compile files outcome begun) (more : List Event) :
    Halts s (events ++ more) g compile files outcome begun := by
  cases halts with
  | whole filled occurs => exact .whole filled (occurs.append more)
  | stopped stops first => exact .stopped stops first

theorem Stage.append {begun : List Files.Path} (stage : Stage s events g compile files p begun)
    (more : List Event) : Stage s (events ++ more) g compile files p begun := by
  cases stage with
  | scheduled => exact .scheduled
  | listed => exact .listed
  | compiling split filled => exact .compiling split filled
  | ended halts => exact .ended (halts.append more)
  | noted halts => exact .noted (halts.append more)

theorem proceed_listed {paths : List Files.Path}
    (found : t.progress? g = some (.listed (.ok paths))) :
    t.step (.proceed g) = t.advance g { generation := g } paths := by
  simp only [step, proceed, found]

theorem begins_of_compiled {began : List Files.Path} (own : e.rebuild? = some g)
    (grown : (s.step e).compiled = s.compiled ++ began) : s.begins g e = began := by
  rw [begins, if_pos own, grown, List.drop_left]

/-- A rebuild that goes on with some files takes the first of them, or is complete. -/
theorem stage_advance {past rest : List Files.Path} {entries : List Entry}
    (filled : Filled s.tree s.root compile past entries) (split : files = past ++ rest)
    (known : (t.progress? g).isSome)
    (completes : rest = [] → s.Occurs events fun u e => u.Completes g e (.ofEntries g entries) ∧
      u.registry = t.registry) :
    ∃ q, (t.advance g (.ofEntries g entries) (rest.map (s.root ++ ·))).progress? g = some q ∧
      Stage s events g compile files q (past ++ rest.head?.toList) := by
  cases rest with
  | nil =>
      rw [List.append_nil] at split
      subst split
      refine ⟨_, (made_complete known _).own, .ended ?_⟩
      rw [List.head?_nil, Option.toList_none, List.append_nil]
      refine .whole filled (Occurs.imp (completes rfl) ?_)
      rintro u e ⟨completes, same⟩
      exact ⟨completes, by rw [same]; rfl⟩
  | cons file rest => exact ⟨_, setProgress_own known, .compiling split filled⟩

/-- A step takes a rebuild to a stage, with more files that it begins to compile. -/
def Reaches (s : Session) (events : List Event) (e : Event) (g : Nat)
    (compile : Files.Path → Except Failure Document) (files begun : List Files.Path) : Prop :=
  ∃ q more, ((s.run events).step e).progress? g = some q ∧
    (s.run events).begins g e = more.map (s.root ++ ·) ∧
    Stage s (events ++ [e]) g compile files q (begun ++ more)

/-- A step that begins nothing and leaves a rebuild where it is leaves it in its stage. -/
theorem Stage.stays {begun : List Files.Path} (stage : Stage s events g compile files p begun)
    (reached : ((s.run events).step e).progress? g = some p)
    (still : (s.run events).begins g e = []) : s.Reaches events e g compile files begun := by
  refine ⟨p, [], reached, still, ?_⟩
  rw [List.append_nil]
  exact stage.append [e]

theorem begins_of_rest (rests : t.step e = t) : t.begins g e = [] := by
  rw [begins, rests, List.drop_length]
  split <;> rfl

theorem reaches_listed (listed : Files.listDocuments s.tree s.root = .ok files)
    (found : (s.run events).progress? g = some .scheduled) (tree : (s.run events).tree = s.tree) :
    s.Reaches events (.list g) g compile files [] := by
  have known : ((s.run events).progress? g).isSome := by simp [found]
  have listing : (s.run events).listing = .ok (files.map (s.root ++ ·)) := by
    rw [listing, tree, root_run, listed]
    rfl
  refine ⟨.listed (.ok (files.map (s.root ++ ·))), [], ?_, begins_of_compiled rfl ?_, .listed⟩
  · simp only [step, list, found, listing]
    exact setProgress_own known
  · simp only [step, list, found]
    exact (List.append_nil _).symm

theorem reaches_first
    (found : (s.run events).progress? g = some (.listed (.ok (files.map (s.root ++ ·))))) :
    s.Reaches events (.proceed g) g compile files [] := by
  have known : ((s.run events).progress? g).isSome := by simp [found]
  have goes : (s.run events).step (.proceed g) =
      (s.run events).advance g (.ofEntries g []) (files.map (s.root ++ ·)) := proceed_listed found
  have filled : Filled s.tree s.root compile [] [] := .nil
  obtain ⟨q, reached, next⟩ := stage_advance filled (List.nil_append files).symm known
    fun none => .last ⟨.empty (by rw [found, none]; rfl), rfl⟩
  refine ⟨q, files.head?.toList, goes ▸ reached, begins_of_compiled rfl ?_, next⟩
  rw [goes, advance_compiled, List.head?_map, Option.toList_map]

/-- What was compiled of a listed file is collected under its place below the root. -/
theorem collect_listed (proper : t.tree.Proper) (listed : Files.listDocuments t.tree t.root = .ok files)
    {file : Files.Path} (member : file ∈ files) (collected : Index)
    (result : Except Failure Document) : t.collect collected (t.root ++ file) result =
      result >>= fun document => collected.add (.below t.tree t.root file document) := by
  simp only [collect, Entry.ofDocument_listed proper listed member]
  rfl

/-- A file that is collected is followed by the next one, or was the last. -/
theorem reaches_next {past rest : List Files.Path} {file : Files.Path} {entries longer : List Entry}
    {call : Nat} (split : files = past ++ file :: rest)
    (filled : Filled s.tree s.root compile (past ++ [file]) longer)
    (found : (s.run events).progress? g = some
      (.compiling (.ofEntries g entries) call (s.root ++ file) (rest.map (s.root ++ ·))))
    (joined : (s.run events).collect (.ofEntries g entries) (s.root ++ file)
      (compile (s.root ++ file)) = .ok (.ofEntries g longer)) :
    s.Reaches events (.compiled g (compile (s.root ++ file))) g compile files (past ++ [file]) := by
  have known : ((s.run events).progress? g).isSome := by simp [found]
  have goes : (s.run events).step (.compiled g (compile (s.root ++ file))) =
      (s.run events).advance g (.ofEntries g longer) (rest.map (s.root ++ ·)) := by
    simp only [step, Session.compile, found, joined]
  have rejoined : files = past ++ [file] ++ rest := by simp [split]
  obtain ⟨q, reached, next⟩ := stage_advance filled rejoined known
    fun none => .last ⟨.last (by rw [found, none]; rfl) joined, rfl⟩
  refine ⟨q, rest.head?.toList, goes ▸ reached, begins_of_compiled rfl ?_, next⟩
  rw [goes, advance_compiled, List.head?_map, Option.toList_map]

/-- A file that cannot be collected is the first that a rebuild has to stop at. -/
theorem reaches_stop {past rest : List Files.Path} {file : Files.Path} {entries : List Entry}
    {call : Nat} {failure : Failure} (split : files = past ++ file :: rest)
    (filled : Filled s.tree s.root compile past entries)
    (stops : Stops s.root compile (past ++ file :: rest) past.length failure)
    (found : (s.run events).progress? g = some
      (.compiling (.ofEntries g entries) call (s.root ++ file) (rest.map (s.root ++ ·))))
    (failed : (s.run events).collect (.ofEntries g entries) (s.root ++ file)
      (compile (s.root ++ file)) = .error failure) :
    s.Reaches events (.compiled g (compile (s.root ++ file))) g compile files (past ++ [file]) := by
  have known : ((s.run events).progress? g).isSome := by simp [found]
  have goes : (s.run events).step (.compiled g (compile (s.root ++ file))) =
      (s.run events).endRebuild g (.failed failure) := by
    simp only [step, Session.compile, found, failed]
  have first : ∀ j < past.length, ∀ other, ¬Stops s.root compile files j other := by
    intro j early other
    rw [split]
    exact filled.not_stops early
  have begun : files.take (past.length + 1) = past ++ [file] := by
    rw [split, ← List.singleton_append, ← List.append_assoc]
    exact List.take_left' (by simp)
  refine ⟨.ended (.failed failure), [], ?_, begins_of_compiled rfl ?_, ?_⟩
  · rw [goes]
    exact setProgress_own known
  · rw [goes]
    exact (List.append_nil _).symm
  · rw [List.append_nil, ← begun]
    exact .ended (.stopped (split ▸ stops) first)

/-- Where a file is compiled, a rebuild goes on to the next one, or this is where it stops. -/
theorem reaches_compiled (proper : s.tree.Proper)
    (listed : Files.listDocuments s.tree s.root = .ok files) {past rest : List Files.Path}
    {file : Files.Path} {entries : List Entry} {call : Nat} (split : files = past ++ file :: rest)
    (filled : Filled s.tree s.root compile past entries)
    (found : (s.run events).progress? g = some
      (.compiling (.ofEntries g entries) call (s.root ++ file) (rest.map (s.root ++ ·))))
    (tree : (s.run events).tree = s.tree) :
    s.Reaches events (.compiled g (compile (s.root ++ file))) g compile files (past ++ [file]) := by
  have member : file ∈ files := by simp [split]
  have there : Files.listDocuments (s.run events).tree (s.run events).root = .ok files := by
    rw [tree, root_run, listed]
  have collected := collect_listed (tree ▸ proper) there member (.ofEntries g entries)
    (compile (s.root ++ file))
  rw [root_run, tree] at collected
  rcases filled.next g file rest with ⟨more, joined, longer⟩ | ⟨failure, failed, stops⟩
  · exact reaches_next split longer found (collected.trans joined)
  · exact reaches_stop split filled stops found (collected.trans failed)

theorem reaches_noted {outcome : Outcome Index} {begun : List Files.Path}
    (halts : Halts s events g compile files outcome begun)
    (found : (s.run events).progress? g = some (.ended outcome)) :
    s.Reaches events (.note g) g compile files begun := by
  have known : ((s.run events).progress? g).isSome := by simp [found]
  refine ⟨.noted outcome, [], ?_, begins_of_compiled rfl ?_, ?_⟩
  · simp only [step, note, found]
    exact setProgress_own known
  · simp only [step, note, found]
    exact (List.append_nil _).symm
  · rw [List.append_nil]
    exact .noted (halts.append _)

/-- A step of a rebuild that nothing disturbs takes it from one stage to the next. -/
theorem Stage.step (proper : s.tree.Proper) (listed : Files.listDocuments s.tree s.root = .ok files)
    {begun : List Files.Path} (stage : Stage s events g compile files p begun)
    (found : (s.run events).progress? g = some p)
    (keeps : (s.run events).Keeps g s.tree compile e) :
    s.Reaches events e g compile files begun := by
  by_cases own : e.rebuild? = some g
  case neg => exact stage.stays (progress?_other found own) (if_neg own)
  -- An event that comes in another stage than its own is let pass.
  have passes : (s.run events).step e = s.run events → s.Reaches events e g compile files begun :=
    fun rests => stage.stays (rests.symm ▸ found) (begins_of_rest rests)
  cases e with
  | list h =>
      cases own
      cases stage with
      | scheduled => exact reaches_listed listed found (keeps.tree _ found trivial)
      | _ => exact passes (by simp only [Session.step, list, found])
  | proceed h =>
      cases own
      cases stage with
      | listed => exact reaches_first found
      | _ => exact passes (by simp only [Session.step, proceed, found])
  | compiled h result =>
      cases own
      cases stage with
      | compiling split filled =>
          obtain rfl := keeps.results rfl found
          exact reaches_compiled proper listed split filled found (keeps.tree _ found trivial)
      | _ => exact passes (by simp only [Session.step, Session.compile, found])
  | cancelRebuild h =>
      cases own
      exact absurd rfl keeps.kept
  | note h =>
      cases own
      cases stage with
      | ended halts => exact reaches_noted halts found
      | _ => exact passes (by simp only [Session.step, note, found])
  | change tree => cases own
  | call request => cases own
  | resume caller => cases own
  | cancel caller => cases own

theorem Undisturbed.dropLast (undisturbed : s.Undisturbed g compile (events ++ [e])) :
    s.Undisturbed g compile events ∧ (s.run events).Keeps g s.tree compile e := by
  refine ⟨?_, undisturbed events e [] rfl⟩
  rintro before other after rfl
  exact undisturbed before other (after ++ [e]) (by simp)

theorem Undisturbed.cons (keeps : s.Keeps g s.tree compile e) (same : (s.step e).tree = s.tree)
    (later : (s.step e).Undisturbed g compile events) : s.Undisturbed g compile (e :: events) := by
  rintro (_ | ⟨first, before⟩) other after split
  · cases split
    exact keeps
  · cases split
    exact same ▸ later before other after rfl

/-- Whatever else goes on, an undisturbed rebuild goes through its stages. -/
theorem stage_run (scheduled : s.progress? g = some .scheduled) (proper : s.tree.Proper)
    (listed : Files.listDocuments s.tree s.root = .ok files)
    (undisturbed : s.Undisturbed g compile events) :
    ∃ p begun, (s.run events).progress? g = some p ∧
      s.begun g events = begun.map (s.root ++ ·) ∧ Stage s events g compile files p begun := by
  induction events using List.reverseRecOn with
  | nil => exact ⟨.scheduled, [], scheduled, rfl, .scheduled⟩
  | append_singleton events e ih =>
      obtain ⟨before, keeps⟩ := undisturbed.dropLast
      obtain ⟨p, begun, found, begunSo, stage⟩ := ih before
      obtain ⟨q, more, reached, begins, next⟩ := stage.step proper listed found keeps
      refine ⟨q, begun ++ more, ?_, ?_, next⟩
      · rw [run_concat, reached]
      · rw [begun_concat, begunSo, begins, List.map_append]

/-! ## A rebuild on its own -/

/-- The steps of a rebuild that goes over files. -/
def stepsOver (root : Files.Path) (g : Nat) (compile : Files.Path → Except Failure Document)
    (files : List Files.Path) : List Event :=
  files.map fun file => .compiled g (compile (root ++ file))

/-- What has come to its end nothing disturbs any more. -/
theorem undisturbed_ended (root : Files.Path) (ended : (s.outcome? g).isSome)
    (files : List Files.Path) : s.Undisturbed g compile (stepsOver root g compile files) := by
  intro before e after split
  obtain ⟨outcome, told⟩ := Option.isSome_iff_exists.1 ended
  have finished : ∀ p, (s.run before).progress? g = some p → ¬p.IsRunning := by
    intro p found running
    have still := outcome?_run_final before told
    rw [outcome?_of_progress? found, Progress.outcome?_eq_none_iff.2 running] at still
    cases still
  have member : e ∈ stepsOver root g compile files := by simp [split]
  obtain ⟨file, _, rfl⟩ := List.mem_map.1 member
  exact ⟨fun p found running => absurd running (finished p found),
    fun _ found => absurd trivial (finished _ found), nofun⟩

/-- Other events of a rebuild cannot disturb it. -/
theorem keeps_of_ne {e : Event} (other : ∀ result, e ≠ .compiled g result)
    (kept : e ≠ .cancelRebuild g) : s.Keeps g s.tree compile e :=
  ⟨fun _ _ _ => rfl, fun same _ => absurd same (other _), kept⟩

theorem keeps_compiled {collected : Index} {call : Nat} {file : Files.Path} {rest : List Files.Path}
    (found : s.progress? g = some (.compiling collected call file rest)) :
    s.Keeps g s.tree compile (.compiled g (compile file)) where
  tree _ _ _ := rfl
  results same waits := by
    cases same
    rw [found] at waits
    cases waits
    rfl
  kept := nofun

/-- A rebuild whose file was compiled goes on with the next one, or has come to its end. -/
theorem compile_goes {collected : Index} {call : Nat} {file : Files.Path} {rest : List Files.Path}
    (found : s.progress? g = some (.compiling collected call file rest))
    (result : Except Failure Document) :
    ((s.step (.compiled g result)).outcome? g).isSome ∨
      ∃ more next later, rest = next :: later ∧ (s.step (.compiled g result)).progress? g =
        some (.compiling more s.compiled.length next later) := by
  have known : (s.progress? g).isSome := by simp [found]
  simp only [step, Session.compile, found]
  cases s.collect collected file result with
  | error failure =>
      refine .inl ?_
      rw [outcome?_of_progress? (made_failed known failure).own]
      rfl
  | ok index =>
      cases rest with
      | nil =>
          refine .inl ?_
          dsimp only [advance]
          rw [outcome?_of_progress? (made_complete known index).own]
          rfl
      | cons next later => exact .inr ⟨index, next, later, rfl, setProgress_own known⟩

/-- A rebuild that compiles a file comes to its end once it and all others are compiled. -/
theorem stepsOver_end {collected : Index} {call : Nat} {root file : Files.Path}
    {rest : List Files.Path} (found : s.progress? g =
      some (.compiling collected call (root ++ file) (rest.map (root ++ ·)))) :
    s.Undisturbed g compile (stepsOver root g compile (file :: rest)) ∧
      ((s.run (stepsOver root g compile (file :: rest))).outcome? g).isSome := by
  induction rest generalizing s collected call file with
  | nil =>
      rcases compile_goes found (compile (root ++ file)) with finished | ⟨_, _, _, more, _⟩
      · exact ⟨.cons (keeps_compiled found) (own_step rfl).2 (undisturbed_ended root finished []), finished⟩
      · cases more
  | cons next rest ih =>
      rcases compile_goes found (compile (root ++ file)) with finished | ⟨_, _, _, more, goes⟩
      · obtain ⟨outcome, told⟩ := Option.isSome_iff_exists.1 finished
        have still := outcome?_run_final (stepsOver root g compile (next :: rest)) told
        exact ⟨.cons (keeps_compiled found) (own_step rfl).2 (undisturbed_ended root finished _),
          Option.isSome_iff_exists.2 ⟨outcome, still⟩⟩
      · cases more
        obtain ⟨later, finished⟩ := ih goes
        exact ⟨.cons (keeps_compiled found) (own_step rfl).2 later, finished⟩

/-- A rebuild that is scheduled comes to its end once the files are listed and each is compiled. -/
theorem alone_end (scheduled : s.progress? g = some .scheduled)
    (listed : Files.listDocuments s.tree s.root = .ok files)
    (compile : Files.Path → Except Failure Document) :
    let alone := .list g :: .proceed g :: stepsOver s.root g compile files
    s.Undisturbed g compile alone ∧ ((s.run alone).outcome? g).isSome := by
  have known : (s.progress? g).isSome := by simp [scheduled]
  have listing : s.listing = .ok (files.map (s.root ++ ·)) := by
    rw [Session.listing, listed]
    rfl
  have first : (s.step (.list g)).progress? g = some (.listed (.ok (files.map (s.root ++ ·)))) := by
    simp only [step, list, scheduled, listing]
    exact setProgress_own known
  have goes : (s.step (.list g)).step (.proceed g) =
      (s.step (.list g)).advance g { generation := g } (files.map (s.root ++ ·)) :=
    proceed_listed first
  have started : s.Keeps g s.tree compile (.list g) :=
    keeps_of_ne (fun _ same => by cases same) (fun same => by cases same)
  have begins : (s.step (.list g)).Keeps g (s.step (.list g)).tree compile (.proceed g) :=
    keeps_of_ne (fun _ same => by cases same) (fun same => by cases same)
  have later : ((s.step (.list g)).progress? g).isSome := by simp [first]
  have rest : ((s.step (.list g)).step (.proceed g)).Undisturbed g compile
      (stepsOver s.root g compile files) ∧
      ((((s.step (.list g)).step (.proceed g)).run (stepsOver s.root g compile files)).outcome?
        g).isSome := by
    rw [goes]
    cases files with
    | nil =>
        have finished : (((s.step (.list g)).advance g { generation := g } []).outcome? g).isSome := by
          dsimp only [advance]
          rw [outcome?_of_progress? (made_complete later _).own]
          rfl
        exact ⟨undisturbed_ended s.root finished [], finished⟩
    | cons file rest => exact stepsOver_end (setProgress_own later)
  exact ⟨.cons started (own_step rfl).2 (.cons begins (own_step rfl).2 rest.1), rest.2⟩

/-! ## Where a rebuild stops -/

/-- A rebuild takes the listed files in their order, each once, up to the first that does not compile
or whose id an earlier one has; it fails with what came of this one. If there is none, it builds an
index with one entry of each file, in their order in both views, each under what its document declares
or else its file is named, with ids that are different and not empty and with slugs that are different,
which are the places of the files below the root. This holds for every session that it is scheduled in,
whatever is live there, and whatever other rebuilds and callers do in the meantime. On its own it does
come to an end, and then nothing but these files has been compiled. -/
theorem rebuild_stops_at_first (scheduled : s.progress? g = some .scheduled)
    (proper : s.tree.Proper) (listed : Files.listDocuments s.tree s.root = .ok files)
    (compile : Files.Path → Except Failure Document) :
    let alone := .list g :: .proceed g :: stepsOver s.root g compile files
    let inPlace := files.map (s.root ++ ·)
    inPlace.Nodup ∧
    (s.Undisturbed g compile alone ∧ ((s.run alone).outcome? g).isSome ∧
      (s.run alone).compiled = s.compiled ++ s.begun g alone) ∧
    ∀ events outcome, s.Undisturbed g compile events → (s.run events).outcome? g = some outcome →
      (∀ k failure, Stops s.root compile files k failure →
        (∀ j < k, ∀ other, ¬Stops s.root compile files j other) →
          outcome = .failed failure ∧ s.begun g events = inPlace.take (k + 1)) ∧
      ((∀ k failure, ¬Stops s.root compile files k failure) →
        s.begun g events = inPlace ∧ ∃ index : Index, index.generation = g ∧
          List.Forall₂ (fun file entry => ∃ document, compile (s.root ++ file) = .ok document ∧
            entry = .below s.tree s.root file document ∧
              GoesUnder (s.root ++ file) document entry.id) files index.entries ∧
          index.byId = index.entries.map (fun entry => (entry.id, entry)) ∧
          index.byPath = index.entries.map (fun entry => (entry.path, entry)) ∧
          "" ∉ index.ids ∧ index.ids.Nodup ∧
          index.entries.map (·.slug) = files.map Files.relativeText ∧
          (files.map Files.relativeText).Nodup ∧
          s.Occurs events fun t e => t.Completes g e index ∧
            outcome = .done (t.registry.install index).index) := by
  intro alone inPlace
  have once := Files.nodup_listDocuments proper.distinct listed
  obtain ⟨undisturbed, ends⟩ := alone_end scheduled listed compile
  have own : ∀ e ∈ alone, e.rebuild? = some g := by
    refine List.forall_mem_cons.2 ⟨rfl, List.forall_mem_cons.2 ⟨rfl, ?_⟩⟩
    exact List.forall_mem_map.2 fun _ _ => rfl
  refine ⟨once.map fun a b => List.append_cancel_left, ⟨undisturbed, ends, compiled_run own⟩, ?_⟩
  intro events outcome quiet told
  obtain ⟨p, begun, found, same, stage⟩ := stage_run scheduled proper listed quiet
  rw [outcome?_of_progress? found] at told
  have halts : Halts s events g compile files outcome begun := by
    cases stage with
    | ended halts => exact Option.some.inj told ▸ halts
    | noted halts => exact Option.some.inj told ▸ halts
    | _ => cases told
  rw [same]
  cases halts with
  | @whole entries _ filled occurs =>
      refine ⟨?_, fun _ => ⟨rfl, .ofEntries g entries, rfl, ?_⟩⟩
      · intro k failure stops
        have inside : k < files.length := by
          cases stops with
          | uncompiled here => exact (List.getElem?_eq_some_iff.1 here).1
          | taken _ _ here => exact (List.getElem?_eq_some_iff.1 here).1
        rw [← List.append_nil files] at stops
        exact absurd stops (filled.not_stops inside)
      · have ids : (Index.ofEntries g entries).ids = entries.map (·.id) := Index.keys_byId g entries
        rw [Index.entries_ofEntries, ids]
        exact ⟨filled.goUnder, rfl, filled.byPath once g, filled.ids_ne_empty proper listed,
          filled.distinct, filled.map_eq _ fun _ _ => rfl, Files.nodup_slugs proper listed, occurs⟩
  | @stopped k failure stops first =>
      refine ⟨?_, fun never => absurd stops (never k failure)⟩
      intro other reason again firstToo
      obtain rfl : k = other := by
        rcases Nat.lt_trichotomy k other with before | same | after
        · exact absurd stops (firstToo k before failure)
        · exact same
        · exact absurd again (first other after reason)
      exact ⟨by rw [stops.unique again first], List.map_take⟩

def threePages : Files.Tree :=
  { nodes := [(["a.html"], .file []), (["b.html"], .file []), (["c.html"], .file [])] }

theorem listDocuments_threePages :
    Files.listDocuments threePages [] = .ok [["a.html"], ["b.html"], ["c.html"]] := by
  have short : ∀ here ∈ Files.searched threePages [], Files.isOverlong ([] ++ here) = false := by
    decide
  have found : Files.documentsBelow threePages [] = [["a.html"], ["b.html"], ["c.html"]] := by
    decide
  have ordered : [["a.html"], ["b.html"], ["c.html"]].mergeSort Files.isBefore =
      [["a.html"], ["b.html"], ["c.html"]] := List.mergeSort_of_pairwise (by decide)
  have listed := Files.searchDocuments_eq (.ofNodes threePages) rfl rfl short
  simp [Files.listDocuments, listed, found, ordered]

/-- The first page declares the id that the second has by its name, and the third does not compile. -/
def borrowing (path : Files.Path) : Except Failure Document :=
  if path = ["a.html"] then .ok { blankDocument path with id := some "b" }
  else if path = ["c.html"] then .error (.fault (.wrongValue "broken"))
  else .ok (blankDocument path)

/-- The second page stops the rebuild, before anything comes of the third. -/
theorem threePages_borrowing_stopped :
    let s := (Session.start [] threePages).step (.call .refresh)
    let files := [["a.html"], ["b.html"], ["c.html"]]
    let alone := .list 1 :: .proceed 1 :: stepsOver [] 1 borrowing files
    s.progress? 1 = some .scheduled ∧ s.tree.Proper ∧ Files.listDocuments s.tree [] = .ok files ∧
      (s.run alone).outcome? 1 = some (.failed (.duplicate "b" "a.html" "b.html")) ∧
      (s.run alone).compiled = [["a.html"], ["b.html"]] := by
  intro s files alone
  have proper : s.tree.Proper := ⟨by decide, by decide⟩
  obtain ⟨_, ⟨quiet, ends, compiled⟩, all⟩ :=
    rebuild_stops_at_first (s := s) (g := 1) rfl proper listDocuments_threePages borrowing
  obtain ⟨outcome, told⟩ := Option.isSome_iff_exists.1 ends
  have declared : GoesUnder ["a.html"] { blankDocument ["a.html"] with id := some "b" } "b" :=
    .declared rfl (by decide)
  have named : GoesUnder ["b.html"] (blankDocument ["b.html"]) "b" :=
    .named nofun (by decide) (.inr ⟨"html", by decide⟩)
  have taken : Stops [] borrowing files 1 (.duplicate "b" "a.html" "b.html") :=
    @Stops.taken [] borrowing _ 0 1 ["a.html"] ["b.html"] _ _ _ Nat.zero_lt_one rfl rfl rfl rfl
      declared named
  have first : ∀ j < 1, ∀ other, ¬Stops [] borrowing files j other := by
    rintro j early other (⟨here, failed⟩ | ⟨before, _⟩)
    · obtain rfl : j = 0 := by omega
      cases here
      cases failed
    · omega
  obtain ⟨failed, begun⟩ := (all _ outcome quiet told).1 1 _ taken first
  exact ⟨rfl, proper, listDocuments_threePages, told.trans (congrArg some failed),
    compiled.trans (congrArg (s.compiled ++ ·) begun)⟩

end Session
end DocumentServer
