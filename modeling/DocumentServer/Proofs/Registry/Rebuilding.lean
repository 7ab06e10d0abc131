import DocumentServer.Proofs.Fault
import DocumentServer.Proofs.Registry.Callers

/-!
What a question leads to in a session in which nothing else goes on. A rebuild that nothing comes
between is one fold over the files as they are: it lists them, gets the document of each, and puts
their entries in place together, or fails with the first that fails.
-/
namespace DocumentServer

/-- A compiler that holds no call back. -/
def Compiler.prompt (compile : Files.Tree → Files.Path → Except Failure Document) : Compiler :=
  fun tree _ file => some (compile tree file)

/-- The registry after a rebuild that came to a result. -/
def Registry.receive (r : Registry) : Except Failure Index → Registry
  | .ok index => r.install index
  | .error _ => r

namespace Session

variable {s t : Session} {g : Nat} {compile : Files.Tree → Files.Path → Except Failure Document}

/-- What a rebuild makes of files, with what it has collected before. -/
def gather (s : Session) (compile : Files.Tree → Files.Path → Except Failure Document)
    (collected : Index) (files : List Files.Path) : Except Failure Index :=
  files.foldlM (fun collected file => s.collect collected file (compile s.tree file)) collected

/-- What a rebuild makes of the files as they are. -/
def rebuilt (s : Session) (g : Nat)
    (compile : Files.Tree → Files.Path → Except Failure Document) : Except Failure Index :=
  match s.listing with
  | .ok files => s.gather compile { generation := g } files
  | .error f => .error (.fault f)

/-! ## One rebuild -/

/-- A rebuild has come to a result, and nothing else has happened. -/
structure Made (s t : Session) (g : Nat) (result : Except Failure Index) : Prop where
  root : t.root = s.root
  tree : t.tree = s.tree
  callers : t.callers = s.callers
  registry : t.registry = s.registry.receive result
  own : t.progress? g =
    some (.ended (.ofExcept (result.map fun index => (s.registry.install index).index)))
  others : ∀ h, h ≠ g → t.progress? h = s.progress? h

theorem collect_congr (root : t.root = s.root) (tree : t.tree = s.tree) (collected : Index)
    (file : Files.Path) (result : Except Failure Document) :
    t.collect collected file result = s.collect collected file result := by
  simp only [collect, root, tree]

theorem gather_congr (root : t.root = s.root) (tree : t.tree = s.tree) (collected : Index)
    (files : List Files.Path) : t.gather compile collected files = s.gather compile collected files := by
  simp only [gather, tree, collect_congr root tree]

theorem Made.of_congr {result : Except Failure Index} (made : Made t s g result)
    {first : Session} (root : t.root = first.root) (tree : t.tree = first.tree)
    (callers : t.callers = first.callers) (registry : t.registry = first.registry)
    (others : ∀ h, h ≠ g → t.progress? h = first.progress? h) : Made first s g result where
  root := made.root.trans root
  tree := made.tree.trans tree
  callers := made.callers.trans callers
  registry := registry ▸ made.registry
  own := registry ▸ made.own
  others := fun h other => (made.others h other).trans (others h other)

theorem setProgress_other (s : Session) (p : Progress) {h : Nat} (other : h ≠ g) :
    (s.setProgress g p).progress? h = s.progress? h := by
  rw [progress?_setProgress, if_neg other]

theorem setProgress_own {p : Progress} (known : (s.progress? g).isSome) :
    (s.setProgress g p).progress? g = some p := by
  obtain ⟨q, found⟩ := Option.isSome_iff_exists.1 known
  rw [progress?_setProgress, if_pos rfl, found]
  rfl

theorem made_failed (known : (s.progress? g).isSome) (failure : Failure) :
    Made s (s.endRebuild g (.failed failure)) g (.error failure) where
  root := rfl
  tree := rfl
  callers := rfl
  registry := rfl
  own := setProgress_own known
  others := fun _ other => setProgress_other s _ other

theorem made_complete (known : (s.progress? g).isSome) (index : Index) :
    Made s (s.complete g index) g (.ok index) where
  root := rfl
  tree := rfl
  callers := rfl
  registry := rfl
  own := setProgress_own known
  others := fun _ other => setProgress_other _ _ other

theorem compileFiles_ended {outcome : Outcome Index} (compiler : Compiler) (steps : Nat)
    (ended : s.progress? g = some (.ended outcome)) :
    compileFiles compiler g steps s = s := by
  cases steps with
  | zero => rfl
  | succ steps => rw [compileFiles, ended]

/-- A rebuild goes over its files one by one, up to the first that fails. -/
theorem made_compileFiles (known : (s.progress? g).isSome) (collected : Index)
    (files : List Files.Path) :
    Made s (compileFiles (.prompt compile) g files.length (s.advance g collected files)) g
      (s.gather compile collected files) := by
  induction files generalizing s collected with
  | nil => exact made_complete known collected
  | cons file rest ih =>
      have waits : (s.advance g collected (file :: rest)).progress? g =
          some (.compiling collected s.compiled.length file rest) := setProgress_own known
      have later : ((s.advance g collected (file :: rest)).progress? g).isSome := by
        rw [waits]
        rfl
      have others : ∀ h, h ≠ g →
          (s.advance g collected (file :: rest)).progress? h = s.progress? h :=
        fun h other => setProgress_other _ _ other
      have tree : (s.advance g collected (file :: rest)).tree = s.tree := rfl
      have root : (s.advance g collected (file :: rest)).root = s.root := rfl
      have callers : (s.advance g collected (file :: rest)).callers = s.callers := rfl
      have registry : (s.advance g collected (file :: rest)).registry = s.registry := rfl
      generalize s.advance g collected (file :: rest) = t at *
      simp only [List.length_cons, compileFiles, waits, Compiler.prompt, step, Session.compile]
      rw [gather, List.foldlM_cons, collect_congr root tree, tree]
      cases joined : s.collect collected file (compile s.tree file) with
      | error failure =>
          have made := made_failed later failure
          dsimp only
          rw [compileFiles_ended _ _ made.own]
          exact made.of_congr root tree callers registry others
      | ok more =>
          have made := ih later more
          rw [gather_congr root tree] at made
          exact made.of_congr root tree callers registry others

theorem Progress.remaining_advance (known : (s.progress? g).isSome) (collected : Index)
    (files : List Files.Path) :
    (((s.advance g collected files).progress? g).map Progress.remaining).getD 0 = files.length := by
  cases files with
  | nil =>
      have ended := (made_complete known collected).own
      rw [advance, ended]
      rfl
  | cons file rest =>
      have waits : (s.advance g collected (file :: rest)).progress? g =
          some (.compiling collected s.compiled.length file rest) := setProgress_own known
      rw [waits]
      rfl

/-- A rebuild that has been scheduled goes on up to its end. -/
theorem made_scheduled (found : s.progress? g = some .scheduled) :
    let listed := (s.step (.list g)).step (.proceed g)
    let remaining := ((listed.progress? g).map Progress.remaining).getD 0
    Made s (compileFiles (.prompt compile) g remaining listed) g (s.rebuilt g compile) := by
  have known : (s.progress? g).isSome := by simp [found]
  have own : (s.setProgress g (.listed s.listing)).progress? g = some (.listed s.listing) :=
    setProgress_own known
  have later : ((s.setProgress g (.listed s.listing)).progress? g).isSome := by simp [own]
  have others : ∀ h, h ≠ g →
      (s.setProgress g (.listed s.listing)).progress? h = s.progress? h :=
    fun h other => setProgress_other s _ other
  simp only [step, list, found, proceed, own, rebuilt]
  generalize s.listing = listed at *
  cases listed with
  | error f =>
      have made := made_failed later (.fault f)
      dsimp only
      rw [compileFiles_ended _ _ made.own]
      exact made.of_congr rfl rfl rfl rfl others
  | ok files =>
      dsimp only
      rw [Progress.remaining_advance later]
      exact (made_compileFiles later { generation := g } files).of_congr rfl rfl rfl rfl others

/-- A rebuild has come to a result, its end is noted, and nothing else has happened. -/
structure Settled (s t : Session) (g : Nat) (result : Except Failure Index) : Prop where
  root : t.root = s.root
  tree : t.tree = s.tree
  callers : t.callers = s.callers
  registry : t.registry = (s.registry.receive result).conclude g result.isOk
  own : t.progress? g =
    some (.noted (.ofExcept (result.map fun index => (s.registry.install index).index)))
  others : ∀ h, h ≠ g → t.progress? h = s.progress? h

theorem Made.note {result : Except Failure Index} (made : Made s t g result) :
    Settled s (t.step (.note g)) g result := by
  have known : (t.progress? g).isSome := by simp [made.own]
  have done : (Outcome.ofExcept
      (result.map fun index => (s.registry.install index).index)).isDone = result.isOk := by
    cases result <;> rfl
  simp only [step, Session.note, made.own, done]
  exact {
    root := made.root
    tree := made.tree
    callers := made.callers
    registry := by rw [← made.registry]; rfl
    own := setProgress_own known
    others := fun h other => (setProgress_other _ _ other).trans (made.others h other) }

theorem settled_settleRebuild (found : s.progress? g = some .scheduled) :
    Settled s (settleRebuild (.prompt compile) s g) g (s.rebuilt g compile) :=
  (made_scheduled found).note

/-! ## All rebuilds -/

/-- No rebuild is under way. -/
def Idle (s : Session) : Prop := ∀ g p, s.progress? g = some p → ∃ outcome, p = .noted outcome

theorem settleRebuild_noted {outcome : Outcome Index} (compiler : Compiler)
    (noted : s.progress? g = some (.noted outcome)) : settleRebuild compiler s g = s := by
  have listed : s.step (.list g) = s := by simp only [step, list, noted]
  have proceeded : s.step (.proceed g) = s := by simp only [step, proceed, noted]
  have passed : s.step (.note g) = s := by simp only [step, Session.note, noted]
  simp only [settleRebuild, listed, proceeded, noted, Option.map_some, Progress.remaining,
    Option.getD_some, compileFiles, passed]

theorem settleRebuilds_noted (compiler : Compiler) (known : List Nat)
    (noted : ∀ h ∈ known, ∃ outcome, s.progress? h = some (.noted outcome)) :
    known.foldl (settleRebuild compiler) s = s := by
  induction known with
  | nil => rfl
  | cons h rest ih =>
      obtain ⟨⟨outcome, found⟩, later⟩ := List.forall_mem_cons.1 noted
      rw [List.foldl_cons, settleRebuild_noted compiler found, ih later]

theorem Idle.noted (idle : s.Idle) : ∀ h ∈ s.generations,
    ∃ outcome, s.progress? h = some (.noted outcome) := by
  intro h known
  obtain ⟨p, found⟩ := Option.isSome_iff_exists.1 (progress?_isSome.2 known)
  obtain ⟨outcome, rfl⟩ := idle h p found
  exact ⟨outcome, found⟩

/-! ## Callers that go on -/

/-- Two sessions differ in their callers only. -/
structure SameCore (s t : Session) : Prop where
  root : t.root = s.root
  tree : t.tree = s.tree
  registry : t.registry = s.registry
  rebuilds : t.rebuilds = s.rebuilds

theorem SameCore.trans {u : Session} (first : SameCore s t) (second : SameCore t u) :
    SameCore s u where
  root := second.root.trans first.root
  tree := second.tree.trans first.tree
  registry := second.registry.trans first.registry
  rebuilds := second.rebuilds.trans first.rebuilds

theorem SameCore.replyAfter (same : SameCore s t) (request : Request) (outcome : Outcome Index) :
    t.replyAfter request outcome = s.replyAfter request outcome := by
  cases outcome <;> cases request <;>
    simp only [Session.replyAfter, lookUp, same.registry, same.tree]

theorem SameCore.progress? (same : SameCore s t) (g : Nat) : t.progress? g = s.progress? g :=
  progress?_congr same.rebuilds g

theorem resume_other (s : Session) (i : Nat) :
    SameCore s (s.step (.resume i)) ∧
      ∀ j, j ≠ i → (s.step (.resume i)).callers[j]? = s.callers[j]? := by
  simp only [step, resume]
  split
  · split
    · refine ⟨⟨rfl, rfl, rfl, rfl⟩, fun j other => ?_⟩
      rw [setStanding_callers, if_neg (Ne.symm other)]
    · exact ⟨⟨rfl, rfl, rfl, rfl⟩, fun _ _ => rfl⟩
  · exact ⟨⟨rfl, rfl, rfl, rfl⟩, fun _ _ => rfl⟩

theorem resumes_later (s : Session) (n : Nat) :
    let t := (List.range n).foldl (fun s i => s.step (.resume i)) s
    SameCore s t ∧ ∀ j, n ≤ j → t.callers[j]? = s.callers[j]? := by
  induction n with
  | zero => exact ⟨⟨rfl, rfl, rfl, rfl⟩, fun _ _ => rfl⟩
  | succ n ih =>
      obtain ⟨same, kept⟩ := ih
      rw [List.range_succ, List.foldl_append]
      generalize (List.range n).foldl (fun s i => s.step (.resume i)) s = t at *
      obtain ⟨later, others⟩ := resume_other t n
      refine ⟨same.trans later, fun j above => ?_⟩
      exact (others j (by omega)).trans (kept j (by omega))

theorem resume_answered {request : Request} {reply : Outcome Reply} {i : Nat}
    (there : s.callers[i]? = some ⟨request, .answered reply⟩) : s.step (.resume i) = s := by
  simp only [step, resume, there]

theorem resume_noted {request : Request} {outcome : Outcome Index} {i : Nat}
    (there : s.callers[i]? = some ⟨request, .waiting g⟩)
    (noted : s.progress? g = some (.noted outcome)) :
    (s.step (.resume i)).callers[i]? =
      some ⟨request, .answered (s.replyAfter request outcome)⟩ := by
  simp only [step, resume, there, noted]
  rw [setStanding_callers, if_pos rfl, there]
  rfl

theorem getLast?_of_getElem? {α : Type} {all : List α} {a : α} {n : Nat} (there : all[n]? = some a)
    (none : all[n + 1]? = none) : all.getLast? = some a := by
  have above := List.getElem?_eq_none_iff.1 none
  have below := (List.getElem?_eq_some_iff.1 there).1
  have last : all.length - 1 = n := by omega
  rw [List.getLast?_eq_getElem?, last, there]

/-- What the last of some callers is told when all have gone on. -/
theorem lastOutcome_resumes {request : Request} {standing : Standing} {reply : Outcome Reply}
    {earlier : List Caller} (last : s.callers = earlier ++ [⟨request, standing⟩])
    (told : standing = .answered reply ∨ ∃ g outcome, standing = .waiting g ∧
      s.progress? g = some (.noted outcome) ∧ reply = s.replyAfter request outcome) :
    let t := (List.range s.callers.length).foldl (fun s i => s.step (.resume i)) s
    SameCore s t ∧ t.lastOutcome = reply := by
  have length : s.callers.length = earlier.length + 1 := by simp [last]
  obtain ⟨same, kept⟩ := resumes_later s earlier.length
  rw [length, List.range_succ, List.foldl_append]
  generalize (List.range earlier.length).foldl (fun s i => s.step (.resume i)) s = t at *
  have there : t.callers[earlier.length]? = some ⟨request, standing⟩ := by
    rw [kept _ (Nat.le_refl _), last]
    simp
  have above : t.callers[earlier.length + 1]? = none := by
    rw [kept _ (Nat.le_succ _), last]
    simp
  obtain ⟨later, others⟩ := resume_other t earlier.length
  have answered : (t.step (.resume earlier.length)).callers[earlier.length]? =
      some ⟨request, .answered reply⟩ := by
    rcases told with rfl | ⟨g, outcome, rfl, noted, rfl⟩
    · rw [resume_answered there, there]
    · rw [← same.progress? g] at noted
      rw [resume_noted there noted, same.replyAfter]
  have none := (others _ (Nat.succ_ne_self _)).trans above
  refine ⟨same.trans later, ?_⟩
  simp only [List.foldl_cons, List.foldl_nil, lastOutcome, getLast?_of_getElem? answered none]

/-! ## Questions -/

/-- A question that needs no rebuild is answered at once. -/
theorem ask_populated (idle : s.Idle) (compiler : Compiler) {request : Request}
    (reads : request ≠ .refresh) (ready : s.registry.phase = .populated) :
    (s.ask compiler request).1 = s.lookUp request ∧ SameCore s (s.ask compiler request).2 := by
  have called := call_populated reads ready
  let standing := Standing.answered (s.lookUp request)
  have core : SameCore s (s.addCaller request standing) := ⟨rfl, rfl, rfl, rfl⟩
  have quiet : (s.addCaller request standing).generations.foldl (settleRebuild compiler)
      (s.addCaller request standing) = s.addCaller request standing :=
    settleRebuilds_noted compiler _ idle.noted
  obtain ⟨same, told⟩ := lastOutcome_resumes (s := s.addCaller request standing) rfl (.inl rfl)
  simp only [ask, settle, step, called]
  rw [quiet]
  exact ⟨told, core.trans same⟩

/-- A question that needs a rebuild starts one. -/
theorem call_starts (sound : s.Sound) (idle : s.Idle) {request : Request}
    (needs : request = .refresh ∨ s.registry.phase ≠ .populated) :
    s.call request = s.startAndWait request := by
  by_cases refreshes : request = .refresh
  · subst refreshes
    exact call_refresh s
  have unready := needs.resolve_left refreshes
  have free : s.registry.inFlight = none := by
    rw [Option.eq_none_iff_forall_ne_some]
    intro g latest
    obtain ⟨_, p, found, unnoted⟩ := sound.inFlight g latest
    obtain ⟨outcome, rfl⟩ := idle g p found
    exact unnoted outcome rfl
  have started : s.ensureInFlight = s.startRebuild := by simp [ensureInFlight, free]
  have unended : s.startRebuild.outcome? (s.registry.generation + 1) = none := by
    rw [outcome?, sound.progress?_new]
    rfl
  rw [call_unpopulated refreshes unready, started]
  change s.startRebuild.await request (s.registry.generation + 1) = _
  simp only [await, unended]
  rfl

theorem startAndWait_other (s : Session) (request : Request) {h : Nat}
    (other : h ≠ s.registry.generation + 1) :
    (s.startAndWait request).progress? h = s.progress? h := by
  have started := progress?_startRebuild s h
  rwa [if_neg other, Option.or_none] at started

/-- Of all rebuilds only the one that a question starts has anything to do. -/
theorem settled_started (sound : s.Sound) (idle : s.Idle) (request : Request) :
    Settled (s.startAndWait request)
      ((s.startAndWait request).generations.foldl (settleRebuild (.prompt compile))
        (s.startAndWait request))
      (s.registry.generation + 1) (s.rebuilt (s.registry.generation + 1) compile) := by
  have quiet : s.generations.foldl (settleRebuild (.prompt compile)) (s.startAndWait request) =
      s.startAndWait request := by
    refine settleRebuilds_noted _ _ fun h known => ?_
    have before := progress?_isSome.2 known
    obtain ⟨outcome, found⟩ := idle.noted h known
    refine ⟨outcome, ?_⟩
    rw [startAndWait_other s request ?_, found]
    rintro rfl
    rw [sound.unknown (Nat.lt_succ_self _)] at before
    cases before
  have generations : (s.startAndWait request).generations =
      s.generations ++ [s.registry.generation + 1] := by
    simp [Session.generations, startAndWait, addCaller, startRebuild, Registry.start]
  have own : (s.startAndWait request).progress? (s.registry.generation + 1) = some .scheduled :=
    sound.progress?_new
  have same : (s.startAndWait request).rebuilt (s.registry.generation + 1) compile =
      s.rebuilt (s.registry.generation + 1) compile := by
    simp only [rebuilt, listing]
    rfl
  rw [generations, List.foldl_append, quiet, ← same]
  exact settled_settleRebuild own

theorem Settled.idle {result : Except Failure Index} (settled : Settled s t g result)
    (others : ∀ h p, h ≠ g → s.progress? h = some p → ∃ outcome, p = .noted outcome) : t.Idle := by
  intro h p found
  by_cases this : h = g
  · subst this
    rw [settled.own] at found
    exact ⟨_, (Option.some.inj found).symm⟩
  · rw [settled.others h this] at found
    exact others h p this found

/-- A question that needs a rebuild is answered with what that makes of the files. -/
theorem ask_rebuilds (sound : s.Sound) (idle : s.Idle) {request : Request}
    (needs : request = .refresh ∨ s.registry.phase ≠ .populated) :
    let g := s.registry.generation + 1
    let result := s.rebuilt g compile
    let after := (s.ask (.prompt compile) request).2
    after.Idle ∧ after.root = s.root ∧ after.tree = s.tree ∧
    after.registry = (s.registry.start.receive result).conclude g result.isOk ∧
    (s.ask (.prompt compile) request).1 = after.replyAfter request
      (.ofExcept (result.map fun index => (s.registry.start.install index).index)) := by
  intro g result after
  have settled : Settled _ _ g result := settled_started sound idle request
  have quiet := settled.idle fun h p other found =>
    idle h p (startAndWait_other s request other ▸ found)
  have asked : s.ask (.prompt compile) request =
      let t := (s.startAndWait request).generations.foldl (settleRebuild (.prompt compile))
        (s.startAndWait request)
      let u := (List.range t.callers.length).foldl (fun s i => s.step (.resume i)) t
      (u.lastOutcome, u) := by
    simp only [ask, Session.settle, step, call_starts sound idle needs]
  generalize (s.startAndWait request).generations.foldl (settleRebuild (.prompt compile))
    (s.startAndWait request) = t at *
  obtain ⟨same, told⟩ := lastOutcome_resumes settled.callers
    (.inr ⟨g, _, rfl, settled.own, rfl⟩)
  simp only [after, asked, same.replyAfter, told]
  refine ⟨fun h p found => quiet h p ?_, same.root.trans settled.root,
    same.tree.trans settled.tree, same.registry.trans settled.registry, rfl⟩
  rwa [same.progress?] at found

theorem gather_generation {collected index : Index} {files : List Files.Path}
    (gathered : s.gather compile collected files = .ok index) :
    index.generation = collected.generation := by
  induction files generalizing collected with
  | nil =>
      cases gathered
      rfl
  | cons file rest ih =>
      rw [gather, List.foldlM_cons] at gathered
      obtain ⟨more, joined, later⟩ := bind_eq_ok.1 gathered
      exact (ih later).trans (collect_generation joined)

theorem rebuilt_generation {index : Index} (made : s.rebuilt g compile = .ok index) :
    index.generation = g := by
  unfold rebuilt at made
  split at made
  · exact gather_generation made
  · cases made

/-- An index of the next generation takes the place of the live one. -/
theorem start_install {r : Registry} {index : Index} (later : r.index.generation ≤ r.generation)
    (next : index.generation = r.generation + 1) :
    r.start.install index = { r.start with index, phase := .populated } := by
  rw [Registry.install, if_pos]
  rw [next]
  exact Nat.lt_succ_of_le later

theorem Sound.live_le (sound : s.Sound) : s.registry.index.generation ≤ s.registry.generation := by
  rcases Nat.eq_zero_or_pos s.registry.index.generation with none | positive
  · omega
  · obtain ⟨index, told⟩ := sound.live positive
    obtain ⟨p, found, _⟩ := Option.bind_eq_some_iff.1 told
    exact (sound.known found).2

/-- A question for which a rebuild succeeds is answered out of the index that it made. -/
theorem ask_made (sound : s.Sound) (idle : s.Idle) {request : Request}
    (needs : request = .refresh ∨ s.registry.phase ≠ .populated) {index : Index}
    (made : s.rebuilt (s.registry.generation + 1) compile = .ok index) :
    let asked := s.ask (.prompt compile) request
    asked.2.Idle ∧ asked.2.root = s.root ∧ asked.2.tree = s.tree ∧
    asked.2.registry = { index, phase := .populated, generation := s.registry.generation + 1 } ∧
    asked.1 = asked.2.lookUp request := by
  have rebuilds := @ask_rebuilds s compile sound idle request needs
  dsimp only at rebuilds
  rw [made] at rebuilds
  have installed := start_install sound.live_le (rebuilt_generation made)
  obtain ⟨rested, root, tree, registry, told⟩ := rebuilds
  have live : (s.ask (.prompt compile) request).2.registry =
      { index, phase := .populated, generation := s.registry.generation + 1 } := by
    rw [registry, Registry.receive, installed]
    simp [Registry.conclude, Registry.start, Except.isOk, Except.toBool]
  refine ⟨rested, root, tree, live, ?_⟩
  rw [told, Except.map, installed]
  cases request with
  | refresh => simp only [Outcome.ofExcept, replyAfter, lookUp, live]
  | _ => rfl

/-- A question for which a rebuild fails is answered with the failure. The index stays. -/
theorem ask_failed (sound : s.Sound) (idle : s.Idle) {request : Request}
    (needs : request = .refresh ∨ s.registry.phase ≠ .populated) {failure : Failure}
    (failed : s.rebuilt (s.registry.generation + 1) compile = .error failure) :
    let asked := s.ask (.prompt compile) request
    asked.2.Idle ∧ asked.2.root = s.root ∧ asked.2.tree = s.tree ∧
    asked.2.registry.index = s.registry.index ∧ asked.1 = .failed failure := by
  have rebuilds := @ask_rebuilds s compile sound idle request needs
  dsimp only at rebuilds
  rw [failed] at rebuilds
  obtain ⟨rested, root, tree, registry, told⟩ := rebuilds
  refine ⟨rested, root, tree, ?_, told⟩
  rw [registry, Registry.conclude_index]
  rfl

theorem SameCore.idle (same : SameCore s t) (idle : s.Idle) : t.Idle := by
  intro g p found
  rw [same.progress?] at found
  exact idle g p found

theorem SameCore.lookUp (same : SameCore s t) (request : Request) :
    t.lookUp request = s.lookUp request := by
  cases request <;> simp only [Session.lookUp, same.registry, same.tree]

/-- A question leaves no rebuild under way. -/
theorem Idle.ask (idle : s.Idle) (sound : s.Sound) (request : Request) :
    (s.ask (.prompt compile) request).2.Idle := by
  by_cases needs : request = .refresh ∨ s.registry.phase ≠ .populated
  · exact (ask_rebuilds sound idle needs).1
  · rw [not_or, Classical.not_not] at needs
    exact (ask_populated idle _ needs.1 needs.2).2.idle idle

/-- A question that is answered leaves a registry out of which it is answered so. -/
theorem ask_done (sound : s.Sound) (idle : s.Idle) {request : Request} {reply : Reply}
    (done : (s.ask (.prompt compile) request).1 = .done reply) :
    let after := (s.ask (.prompt compile) request).2
    after.registry.phase = .populated ∧ after.lookUp request = .done reply := by
  by_cases needs : request = .refresh ∨ s.registry.phase ≠ .populated
  · cases made : s.rebuilt (s.registry.generation + 1) compile with
    | ok index =>
        obtain ⟨_, _, _, registry, told⟩ := ask_made sound idle needs made
        rw [done] at told
        exact ⟨by rw [registry], told.symm⟩
    | error failure =>
        obtain ⟨_, _, _, _, told⟩ := ask_failed sound idle needs made
        rw [done] at told
        cases told
  · rw [not_or, Classical.not_not] at needs
    obtain ⟨told, same⟩ := ask_populated idle (.prompt compile) needs.1 needs.2
    intro after
    refine ⟨by rw [same.registry, needs.2], ?_⟩
    rw [same.lookUp, ← told, done]

/-! ## Questions as runs -/

theorem compileFiles_run (compiler : Compiler) (g steps : Nat) (s : Session) :
    ∃ events, compileFiles compiler g steps s = s.run events := by
  induction steps generalizing s with
  | zero => exact ⟨[], rfl⟩
  | succ steps ih =>
      unfold compileFiles
      split
      · split
        · next result _ =>
            obtain ⟨events, same⟩ := ih (s.step (.compiled g result))
            exact ⟨.compiled g result :: events, same⟩
        · exact ⟨[], rfl⟩
      · exact ⟨[], rfl⟩

theorem settleRebuild_run (compiler : Compiler) (s : Session) (g : Nat) :
    ∃ events, settleRebuild compiler s g = s.run events := by
  let listed := (s.step (.list g)).step (.proceed g)
  obtain ⟨events, same⟩ := compileFiles_run compiler g
    (((listed.progress? g).map Progress.remaining).getD 0) listed
  refine ⟨.list g :: .proceed g :: events ++ [.note g], ?_⟩
  rw [List.cons_append, List.cons_append, run, List.foldl_cons, List.foldl_cons, List.foldl_append]
  exact congrArg (·.step (.note g)) same

/-- What is done for some numbers one after the other is a run, if each of them is. -/
theorem foldl_run {f : Session → Nat → Session} (runs : ∀ s n, ∃ events, f s n = s.run events)
    (numbers : List Nat) (s : Session) : ∃ events, numbers.foldl f s = s.run events := by
  induction numbers generalizing s with
  | nil => exact ⟨[], rfl⟩
  | cons n rest ih =>
      obtain ⟨first, same⟩ := runs s n
      obtain ⟨second, later⟩ := ih (f s n)
      refine ⟨first ++ second, ?_⟩
      rw [List.foldl_cons, later, same, run, run, run, List.foldl_append]

/-- All that a question leads to are steps of the session. -/
theorem ask_run (compiler : Compiler) (s : Session) (request : Request) :
    ∃ events, (s.ask compiler request).2 = s.run events := by
  let called := s.step (.call request)
  obtain ⟨rebuilds, built⟩ := foldl_run (settleRebuild_run compiler) called.generations called
  obtain ⟨resumes, resumed⟩ := foldl_run 
    (fun s i => ⟨[.resume i], rfl⟩) (List.range (called.run rebuilds).callers.length)
    (called.run rebuilds)
  refine ⟨.call request :: (rebuilds ++ resumes), ?_⟩
  rw [run, List.foldl_cons, List.foldl_append]
  simp only [ask, settle]
  rw [built]
  exact resumed

end Session
end DocumentServer
