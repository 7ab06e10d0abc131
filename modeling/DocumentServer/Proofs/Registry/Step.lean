import DocumentServer.Registry.Schedule

/-!
What one step does to a registry and its rebuilds. A rebuild starts, gets on, comes to its end with
an index or without one, or has its end noted; nothing else changes either of them.
-/
namespace DocumentServer

/-- A rebuild has not come to its end. -/
def Progress.IsRunning : Progress → Prop
  | .scheduled | .listed _ | .compiling .. => True
  | .ended _ | .noted _ => False

/-- The event is a step of a rebuild. -/
def Event.OfRebuild : Event → Prop
  | .list _ | .proceed _ | .compiled .. | .cancelRebuild _ | .note _ => True
  | .change _ | .call _ | .resume _ | .cancel _ => False

namespace Session

variable {s t : Session} {e : Event} {g h : Nat}

/-! ## The progress of a rebuild -/

theorem progress?_congr (same : t.rebuilds = s.rebuilds) (h : Nat) :
    t.progress? h = s.progress? h := by
  simp only [progress?, same]

theorem progress?_setProgress (s : Session) (g : Nat) (p : Progress) (h : Nat) :
    (s.setProgress g p).progress? h =
      if h = g then (s.progress? g).map fun _ => p else s.progress? h := by
  simp only [progress?, setProgress, List.find?_map, Option.map_map]
  have keeps : ((fun r : Rebuild => r.generation == h) ∘ fun r =>
      if r.generation == g then { r with progress := p } else r) = fun r => r.generation == h := by
    funext r
    simp only [Function.comp]
    split <;> rfl
  rw [keeps]
  split
  case isTrue same =>
    subst same
    cases found : s.rebuilds.find? (fun r => r.generation == h) with
    | none => rfl
    | some r =>
        have : r.generation = h := by simpa using List.find?_some found
        simp [this]
  case isFalse differ =>
    cases found : s.rebuilds.find? (fun r => r.generation == h) with
    | none => rfl
    | some r =>
        have : r.generation = h := by simpa using List.find?_some found
        simp [this, differ]

theorem progress?_startRebuild (s : Session) (h : Nat) :
    s.startRebuild.progress? h =
      (s.progress? h).or (if h = s.registry.generation + 1 then some .scheduled else none) := by
  simp only [progress?, startRebuild, Registry.start, List.find?_append, List.find?_singleton]
  by_cases last : h = s.registry.generation + 1
  · cases s.rebuilds.find? (fun r => r.generation == h) <;> simp [last]
  · have other : (s.registry.generation + 1 == h) = false := by simp [Ne.symm last]
    cases s.rebuilds.find? (fun r => r.generation == h) <;> simp [last, other]

theorem progress?_isSome : (s.progress? g).isSome ↔ g ∈ s.generations := by
  simp [progress?, generations, List.find?_isSome]

theorem generations_setProgress (s : Session) (g : Nat) (p : Progress) :
    (s.setProgress g p).generations = s.generations := by
  simp only [generations, setProgress, List.map_map]
  congr 1
  funext r
  simp only [Function.comp]
  split <;> rfl

/-! ## Steps -/

/-- One step of a rebuild that goes on after it. -/
inductive Advances (s : Session) (g : Nat) : Event → Progress → Progress → Prop
  | list : Advances s g (.list g) .scheduled (.listed s.listing)
  | first {file rest} : Advances s g (.proceed g) (.listed (.ok (file :: rest)))
      (.compiling { generation := g } s.compiled.length file rest)
  | next {collected call file result more following rest} :
      s.collect collected file result = .ok more →
      Advances s g (.compiled g result) (.compiling collected call file (following :: rest))
        (.compiling more s.compiled.length following rest)

/-- The step in which a rebuild runs to completion, with the index that it has collected. -/
inductive Completes (s : Session) (g : Nat) : Event → Index → Prop
  | empty : s.progress? g = some (.listed (.ok [])) → Completes s g (.proceed g) { generation := g }
  | last {collected call file result index} :
      s.progress? g = some (.compiling collected call file []) →
      s.collect collected file result = .ok index → Completes s g (.compiled g result) index

/-- The step in which a rebuild comes to its end without an index. -/
inductive Aborts (s : Session) (g : Nat) : Event → Outcome Index → Prop
  | listing {f} : s.progress? g = some (.listed (.error f)) →
      Aborts s g (.proceed g) (.failed (.fault f))
  | compile {collected call file rest result failure} :
      s.progress? g = some (.compiling collected call file rest) →
      s.collect collected file result = .error failure →
      Aborts s g (.compiled g result) (.failed failure)
  | cancelled {p} : s.progress? g = some p → p.IsRunning → Aborts s g (.cancelRebuild g) .cancelled

/-- All that a step can do to the registry and to the rebuilds. -/
inductive Move (s : Session) (e : Event) (t : Session) : Prop
  | rest : t.registry = s.registry → t.rebuilds = s.rebuilds → Move s e t
  | start {request} : e = .call request → t.registry = s.registry.start →
      t.rebuilds = s.startRebuild.rebuilds → Move s e t
  | advance {g p q} : s.progress? g = some p → Advances s g e p q → t.registry = s.registry →
      t.rebuilds = (s.setProgress g q).rebuilds → Move s e t
  | complete {g index} : Completes s g e index → t.registry = s.registry.install index →
      t.rebuilds = (s.setProgress g (.ended (.done t.registry.index))).rebuilds → Move s e t
  | abort {g outcome} : Aborts s g e outcome → t.registry = s.registry →
      t.rebuilds = (s.setProgress g (.ended outcome)).rebuilds → Move s e t
  | note {g outcome} : e = .note g → s.progress? g = some (.ended outcome) →
      t.registry = s.registry.conclude g outcome.isDone →
      t.rebuilds = (s.setProgress g (.noted outcome)).rebuilds → Move s e t

/-! ### Which moves the events make -/

/-- A step that leaves a rebuild where it is leaves everything. -/
private theorem Move.refl : Move s e s := .rest rfl rfl

theorem advance_move {collected : Index} {files : List Files.Path} {p : Progress}
    (found : s.progress? g = some p)
    (begins : ∀ file rest, files = file :: rest →
      Advances s g e p (.compiling collected s.compiled.length file rest))
    (ends : files = [] → Completes s g e collected) : Move s e (s.advance g collected files) := by
  cases files with
  | nil => exact .complete (ends rfl) rfl rfl
  | cons file rest => exact .advance found (begins file rest rfl) rfl rfl

theorem list_move (s : Session) (g : Nat) : Move s (.list g) (s.list g) := by
  unfold list
  split
  · next found => exact .advance found .list rfl rfl
  · exact .refl

theorem proceed_move (s : Session) (g : Nat) : Move s (.proceed g) (s.proceed g) := by
  unfold proceed
  split
  · next files found =>
      refine advance_move found ?_ ?_
      · rintro file rest rfl
        exact .first
      · rintro rfl
        exact .empty found
  · next found => exact .abort (.listing found) rfl rfl
  · exact .refl

theorem compile_move (s : Session) (g : Nat) (result : Except Failure Document) :
    Move s (.compiled g result) (s.compile g result) := by
  unfold compile
  split
  · next collected call file rest found =>
      split
      · next more gathered =>
          refine advance_move found ?_ ?_
          · rintro following rest rfl
            exact .next gathered
          · rintro rfl
            exact .last found gathered
      · next refused => exact .abort (.compile found refused) rfl rfl
  · exact .refl

theorem cancelRebuild_move (s : Session) (g : Nat) :
    Move s (.cancelRebuild g) (s.cancelRebuild g) := by
  unfold cancelRebuild
  split
  · next found => exact .abort (.cancelled found trivial) rfl rfl
  · next found => exact .abort (.cancelled found trivial) rfl rfl
  · next found => exact .abort (.cancelled found trivial) rfl rfl
  · exact .refl

theorem note_move (s : Session) (g : Nat) : Move s (.note g) (s.note g) := by
  unfold note
  split
  · next found => exact .note rfl found rfl rfl
  · exact .refl

theorem awaitInFlight_core (s : Session) (request : Request) :
    (s.awaitInFlight request).registry = s.registry ∧
      (s.awaitInFlight request).rebuilds = s.rebuilds := by
  unfold awaitInFlight await
  split
  · split <;> exact ⟨rfl, rfl⟩
  · exact ⟨rfl, rfl⟩

theorem call_refresh (s : Session) : s.call .refresh = s.startAndWait .refresh := by
  cases s.registry.phase <;> rfl

theorem call_populated {request : Request} (reads : request ≠ .refresh)
    (ready : s.registry.phase = .populated) :
    s.call request = s.addCaller request (.answered (s.lookUp request)) := by
  cases request <;> simp_all [call]

theorem call_unpopulated {request : Request} (reads : request ≠ .refresh)
    (unready : s.registry.phase ≠ .populated) :
    s.call request = s.ensureInFlight.awaitInFlight request := by
  cases request <;> cases phase : s.registry.phase <;> simp_all [call]

theorem ensureInFlight_eq (s : Session) :
    s.registry.inFlight = none ∧ s.ensureInFlight = s.startRebuild ∨
      s.registry.inFlight ≠ none ∧ s.ensureInFlight = s := by
  cases latest : s.registry.inFlight with
  | none => exact .inl ⟨rfl, by simp [ensureInFlight, latest]⟩
  | some g => exact .inr ⟨by simp, by simp [ensureInFlight, latest]⟩

theorem call_move (s : Session) (request : Request) : Move s (.call request) (s.call request) := by
  by_cases refreshes : request = .refresh
  · subst refreshes
    rw [call_refresh]
    exact .start rfl rfl rfl
  by_cases ready : s.registry.phase = .populated
  · rw [call_populated refreshes ready]
    exact .rest rfl rfl
  · rw [call_unpopulated refreshes ready]
    obtain ⟨registry, rebuilds⟩ := awaitInFlight_core s.ensureInFlight request
    rcases ensureInFlight_eq s with ⟨_, started⟩ | ⟨_, joined⟩
    · rw [started] at registry rebuilds ⊢
      exact .start rfl registry rebuilds
    · rw [joined] at registry rebuilds ⊢
      exact .rest registry rebuilds

theorem resume_move (s : Session) (caller : Nat) : Move s (.resume caller) (s.resume caller) := by
  unfold resume
  split
  · split <;> exact .rest rfl rfl
  · exact .refl

/-- Nobody waits but behind a shield, so giving up a wait leaves all rebuilds as they are. -/
@[simp] theorem giveUp_awaited (s : Session) (request : Request) (g : Nat) :
    s.giveUp (request.awaited g) = s := by
  cases request <;> rfl

theorem cancel_move (s : Session) (caller : Nat) : Move s (.cancel caller) (s.cancel caller) := by
  unfold cancel
  split
  · rw [giveUp_awaited]
    exact .rest rfl rfl
  · exact .refl

theorem step_move (s : Session) (e : Event) : Move s e (s.step e) := by
  cases e with
  | change tree => exact .rest rfl rfl
  | call request => exact call_move s request
  | list g => exact list_move s g
  | proceed g => exact proceed_move s g
  | compiled g result => exact compile_move s g result
  | cancelRebuild g => exact cancelRebuild_move s g
  | note g => exact note_move s g
  | resume caller => exact resume_move s caller
  | cancel caller => exact cancel_move s caller

/-! ### What steps of rebuilds leave alone -/

theorem advance_callers (s : Session) (g : Nat) (collected : Index) (files : List Files.Path) :
    (s.advance g collected files).callers = s.callers := by
  cases files <;> rfl

/-- A step of a rebuild tells callers nothing. -/
theorem rebuild_callers (s : Session) (e : Event) (concerns : e.OfRebuild) :
    (s.step e).callers = s.callers := by
  cases e with
  | list g =>
      simp only [step, list]
      split <;> rfl
  | proceed g =>
      simp only [step, proceed]
      split
      · exact advance_callers s g _ _
      · rfl
      · rfl
  | compiled g result =>
      simp only [step, compile]
      split
      · split
        · exact advance_callers s g _ _
        · rfl
      · rfl
  | cancelRebuild g =>
      simp only [step, cancelRebuild]
      split <;> rfl
  | note g =>
      simp only [step, note]
      split <;> rfl
  | change tree => exact concerns.elim
  | call request => exact concerns.elim
  | resume caller => exact concerns.elim
  | cancel caller => exact concerns.elim

end Session
end DocumentServer
