import DocumentServer.Proofs.Registry.Callers
import DocumentServer.Proofs.Registry.Provenance

/-!
Callers in the course of a run. A caller joins a rebuild in one step and is told something in that
step or in a later one: what came of the rebuild, unless it was given up before.
-/
namespace DocumentServer.Session

variable {start s : Session} {events : List Event} {e : Event} {g caller : Nat}
  {request : Request} {reply : Outcome Reply}

/-- A caller comes and needs a rebuild: a refresh its own, other requests the one in flight, as long
as the registry is not populated. -/
def Joins (caller g : Nat) (request : Request) (s : Session) (e : Event) : Prop :=
  e = .call request ∧ caller = s.callers.length ∧
    (request = .refresh ∧ g = s.registry.generation + 1 ∨
      request ≠ .refresh ∧ s.registry.phase ≠ .populated ∧
        s.ensureInFlight.registry.inFlight = some g)

/-- A waiting caller is given up. -/
def GivesUp (caller : Nat) (s : Session) (e : Event) : Prop :=
  e = .cancel caller ∧ ∃ request g, s.callers[caller]? = some ⟨request, .waiting g⟩

/-- A caller is told something that it was not told before. -/
def Tells (caller : Nat) (request : Request) (reply : Outcome Reply) (s : Session) (e : Event) :
    Prop :=
  s.callers[caller]? ≠ some ⟨request, .answered reply⟩ ∧
    (s.step e).callers[caller]? = some ⟨request, .answered reply⟩

/-! ## One step -/

theorem ensureInFlight_of_some (latest : s.registry.inFlight = some g) : s.ensureInFlight = s := by
  rcases ensureInFlight_eq s with ⟨none, _⟩ | ⟨_, joined⟩
  · rw [none] at latest
    cases latest
  · exact joined

theorem Sound.answers_of_tells (sound : s.Sound) (tells : Tells caller request reply s e) :
    Answers s request e caller reply := by
  obtain ⟨untold, now⟩ := tells
  rcases sound.caller_cases now with before | ⟨_, same, told⟩ | ⟨_, _, _, same⟩
  · exact absurd before untold
  · cases same
    exact told
  · cases same

/-- A caller waits for a rebuild from the step on in which it joins it. -/
theorem Joins.standing (joins : Joins caller g request s e) (sound : s.Sound) :
    (s.step e).callers[caller]? = some ⟨request, .waiting g⟩ ∨
      ∃ outcome, s.outcome? g = some outcome ∧
        (s.step e).callers[caller]? = some ⟨request, .answered (s.replyAfter request outcome)⟩ := by
  obtain ⟨rfl, rfl, ⟨rfl, rfl⟩ | ⟨reads, unready, latest⟩⟩ := joins
  · exact .inl (call_refresh_caller s)
  · obtain ⟨standing, callers, stands⟩ := sound.join_caller reads unready latest
    have last : (s.call request).callers[s.callers.length]? = some ⟨request, standing⟩ := by
      rw [callers, List.getElem?_concat_length]
    rcases stands with rfl | ⟨outcome, _, ended, rfl⟩
    · exact .inl last
    · exact .inr ⟨outcome, ended, last⟩

/-- A rebuild that is joined is the latest. -/
theorem Joins.latest (joins : Joins caller g request s e) (sound : s.Sound) :
    (s.step e).registry.generation = g := by
  obtain ⟨rfl, rfl, ⟨rfl, rfl⟩ | ⟨reads, unready, inFlight⟩⟩ := joins
  · rw [Session.step, call_refresh]
    rfl
  · rw [Session.step, call_unpopulated reads unready, (awaitInFlight_core _ _).1]
    rcases ensureInFlight_eq s with ⟨_, started⟩ | ⟨_, joined⟩
    · rw [started] at inFlight ⊢
      exact Option.some.inj inFlight
    · rw [joined] at inFlight ⊢
      exact (sound.inFlight g inFlight).1.symm

/-- Who waits after a step has waited before, or joins a rebuild in it. -/
theorem Sound.waiting_cases (sound : s.Sound)
    (now : (s.step e).callers[caller]? = some ⟨request, .waiting g⟩) :
    s.callers[caller]? = some ⟨request, .waiting g⟩ ∨ Joins caller g request s e := by
  rcases sound.caller_cases now with before | ⟨_, same, _⟩ | ⟨rfl, rfl, _⟩
  · exact .inl before
  · cases same
  · refine .inr ⟨rfl, rfl, ?_⟩
    by_cases refreshes : request = .refresh
    · subst refreshes
      rw [Session.step, call_refresh_caller] at now
      cases now
      exact .inl ⟨rfl, rfl⟩
    by_cases ready : s.registry.phase = .populated
    · rw [Session.step, call_populated refreshes ready, addCaller, List.getElem?_concat_length] at now
      cases now
    · obtain ⟨h, _, latest, _, _⟩ := sound.ensureInFlight
      obtain ⟨standing, callers, stands⟩ := sound.join_caller refreshes ready latest
      rw [Session.step, callers, List.getElem?_concat_length] at now
      rcases stands with rfl | ⟨_, _, _, rfl⟩
      · cases now
        exact .inr ⟨refreshes, ready, latest⟩
      · cases now

/-! ## Runs -/

theorem occurs_concat {kind : Session → Event → Prop} :
    start.Occurs (events ++ [e]) kind ↔ start.Occurs events kind ∨ kind (start.run events) e := by
  constructor
  · rintro ⟨before, last, after, split, holds⟩
    rcases List.eq_nil_or_concat after with rfl | ⟨rest, end_, rfl⟩
    · obtain ⟨rfl, same⟩ := List.append_inj' split rfl
      cases same
      exact .inr holds
    · rw [List.concat_eq_append, ← List.cons_append, ← List.append_assoc] at split
      obtain ⟨rfl, _⟩ := List.append_inj' split rfl
      exact .inl ⟨before, last, rest, rfl, holds⟩
  · rintro (earlier | holds)
    · exact earlier.append _
    · exact .last holds

theorem joined_of_waiting (root : Files.Path) (tree : Files.Tree) (events : List Event)
    (waits : ((Session.start root tree).run events).callers[caller]? =
      some ⟨request, .waiting g⟩) :
    (Session.start root tree).Occurs events (Joins caller g request) := by
  induction events using List.reverseRecOn with
  | nil => cases waits
  | append_singleton events e ih =>
      rw [run_concat] at waits
      rcases (sound_run root tree events).waiting_cases waits with before | joins
      · exact (ih before).append _
      · exact .last joins

/-- What has become of a caller that joined a rebuild. -/
inductive Course (start : Session) (events : List Event) (caller g : Nat) (request : Request) :
    Standing → Prop
  | waits : Course start events caller g request (.waiting g)
  | givenUp : start.Occurs events (GivesUp caller) →
      Course start events caller g request (.answered .cancelled)
  | told {outcome : Outcome Index} {reply : Outcome Reply} :
      (start.run events).outcome? g = some outcome →
      start.Occurs events (fun s e => Tells caller request reply s e ∧
        s.outcome? g = some outcome ∧ reply = s.replyAfter request outcome) →
      Course start events caller g request (.answered reply)

theorem Course.concat {standing : Standing} (course : start.Course events caller g request standing)
    (sound : (start.run events).Sound)
    (before : (start.run events).callers[caller]? = some ⟨request, standing⟩) (e : Event) :
    ∃ now, (start.run (events ++ [e])).callers[caller]? = some ⟨request, now⟩ ∧
      start.Course (events ++ [e]) caller g request now := by
  rw [run_concat]
  cases course with
  | waits =>
      rcases sound.caller_next before e with kept | ⟨_, reply, same, after, given⟩
      · exact ⟨_, kept, .waits⟩
      · cases same
        refine ⟨_, after, ?_⟩
        rcases given with ⟨rfl, rfl⟩ | ⟨outcome, noted, rfl⟩
        · exact .givenUp (.last ⟨rfl, request, g, before⟩)
        · have ended := outcome?_of_progress? noted
          refine .told ?_ (.last ⟨⟨?_, after⟩, ended, rfl⟩)
          · rw [run_concat]
            exact outcome?_final (step_move _ e) ended
          · simp [before]
  | givenUp occurs => exact ⟨_, sound.answered_stays before e, .givenUp (occurs.append _)⟩
  | told ended occurs =>
      refine ⟨_, sound.answered_stays before e, .told ?_ (occurs.append _)⟩
      rw [run_concat]
      exact outcome?_final (step_move _ e) ended

/-- A caller that joined a rebuild waits for it, was given up, or was told what came of it. -/
theorem course_of_joins (root : Files.Path) (tree : Files.Tree) (events : List Event)
    (joined : (Session.start root tree).Occurs events (Joins caller g request)) :
    ∃ standing,
      ((Session.start root tree).run events).callers[caller]? = some ⟨request, standing⟩ ∧
      (Session.start root tree).Course events caller g request standing := by
  induction events using List.reverseRecOn with
  | nil =>
      obtain ⟨before, e, after, split, _⟩ := joined
      simp at split
  | append_singleton events e ih =>
      have sound := sound_run root tree events
      rcases occurs_concat.1 joined with earlier | joins
      · obtain ⟨standing, before, course⟩ := ih earlier
        exact course.concat sound before e
      · have new : ((Session.start root tree).run events).callers[caller]? = none := by
          rw [joins.2.1]
          exact List.getElem?_eq_none (Nat.le_refl _)
        rcases Joins.standing joins sound with waits | ⟨outcome, ended, told⟩
        · rw [← run_concat] at waits
          exact ⟨_, waits, .waits⟩
        · refine ⟨_, by rwa [run_concat], .told ?_ (.last ⟨⟨?_, told⟩, ended, rfl⟩)⟩
          · rw [run_concat]
            exact outcome?_final (step_move _ e) ended
          · simp [new]

/-- Why a caller is told something: the registry is populated when it comes, it is given up, or the
rebuild that it joined has ended. -/
theorem tells_cases (root : Files.Path) (tree : Files.Tree) (events : List Event)
    (tells : Tells caller request reply ((Session.start root tree).run events) e) :
    let s := (Session.start root tree).run events
    (request ≠ .refresh ∧ s.registry.phase = .populated ∧ reply = s.lookUp request) ∨
      (e = .cancel caller ∧ reply = .cancelled) ∨
      ∃ g outcome, (Session.start root tree).Occurs (events ++ [e]) (Joins caller g request) ∧
        s.outcome? g = some outcome ∧ reply = s.replyAfter request outcome := by
  intro s
  have sound : s.Sound := sound_run root tree events
  cases sound.answers_of_tells tells with
  | atOnce reads ready => exact .inl ⟨reads, ready, rfl⟩
  | @joined g _ reads unready latest ended =>
      have joins : Joins s.callers.length g request s (.call request) := by
        refine ⟨rfl, rfl, .inr ⟨reads, unready, ?_⟩⟩
        rw [ensureInFlight_of_some latest, latest]
      exact .inr (.inr ⟨_, _, .last joins, ended, rfl⟩)
  | resumed waits noted =>
      exact .inr (.inr ⟨_, _, (joined_of_waiting root tree events waits).append _,
        outcome?_of_progress? noted, rfl⟩)
  | cancelled waits => exact .inr (.inl ⟨rfl, rfl⟩)

end DocumentServer.Session
