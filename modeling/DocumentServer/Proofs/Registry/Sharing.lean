import DocumentServer.Proofs.Registry.Consistency
import DocumentServer.Proofs.Registry.Generation
import DocumentServer.Proofs.Registry.Joining

/-!
Sharing of rebuilds. Where nobody refreshes, rebuilds come one at a time: the next one starts only
after the end of the last has been noted, and only if that came to nothing. All callers that share a
rebuild are told what came of it.
-/
namespace DocumentServer.Session

variable {s t : Session} {events : List Event} {e : Event} {g h : Nat}

/-- A rebuild whose end has not been noted. -/
def Pending (s : Session) (g : Nat) : Prop :=
  ∃ p, s.progress? g = some p ∧ ∀ outcome, p ≠ .noted outcome

/-- The generations of the rebuilds that failed or were given up. -/
def unsuccessful (s : Session) : List Nat :=
  s.generations.filter fun g => (s.outcome? g).any fun outcome => !outcome.isDone

/-- All rebuilds but the latest have come to nothing, and none is left when none is in flight. -/
structure Solitary (s : Session) : Prop where
  earlier : ∀ g, 0 < g → g < s.registry.generation →
    ∃ outcome, s.progress? g = some (.noted outcome) ∧ outcome.isDone = false
  idle : s.registry.inFlight = none → 0 < s.registry.generation →
    ∃ outcome, s.progress? s.registry.generation = some (.noted outcome)

/-! ## When a rebuild starts -/

/-- Who does not refresh starts a rebuild only where none is in flight and no index is live. -/
theorem Sound.starts_alone (sound : s.Sound) {request : Request} (reads : request ≠ .refresh)
    (started : (s.step (.call request)).registry = s.registry.start) :
    s.registry.inFlight = none ∧ s.registry.index.generation = 0 := by
  have changed : s.registry ≠ s.registry.start := by
    intro same
    have := congrArg Registry.generation same
    simp [Registry.start] at this
  rw [Session.step] at started
  by_cases ready : s.registry.phase = .populated
  · rw [call_populated reads ready] at started
    exact absurd started changed
  · rw [call_unpopulated reads ready, (awaitInFlight_core _ _).1] at started
    rcases ensureInFlight_eq s with ⟨none, _⟩ | ⟨_, joined⟩
    · rw [sound.phase, Registry.properPhase_eq_populated_iff] at ready
      exact ⟨none, Nat.eq_zero_of_not_pos ready⟩
    · rw [joined] at started
      exact absurd started changed

/-- No rebuild starts while an index is live. -/
theorem Sound.generations_live (sound : s.Sound) (reads : e ≠ .call .refresh)
    (live : 0 < s.registry.index.generation) : (s.step e).generations = s.generations := by
  rw [(sound.step e).numbered, sound.numbered]
  rcases counter_cases (step_move s e) with kept | ⟨request, rfl, started⟩
  · rw [kept]
  · have refreshes : request ≠ .refresh := by
      rintro rfl
      exact reads rfl
    have none := (sound.starts_alone refreshes started).2
    omega

theorem Sound.generations_live_run (sound : s.Sound) (reads : .call .refresh ∉ events)
    (live : 0 < s.registry.index.generation) : (s.run events).generations = s.generations := by
  induction events generalizing s with
  | nil => rfl
  | cons e rest ih =>
      simp only [List.mem_cons, not_or] at reads
      have later := Nat.lt_of_lt_of_le live (live_generation_le (step_move s e))
      exact (ih (sound.step e) reads.2 later).trans (sound.generations_live (Ne.symm reads.1) live)

/-! ## One rebuild at a time -/

theorem Solitary.start (root : Files.Path) (tree : Files.Tree) :
    (Session.start root tree).Solitary where
  earlier := by
    intro g _ below
    cases below
  idle := by
    intro _ positive
    cases positive

theorem Solitary.eq_latest (solitary : s.Solitary) (sound : s.Sound) (pending : s.Pending g) :
    g = s.registry.generation := by
  obtain ⟨p, found, unnoted⟩ := pending
  obtain ⟨positive, bound⟩ := sound.known found
  rcases Nat.lt_or_eq_of_le bound with below | same
  · obtain ⟨outcome, noted, _⟩ := solitary.earlier g positive below
    rw [found] at noted
    exact absurd (Option.some.inj noted) (unnoted outcome)
  · exact same

/-- Whatever befalls a rebuild that is pending leaves the earlier ones as they are. -/
theorem Solitary.set (solitary : s.Solitary) {q : Progress} (pending : s.Pending g)
    (rebuilds : t.rebuilds = (s.setProgress g q).rebuilds)
    (counter : t.registry.generation = s.registry.generation)
    (idle : t.registry.inFlight = none → s.registry.inFlight = none ∨
      g = s.registry.generation ∧ ∃ outcome, q = .noted outcome) : t.Solitary := by
  obtain ⟨p, found, unnoted⟩ := pending
  have kept : ∀ h outcome, s.progress? h = some (.noted outcome) →
      t.progress? h = some (.noted outcome) := by
    intro h outcome noted
    rw [progress?_congr rebuilds, progress?_setProgress, if_neg]
    · exact noted
    · rintro rfl
      rw [found] at noted
      exact unnoted outcome (Option.some.inj noted)
  constructor
  · intro h positive below
    rw [counter] at below
    obtain ⟨outcome, noted, failed⟩ := solitary.earlier h positive below
    exact ⟨outcome, kept h outcome noted, failed⟩
  · intro none positive
    rw [counter] at positive ⊢
    rcases idle none with before | ⟨rfl, outcome, rfl⟩
    · obtain ⟨outcome, noted⟩ := solitary.idle before positive
      exact ⟨outcome, kept _ outcome noted⟩
    · refine ⟨outcome, ?_⟩
      rw [progress?_congr rebuilds, progress?_setProgress, if_pos rfl, found]
      rfl

theorem pending_of_running (found : ∃ p, s.progress? g = some p ∧ p.IsRunning) : s.Pending g := by
  obtain ⟨p, known, running⟩ := found
  refine ⟨p, known, ?_⟩
  rintro outcome rfl
  exact running

/-- Where a rebuild may start all rebuilds have come to nothing, or else an index would be live. -/
theorem Solitary.all_failed (solitary : s.Solitary) (sound : s.Sound)
    (none : s.registry.inFlight = none) (empty : s.registry.index.generation = 0)
    (positive : 0 < g) (known : g ≤ s.registry.generation) :
    ∃ outcome, s.progress? g = some (.noted outcome) ∧ outcome.isDone = false := by
  rcases Nat.lt_or_eq_of_le known with earlier | rfl
  · exact solitary.earlier g positive earlier
  · obtain ⟨outcome, noted⟩ := solitary.idle none positive
    refine ⟨outcome, noted, ?_⟩
    cases outcome with
    | cancelled => rfl
    | failed failure => rfl
    | done index =>
        have live := sound.live_of_done (outcome?_of_progress? noted)
        omega

/-- A rebuild that starts is the only one that has not come to nothing. -/
theorem Solitary.started (solitary : s.Solitary) (sound : s.Sound)
    (none : s.registry.inFlight = none) (empty : s.registry.index.generation = 0)
    (registry : t.registry = s.registry.start)
    (rebuilds : t.rebuilds = s.startRebuild.rebuilds) : t.Solitary where
  earlier := by
    intro g positive below
    rw [registry] at below
    obtain ⟨outcome, noted, failed⟩ :=
      solitary.all_failed sound none empty positive (Nat.le_of_lt_succ below)
    refine ⟨outcome, ?_, failed⟩
    rw [progress?_congr rebuilds, progress?_startRebuild, noted, Option.some_or]
  idle := by
    intro idle
    rw [registry] at idle
    cases idle

theorem Solitary.step (solitary : s.Solitary) (sound : s.Sound) (reads : e ≠ .call .refresh) :
    (s.step e).Solitary := by
  cases step_move s e with
  | rest registry rebuilds =>
      constructor
      · intro g
        rw [registry, progress?_congr rebuilds]
        exact solitary.earlier g
      · rw [registry, progress?_congr rebuilds]
        exact solitary.idle
  | @start request same registry rebuilds =>
      subst same
      have refreshes : request ≠ .refresh := by
        rintro rfl
        exact reads rfl
      obtain ⟨none, empty⟩ := sound.starts_alone refreshes registry
      exact solitary.started sound none empty registry rebuilds
  | advance found advances registry rebuilds =>
      refine solitary.set (pending_of_running ⟨_, found, advances.running.1⟩) rebuilds
        (by rw [registry]) ?_
      rw [registry]
      exact .inl
  | complete completes registry rebuilds =>
      refine solitary.set (pending_of_running completes.running) rebuilds
        (by rw [registry, (Registry.install_counter _ _).1]) ?_
      rw [registry, (Registry.install_counter _ _).2]
      exact .inl
  | abort aborts registry rebuilds =>
      refine solitary.set (pending_of_running aborts.running) rebuilds (by rw [registry]) ?_
      rw [registry]
      exact .inl
  | @note g outcome _ found registry rebuilds =>
      have pending : s.Pending g := ⟨_, found, by simp⟩
      refine solitary.set pending rebuilds (by rw [registry, Registry.conclude_counter]) ?_
      rw [registry, Registry.conclude]
      split
      · exact fun _ => .inr ⟨solitary.eq_latest sound pending, outcome, rfl⟩
      · exact .inl

theorem Solitary.run (solitary : s.Solitary) (sound : s.Sound) (reads : .call .refresh ∉ events) :
    (s.run events).Solitary := by
  induction events generalizing s with
  | nil => exact solitary
  | cons e rest ih =>
      simp only [List.mem_cons, not_or] at reads
      exact ih (solitary.step sound (Ne.symm reads.1)) (sound.step e) reads.2

/-- Of the rebuilds at most the latest has not come to nothing. -/
theorem Solitary.accounted (solitary : s.Solitary) (sound : s.Sound) :
    ∃ current ≤ 1, s.generations.length = s.unsuccessful.length + current := by
  unfold unsuccessful
  rw [sound.numbered]
  cases count : s.registry.generation with
  | zero => exact ⟨0, Nat.zero_le 1, rfl⟩
  | succ n =>
      have failed : ∀ g ∈ (List.range n).map (· + 1),
          ((s.outcome? g).any fun outcome => !outcome.isDone) = true := by
        intro g member
        obtain ⟨k, below, rfl⟩ := List.mem_map.1 member
        rw [List.mem_range] at below
        obtain ⟨outcome, noted, failed⟩ := solitary.earlier (k + 1) (by omega) (by omega)
        simp [outcome?_of_progress? noted, Progress.outcome?, failed]
      rw [List.range_succ, List.map_append, List.filter_append, List.filter_eq_self.2 failed]
      by_cases latest : ((s.outcome? (n + 1)).any fun outcome => !outcome.isDone) = true
      · exact ⟨0, Nat.zero_le 1, by simp [latest]⟩
      · exact ⟨1, Nat.le_refl 1, by simp [latest]⟩

/-! ## What sharers are told -/

/-- What a caller is told follows what came of a rebuild: after a success it is an answer out of a
live index, and otherwise the caller fails or is given up as the rebuild was. -/
def Follows (start : Session) (events : List Event) (caller : Nat) (request : Request)
    (reply : Outcome Reply) : Outcome Index → Prop
  | .done _ => start.Occurs events fun s e => Tells caller request reply s e ∧
      0 < s.registry.index.generation ∧ reply = s.lookUp request
  | .failed failure => reply = .failed failure
  | .cancelled => reply = .cancelled

theorem Course.follows {start : Session} {caller : Nat} {request : Request} {standing : Standing}
    (course : start.Course events caller g request standing) (sound : start.Sound)
    (reads : request ≠ .refresh) (kept : ¬start.Occurs events (GivesUp caller)) :
    standing = .waiting g ∨ ∃ outcome reply, standing = .answered reply ∧
      (start.run events).outcome? g = some outcome ∧
      start.Follows events caller request reply outcome := by
  cases course with
  | waits => exact .inl rfl
  | givenUp occurs => exact absurd occurs kept
  | @told outcome reply ended occurs =>
      refine .inr ⟨outcome, reply, rfl, ended, ?_⟩
      obtain ⟨before, e, after, split, tells, had, same⟩ := occurs
      cases outcome with
      | cancelled => exact same
      | failed failure => exact same
      | done index =>
          have live := (sound.run before).live_of_done had
          exact ⟨before, e, after, split, tells, live, by rw [same, replyAfter_done reads]⟩

/-- Where nobody refreshes, at most one rebuild is pending at any time, all but at most one have come
to nothing, and none starts after one has run to completion. What came of a rebuild alone decides
what those are told that joined it and were not given up, and they are told once its end is noted. -/
theorem reads_share_one_rebuild (root : Files.Path) (tree : Files.Tree) (events : List Event)
    (reads : .call .refresh ∉ events) :
    let start := Session.start root tree
    let t := start.run events
    (∀ g h, t.Pending g → t.Pending h → g = h) ∧
    (∃ current ≤ 1, t.generations.length = t.unsuccessful.length + current) ∧
    (∀ before after, events = before ++ after → (start.run before).completed ≠ [] →
      t.generations = (start.run before).generations) ∧
    (∀ caller g request, start.Occurs events (Joins caller g request) →
      ¬start.Occurs events (GivesUp caller) →
      t.callers[caller]? = some ⟨request, .waiting g⟩ ∨
        ∃ outcome reply, t.outcome? g = some outcome ∧
          t.callers[caller]? = some ⟨request, .answered reply⟩ ∧
          start.Follows events caller request reply outcome) ∧
    ∀ caller g request outcome, t.callers[caller]? = some ⟨request, .waiting g⟩ →
      t.progress? g = some (.noted outcome) →
      Tells caller request (t.replyAfter request outcome) t (.resume caller) := by
  intro start t
  have sound : t.Sound := sound_run root tree events
  have solitary : t.Solitary := (Solitary.start root tree).run (Sound.start root tree) reads
  refine ⟨?_, solitary.accounted sound, ?_, ?_, ?_⟩
  · intro g h first second
    rw [solitary.eq_latest sound first, solitary.eq_latest sound second]
  · rintro before after rfl completed
    obtain ⟨g, member⟩ := List.exists_mem_of_ne_nil _ completed
    obtain ⟨index, told⟩ := mem_completed.1 member
    have past : (start.run before).Sound := sound_run root tree before
    have later : .call .refresh ∉ after := fun member => reads (List.mem_append_right _ member)
    rw [show t = (start.run before).run after from run_append _ _ _]
    exact past.generations_live_run later (past.live_of_done told)
  · intro caller g request joined kept
    have asked : request ≠ .refresh := by
      rintro rfl
      obtain ⟨before, e, after, rfl, rfl, _⟩ := joined
      exact reads (by simp)
    obtain ⟨standing, found, course⟩ := course_of_joins root tree events joined
    rcases course.follows (Sound.start root tree) asked kept with
      rfl | ⟨outcome, reply, rfl, ended, follows⟩
    · exact .inl found
    · exact .inr ⟨outcome, reply, ended, found, follows⟩
  · intro caller g request outcome waits noted
    refine ⟨by simp [waits], ?_⟩
    rw [Session.step, resume, waits]
    simp only [noted, setStanding_callers, if_true, waits, Option.map_some]

/-- Two callers share a rebuild that is given up, and a third one comes after that. -/
def retriedReads : List Event :=
  [.call .ids, .call (.find "a"), .cancelRebuild 1, .note 1, .resume 1, .resume 0, .call .entries]

theorem retriedReads_share_one_rebuild :
    let t := (Session.start [] twoPages).run retriedReads
    .call .refresh ∉ retriedReads ∧ t.generations = [1, 2] ∧ t.unsuccessful = [1] ∧
      t.callers = [⟨.ids, .answered .cancelled⟩, ⟨.find "a", .answered .cancelled⟩,
        ⟨.entries, .waiting 2⟩] ∧
      (∀ g h, t.Pending g → t.Pending h → g = h) ∧
      ∃ current ≤ 1, t.generations.length = t.unsuccessful.length + current := by
  have reads : .call .refresh ∉ retriedReads := by simp [retriedReads]
  obtain ⟨pending, accounted, _⟩ := reads_share_one_rebuild [] twoPages retriedReads reads
  exact ⟨reads, rfl, rfl, rfl, pending, accounted⟩

end DocumentServer.Session
