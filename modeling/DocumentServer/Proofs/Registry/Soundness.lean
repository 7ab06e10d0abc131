import DocumentServer.Proofs.Registry.Outcome

/-!
The invariant of a session: generations are numbered as rebuilds start, the phase of the registry
says what is live and what is in flight, and what is live was put in place by a rebuild that ran to
completion. It holds at the start and every step keeps it.
-/
namespace DocumentServer

namespace Registry

/-- The phase that a registry has to be in. -/
def properPhase (r : Registry) : Phase :=
  if 0 < r.index.generation then .populated
  else if r.inFlight.isSome then .refreshing
  else .empty

theorem properPhase_eq_populated_iff (r : Registry) :
    r.properPhase = .populated ↔ 0 < r.index.generation := by
  by_cases live : 0 < r.index.generation
  · simp [properPhase, live]
  · cases latest : r.inFlight <;> simp [properPhase, live, latest]

theorem properPhase_eq_refreshing_iff (r : Registry) :
    r.properPhase = .refreshing ↔ r.index.generation = 0 ∧ r.inFlight.isSome := by
  by_cases live : 0 < r.index.generation
  · simp [properPhase, live, Nat.ne_of_gt live]
  · cases latest : r.inFlight <;> simp [properPhase, latest, Nat.eq_zero_of_not_pos live]

theorem properPhase_eq_empty_iff (r : Registry) :
    r.properPhase = .empty ↔ r.index.generation = 0 ∧ r.inFlight = none := by
  by_cases live : 0 < r.index.generation
  · simp [properPhase, live, Nat.ne_of_gt live]
  · cases latest : r.inFlight <;> simp [properPhase, latest, Nat.eq_zero_of_not_pos live]

theorem start_phase {r : Registry} (proper : r.phase = r.properPhase) :
    r.start.phase = r.start.properPhase := by
  simp only [start, proper, properPhase]
  repeat' split
  all_goals simp_all

theorem install_phase {r : Registry} (proper : r.phase = r.properPhase) (index : Index) :
    (r.install index).phase = (r.install index).properPhase := by
  unfold install
  split
  · next later => simp [properPhase, Nat.zero_lt_of_lt later]
  · exact proper

/-- A rebuild that succeeds ends with an index that is live. -/
theorem conclude_phase {r : Registry} (proper : r.phase = r.properPhase) (g : Nat)
    (succeeded : Bool) (live : succeeded = true → 0 < r.index.generation) :
    (r.conclude g succeeded).phase = (r.conclude g succeeded).properPhase := by
  unfold conclude
  split
  · cases succeeded <;> simp_all [properPhase]
  · exact proper

/-- The later one of two indexes stays. -/
theorem install_generation (r : Registry) (index : Index) :
    (r.install index).index.generation = max r.index.generation index.generation := by
  unfold install
  split
  · next later => exact (Nat.max_eq_right (Nat.le_of_lt later)).symm
  · next kept => exact (Nat.max_eq_left (Nat.le_of_not_lt kept)).symm

theorem install_counter (r : Registry) (index : Index) :
    (r.install index).generation = r.generation ∧ (r.install index).inFlight = r.inFlight := by
  unfold install
  split <;> exact ⟨rfl, rfl⟩

theorem conclude_counter (r : Registry) (g : Nat) (succeeded : Bool) :
    (r.conclude g succeeded).generation = r.generation := by
  unfold conclude
  split <;> rfl

theorem conclude_index (r : Registry) (g : Nat) (succeeded : Bool) :
    (r.conclude g succeeded).index = r.index := by
  unfold conclude
  split <;> rfl

end Registry

theorem Index.add_generation {index added : Index} {entry : Entry}
    (gathered : index.add entry = .ok added) : added.generation = index.generation := by
  unfold Index.add at gathered
  split at gathered
  · cases gathered
  · cases gathered
    rfl

namespace Session

variable {s t : Session} {e : Event} {g h : Nat}

/-- An entry is collected where a document was compiled and its file has a path. -/
theorem collect_ok {collected more : Index} {file : Files.Path} {result : Except Failure Document}
    (gathered : s.collect collected file result = .ok more) :
    ∃ document entry, result = .ok document ∧
      Entry.ofDocument s.tree s.root file document = .ok entry ∧
      collected.add entry = .ok more := by
  unfold collect at gathered
  cases result with
  | error failure => cases gathered
  | ok document =>
      change (Entry.ofDocument s.tree s.root file document).mapError .fault >>= collected.add =
        .ok more at gathered
      cases found : Entry.ofDocument s.tree s.root file document with
      | error fault =>
          rw [found] at gathered
          cases gathered
      | ok entry =>
          rw [found] at gathered
          exact ⟨document, entry, rfl, found, gathered⟩

theorem collect_generation {collected more : Index} {file : Files.Path}
    {result : Except Failure Document} (gathered : s.collect collected file result = .ok more) :
    more.generation = collected.generation := by
  obtain ⟨_, _, _, _, added⟩ := collect_ok gathered
  exact Index.add_generation added

/-- The live index is replaced only as a whole, by the index of a rebuild that runs to completion
and is later than all that did so before. -/
theorem index_cases (move : Move s e t) :
    t.registry.index = s.registry.index ∨
      ∃ g index, Completes s g e index ∧ s.registry.index.generation < index.generation ∧
        t.registry.index = index ∧ t.outcome? g = some (.done index) := by
  cases move with
  | rest registry => exact .inl (by rw [registry])
  | start _ registry => exact .inl (by rw [registry]; rfl)
  | advance _ _ registry => exact .inl (by rw [registry])
  | @complete g index completes registry rebuilds =>
      obtain ⟨p, found, _⟩ := completes.running
      by_cases later : s.registry.index.generation < index.generation
      · have replaced : t.registry.index = index := by
          rw [registry, Registry.install, if_pos later]
        refine .inr ⟨g, index, completes, later, replaced, ?_⟩
        rw [outcome?_congr rebuilds, outcome?_setProgress found, if_pos rfl, replaced]
        rfl
      · exact .inl (by rw [registry, Registry.install, if_neg later])
  | abort _ registry => exact .inl (by rw [registry])
  | note _ _ registry => exact .inl (by rw [registry, Registry.conclude_index])

/-- The generation of the live index never falls. -/
theorem live_generation_le (move : Move s e t) :
    s.registry.index.generation ≤ t.registry.index.generation := by
  rcases index_cases move with kept | ⟨g, index, _, later, replaced, _⟩
  · exact Nat.le_of_eq (by rw [kept])
  · rw [replaced]
    exact Nat.le_of_lt later

theorem live_generation_le_run (s : Session) (events : List Event) :
    s.registry.index.generation ≤ (s.run events).registry.index.generation := by
  induction events generalizing s with
  | nil => exact Nat.le_refl _
  | cons e rest ih => exact Nat.le_trans (live_generation_le (step_move s e)) (ih (s.step e))

/-- A generation is given out only to a rebuild that a caller starts. -/
theorem counter_cases (move : Move s e t) : t.registry.generation = s.registry.generation ∨
    ∃ request, e = .call request ∧ t.registry = s.registry.start := by
  cases move with
  | rest registry => exact .inl (by rw [registry])
  | start same registry => exact .inr ⟨_, same, registry⟩
  | advance _ _ registry => exact .inl (by rw [registry])
  | complete _ registry => exact .inl (by rw [registry, (Registry.install_counter _ _).1])
  | abort _ registry => exact .inl (by rw [registry])
  | note _ _ registry => exact .inl (by rw [registry, Registry.conclude_counter])

/-- Generations are given out in order. -/
theorem counter_le (move : Move s e t) : s.registry.generation ≤ t.registry.generation := by
  rcases counter_cases move with kept | ⟨_, _, registry⟩
  · exact Nat.le_of_eq kept.symm
  · rw [registry]
    exact Nat.le_succ _

/-- What every session keeps to, whatever the order of its steps. -/
structure Sound (s : Session) : Prop where
  numbered : s.generations = (List.range s.registry.generation).map (· + 1)
  phase : s.registry.phase = s.registry.properPhase
  /-- The rebuild in flight is the latest, and its end has not been noted. -/
  inFlight : ∀ g, s.registry.inFlight = some g → g = s.registry.generation ∧
    ∃ p, s.progress? g = some p ∧ ∀ outcome, p ≠ .noted outcome
  collected : ∀ {g index call file rest},
    s.progress? g = some (.compiling index call file rest) → index.generation = g
  done : ∀ {g index}, s.outcome? g = some (.done index) →
    g ≤ index.generation ∧ index.generation ≤ s.registry.index.generation
  live : 0 < s.registry.index.generation →
    ∃ index, s.outcome? s.registry.index.generation = some (.done index)

namespace Sound

theorem start (root : Files.Path) (tree : Files.Tree) : (Session.start root tree).Sound where
  numbered := rfl
  phase := rfl
  inFlight := by
    intro g latest
    cases latest
  collected := by
    intro g index call file rest found
    cases found
  done := by
    intro g index told
    cases told
  live := by
    intro positive
    cases positive

theorem known_iff (sound : s.Sound) : (s.progress? g).isSome ↔ 0 < g ∧ g ≤ s.registry.generation := by
  rw [progress?_isSome, sound.numbered]
  simp only [List.mem_map, List.mem_range]
  constructor
  · rintro ⟨k, bound, rfl⟩
    omega
  · rintro ⟨positive, bound⟩
    exact ⟨g - 1, by omega, by omega⟩

theorem unknown (sound : s.Sound) (later : s.registry.generation < g) : s.progress? g = none := by
  cases found : s.progress? g with
  | none => rfl
  | some p =>
      have := (sound.known_iff (g := g)).1 (by simp [found])
      omega

theorem known (sound : s.Sound) {p : Progress} (found : s.progress? g = some p) :
    0 < g ∧ g ≤ s.registry.generation :=
  sound.known_iff.1 (by simp [found])

theorem progress?_new (sound : s.Sound) :
    s.startRebuild.progress? (s.registry.generation + 1) = some .scheduled := by
  rw [progress?_startRebuild, sound.unknown (Nat.lt_succ_self _)]
  simp

/-- A rebuild completes with an index of its own generation. -/
theorem completes_generation (sound : s.Sound) {index : Index} (completes : Completes s g e index) :
    index.generation = g := by
  cases completes with
  | empty => rfl
  | last found gathered => exact (collect_generation gathered).trans (sound.collected found)

end Sound

theorem Aborts.not_done {outcome : Outcome Index} (aborts : Aborts s g e outcome) (index : Index) :
    outcome ≠ .done index := by
  cases aborts <;> simp

namespace Sound

theorem numbered_step (sound : s.Sound) (move : Move s e t) :
    t.generations = (List.range t.registry.generation).map (· + 1) := by
  have set : ∀ g p, t.rebuilds = (s.setProgress g p).rebuilds →
      t.registry.generation = s.registry.generation →
      t.generations = (List.range t.registry.generation).map (· + 1) := by
    intro g p rebuilds counter
    rw [counter, ← sound.numbered, ← generations_setProgress s g p]
    simp only [generations, rebuilds]
  cases move with
  | rest registry rebuilds =>
      rw [registry, ← sound.numbered]
      simp only [generations, rebuilds]
  | start _ registry rebuilds =>
      have appended : t.generations = s.generations ++ [s.registry.generation + 1] := by
        simp only [generations, rebuilds, startRebuild, Registry.start, List.map_append,
          List.map_cons, List.map_nil]
      rw [appended, registry, sound.numbered]
      simp only [Registry.start, List.range_succ, List.map_append, List.map_cons, List.map_nil]
  | advance _ _ registry rebuilds => exact set _ _ rebuilds (by rw [registry])
  | complete _ registry rebuilds =>
      exact set _ _ rebuilds (by rw [registry, (Registry.install_counter _ _).1])
  | abort _ registry rebuilds => exact set _ _ rebuilds (by rw [registry])
  | note _ _ registry rebuilds =>
      exact set _ _ rebuilds (by rw [registry, Registry.conclude_counter])

theorem live_of_done (sound : s.Sound) {index : Index} (told : s.outcome? g = some (.done index)) :
    0 < s.registry.index.generation := by
  cases found : s.progress? g with
  | none => simp [outcome?, found] at told
  | some p =>
      have := sound.known found
      have := sound.done told
      omega

theorem phase_step (sound : s.Sound) (move : Move s e t) :
    t.registry.phase = t.registry.properPhase := by
  cases move with
  | rest registry => rw [registry, sound.phase]
  | start _ registry => rw [registry, Registry.start_phase sound.phase]
  | advance _ _ registry => rw [registry, sound.phase]
  | complete _ registry => rw [registry, Registry.install_phase sound.phase]
  | abort _ registry => rw [registry, sound.phase]
  | @note g outcome _ found registry =>
      rw [registry]
      refine Registry.conclude_phase sound.phase g _ ?_
      intro succeeded
      cases outcome with
      | cancelled => cases succeeded
      | failed failure => cases succeeded
      | done index => exact sound.live_of_done (outcome?_of_progress? found)

/-- Whatever befalls rebuilds leaves the one in flight without a noted end, unless that is noted. -/
theorem inFlight_set (sound : s.Sound) {k : Nat} {q : Progress}
    (rebuilds : t.rebuilds = (s.setProgress k q).rebuilds) (before : s.registry.inFlight = some g)
    (unnoted : g = k → ∀ outcome, q ≠ .noted outcome) :
    ∃ p, t.progress? g = some p ∧ ∀ outcome, p ≠ .noted outcome := by
  obtain ⟨_, p, found, open_⟩ := sound.inFlight g before
  rw [progress?_congr rebuilds, progress?_setProgress]
  split
  · next same =>
      subst same
      exact ⟨q, by simp [found], unnoted rfl⟩
  · exact ⟨p, found, open_⟩

theorem inFlight_step (sound : s.Sound) (move : Move s e t) (g : Nat)
    (latest : t.registry.inFlight = some g) : g = t.registry.generation ∧
      ∃ p, t.progress? g = some p ∧ ∀ outcome, p ≠ .noted outcome := by
  cases move with
  | rest registry rebuilds =>
      rw [registry] at latest ⊢
      rw [progress?_congr rebuilds]
      exact sound.inFlight g latest
  | start _ registry rebuilds =>
      rw [registry] at latest ⊢
      obtain rfl := Option.some.inj latest
      rw [progress?_congr rebuilds, sound.progress?_new]
      exact ⟨rfl, _, rfl, by simp⟩
  | advance _ advances registry rebuilds =>
      rw [registry] at latest ⊢
      refine ⟨(sound.inFlight g latest).1, sound.inFlight_set rebuilds latest ?_⟩
      rintro rfl outcome rfl
      exact advances.running.2
  | complete _ registry rebuilds =>
      rw [registry, (Registry.install_counter _ _).2] at latest
      rw [registry, (Registry.install_counter _ _).1]
      exact ⟨(sound.inFlight g latest).1, sound.inFlight_set rebuilds latest (by simp)⟩
  | abort _ registry rebuilds =>
      rw [registry] at latest ⊢
      exact ⟨(sound.inFlight g latest).1, sound.inFlight_set rebuilds latest (by simp)⟩
  | @note k _ _ _ registry rebuilds =>
      rw [registry, Registry.conclude] at latest
      split at latest
      · cases latest
      · next other =>
          rw [registry, Registry.conclude_counter]
          refine ⟨(sound.inFlight g latest).1, sound.inFlight_set rebuilds latest ?_⟩
          rintro rfl
          simp [latest] at other

theorem collected_step (sound : s.Sound) (move : Move s e t) {index : Index} {call : Nat}
    {file : Files.Path} {rest : List Files.Path}
    (found : t.progress? g = some (.compiling index call file rest)) : index.generation = g := by
  rcases progress?_cases move found trivial with before | ⟨_, fresh⟩ | ⟨p, before, advances⟩
  · exact sound.collected before
  · cases fresh
  · cases advances with
    | first => rfl
    | next joined => exact (collect_generation joined).trans (sound.collected before)

theorem done_step (sound : s.Sound) (move : Move s e t) {index : Index}
    (told : t.outcome? g = some (.done index)) :
    g ≤ index.generation ∧ index.generation ≤ t.registry.index.generation := by
  rcases outcome?_cases move told with before | ⟨collected, completes, registry, same⟩ | aborts
  · obtain ⟨fresh, live⟩ := sound.done before
    exact ⟨fresh, Nat.le_trans live (live_generation_le move)⟩
  · cases same
    rw [registry, Registry.install_generation, sound.completes_generation completes]
    exact ⟨Nat.le_max_right _ _, Nat.le_refl _⟩
  · exact absurd rfl (aborts.not_done index)

theorem live_step (sound : s.Sound) (move : Move s e t)
    (positive : 0 < t.registry.index.generation) :
    ∃ index, t.outcome? t.registry.index.generation = some (.done index) := by
  rcases index_cases move with kept | ⟨g, index, completes, _, replaced, told⟩
  · rw [kept] at positive ⊢
    obtain ⟨index, told⟩ := sound.live positive
    exact ⟨index, outcome?_final move told⟩
  · rw [replaced, sound.completes_generation completes]
    exact ⟨index, told⟩

theorem move (sound : s.Sound) (move : Move s e t) : t.Sound where
  numbered := sound.numbered_step move
  phase := sound.phase_step move
  inFlight := sound.inFlight_step move
  collected := sound.collected_step move
  done := sound.done_step move
  live := sound.live_step move

theorem step (sound : s.Sound) (e : Event) : (s.step e).Sound := sound.move (step_move s e)

theorem run (sound : s.Sound) (events : List Event) : (s.run events).Sound := by
  induction events generalizing s with
  | nil => exact sound
  | cons e rest ih => exact ih (sound.step e)

end Sound

/-- Every session that steps lead to is sound. -/
theorem sound_run (root : Files.Path) (tree : Files.Tree) (events : List Event) :
    ((Session.start root tree).run events).Sound := (Sound.start root tree).run events

end Session
end DocumentServer
