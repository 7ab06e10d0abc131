import DocumentServer.Proofs.Registry.Step

/-!
Ends of rebuilds. What came of a rebuild never changes, and a rebuild without an outcome gets one
only by running to completion or by being given up.
-/
namespace DocumentServer

theorem Progress.outcome?_eq_none_iff {p : Progress} : p.outcome? = none ↔ p.IsRunning := by
  cases p <;> simp [Progress.outcome?, Progress.IsRunning]

namespace Session

variable {s t : Session} {e : Event} {g h : Nat} {outcome : Outcome Index}

theorem Advances.running {p q : Progress} (advances : Advances s g e p q) :
    p.IsRunning ∧ q.IsRunning := by
  cases advances <;> exact ⟨trivial, trivial⟩

theorem Completes.running {index : Index} (completes : Completes s g e index) :
    ∃ p, s.progress? g = some p ∧ p.IsRunning := by
  cases completes with
  | empty found => exact ⟨_, found, trivial⟩
  | last found => exact ⟨_, found, trivial⟩

theorem Aborts.running (aborts : Aborts s g e outcome) :
    ∃ p, s.progress? g = some p ∧ p.IsRunning := by
  cases aborts with
  | listing found => exact ⟨_, found, trivial⟩
  | compile found => exact ⟨_, found, trivial⟩
  | cancelled found running => exact ⟨_, found, running⟩

theorem outcome?_of_progress? {p : Progress} (found : s.progress? g = some p) :
    s.outcome? g = p.outcome? := by
  simp only [outcome?, found, Option.bind_some]

theorem outcome?_congr (same : t.rebuilds = s.rebuilds) (h : Nat) :
    t.outcome? h = s.outcome? h := by
  simp only [outcome?, progress?_congr same]

theorem outcome?_startRebuild (s : Session) (h : Nat) :
    s.startRebuild.outcome? h = s.outcome? h := by
  simp only [outcome?, progress?_startRebuild]
  cases s.progress? h with
  | some p => rfl
  | none => split <;> rfl

/-- Setting the progress of a rebuild that is known changes its outcome only. -/
theorem outcome?_setProgress {p : Progress} (found : s.progress? g = some p) (q : Progress)
    (h : Nat) : (s.setProgress g q).outcome? h = if h = g then q.outcome? else s.outcome? h := by
  simp only [outcome?, progress?_setProgress, found, Option.map_some]
  split <;> rfl

/-- Where the progress of one rebuild was set, that of another is as it was. -/
theorem progress?_set_cases {p q : Progress} (rebuilds : t.rebuilds = (s.setProgress g q).rebuilds)
    (found : t.progress? h = some p) : h = g ∧ p = q ∨ s.progress? h = some p := by
  rw [progress?_congr rebuilds, progress?_setProgress] at found
  split at found
  · next same =>
      obtain ⟨_, _, rfl⟩ := Option.map_eq_some_iff.1 found
      exact .inl ⟨same, rfl⟩
  · exact .inr found

theorem outcome?_set_cases {p q : Progress} (found : s.progress? g = some p)
    (rebuilds : t.rebuilds = (s.setProgress g q).rebuilds) (told : t.outcome? h = some outcome) :
    h = g ∧ q.outcome? = some outcome ∨ s.outcome? h = some outcome := by
  rw [outcome?_congr rebuilds, outcome?_setProgress found] at told
  split at told
  · next same => exact .inl ⟨same, told⟩
  · exact .inr told

/-- A rebuild that goes on after a step was as far before it, or has been started or got on. -/
theorem progress?_cases {p : Progress} (move : Move s e t) (found : t.progress? g = some p)
    (running : p.IsRunning) : s.progress? g = some p ∨
      s.progress? g = none ∧ p = .scheduled ∨
      ∃ q, s.progress? g = some q ∧ Advances s g e q p := by
  cases move with
  | rest _ rebuilds => exact .inl (progress?_congr rebuilds g ▸ found)
  | start _ _ rebuilds =>
      rw [progress?_congr rebuilds, progress?_startRebuild] at found
      cases before : s.progress? g with
      | some q => exact .inl (by rwa [before, Option.some_or] at found)
      | none =>
          rw [before, Option.none_or] at found
          split at found
          · cases found
            exact .inr (.inl ⟨rfl, rfl⟩)
          · cases found
  | advance before advances _ rebuilds =>
      rcases progress?_set_cases rebuilds found with ⟨rfl, rfl⟩ | same
      · exact .inr (.inr ⟨_, before, advances⟩)
      · exact .inl same
  | complete _ _ rebuilds =>
      rcases progress?_set_cases rebuilds found with ⟨rfl, rfl⟩ | same
      · exact running.elim
      · exact .inl same
  | abort _ _ rebuilds =>
      rcases progress?_set_cases rebuilds found with ⟨rfl, rfl⟩ | same
      · exact running.elim
      · exact .inl same
  | note _ _ _ rebuilds =>
      rcases progress?_set_cases rebuilds found with ⟨rfl, rfl⟩ | same
      · exact running.elim
      · exact .inl same

/-- The outcomes after a step, one rebuild at a time. -/
theorem outcome?_cases (move : Move s e t) (told : t.outcome? h = some outcome) :
    s.outcome? h = some outcome ∨
      (∃ index, Completes s h e index ∧ t.registry = s.registry.install index ∧
        outcome = .done t.registry.index) ∨
      Aborts s h e outcome := by
  cases move with
  | rest _ rebuilds => exact .inl (outcome?_congr rebuilds h ▸ told)
  | start _ _ rebuilds =>
      rw [outcome?_congr rebuilds, outcome?_startRebuild] at told
      exact .inl told
  | advance found advances _ rebuilds =>
      rcases outcome?_set_cases found rebuilds told with ⟨_, ended⟩ | same
      · rw [Progress.outcome?_eq_none_iff.2 advances.running.2] at ended
        cases ended
      · exact .inl same
  | complete completes registry rebuilds =>
      obtain ⟨p, found, _⟩ := completes.running
      rcases outcome?_set_cases found rebuilds told with ⟨rfl, ended⟩ | same
      · exact .inr (.inl ⟨_, completes, registry, (Option.some.inj ended).symm⟩)
      · exact .inl same
  | abort aborts _ rebuilds =>
      obtain ⟨p, found, _⟩ := aborts.running
      rcases outcome?_set_cases found rebuilds told with ⟨rfl, ended⟩ | same
      · obtain rfl := Option.some.inj ended
        exact .inr (.inr aborts)
      · exact .inl same
  | note _ found _ rebuilds =>
      rcases outcome?_set_cases found rebuilds told with ⟨rfl, ended⟩ | same
      · exact .inl ((outcome?_of_progress? found).trans ended)
      · exact .inl same

/-- A rebuild that has an outcome keeps it. -/
theorem outcome?_final (move : Move s e t) (told : s.outcome? h = some outcome) :
    t.outcome? h = some outcome := by
  have other : ∀ {k p}, s.progress? k = some p → p.IsRunning → h ≠ k := by
    rintro k p found running rfl
    rw [outcome?_of_progress? found, Progress.outcome?_eq_none_iff.2 running] at told
    cases told
  cases move with
  | rest _ rebuilds => rw [outcome?_congr rebuilds, told]
  | start _ _ rebuilds => rw [outcome?_congr rebuilds, outcome?_startRebuild, told]
  | advance found advances _ rebuilds =>
      rw [outcome?_congr rebuilds, outcome?_setProgress found,
        if_neg (other found advances.running.1), told]
  | complete completes _ rebuilds =>
      obtain ⟨p, found, running⟩ := completes.running
      rw [outcome?_congr rebuilds, outcome?_setProgress found, if_neg (other found running), told]
  | abort aborts _ rebuilds =>
      obtain ⟨p, found, running⟩ := aborts.running
      rw [outcome?_congr rebuilds, outcome?_setProgress found, if_neg (other found running), told]
  | note _ found _ rebuilds =>
      rw [outcome?_congr rebuilds, outcome?_setProgress found]
      split
      · next same =>
          subst same
          rwa [outcome?_of_progress? found] at told
      · exact told

theorem outcome?_run_final (events : List Event) (told : s.outcome? h = some outcome) :
    (s.run events).outcome? h = some outcome := by
  induction events generalizing s with
  | nil => exact told
  | cons e rest ih => exact ih (outcome?_final (step_move s e) told)

end Session
end DocumentServer
