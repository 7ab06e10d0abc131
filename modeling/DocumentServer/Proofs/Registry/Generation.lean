import DocumentServer.Proofs.Registry.Provenance

/-!
Generations. The live index is always that of the latest rebuild that ran to completion, and it is
that rebuild's whole work.
-/
namespace DocumentServer.Session

variable {s : Session} {g : Nat}

/-- The generations of the rebuilds that ran to completion. -/
def completed (s : Session) : List Nat :=
  s.generations.filter fun g => (s.outcome? g).any Outcome.isDone

theorem mem_completed : g ∈ s.completed ↔ ∃ index, s.outcome? g = some (.done index) := by
  constructor
  · intro member
    obtain ⟨_, done⟩ := List.mem_filter.1 member
    cases told : s.outcome? g with
    | none => simp [told] at done
    | some outcome =>
        cases outcome with
        | cancelled => simp [told, Outcome.isDone] at done
        | failed failure => simp [told, Outcome.isDone] at done
        | done index => exact ⟨index, rfl⟩
  · rintro ⟨index, told⟩
    refine List.mem_filter.2 ⟨?_, by simp [told, Outcome.isDone]⟩
    rw [← progress?_isSome]
    cases found : s.progress? g with
    | none => simp [outcome?, found] at told
    | some p => rfl

theorem foldr_max_le {bound : Nat} {l : List Nat} : l.foldr max 0 ≤ bound ↔ ∀ n ∈ l, n ≤ bound := by
  induction l with
  | nil => simp
  | cons n rest ih =>
      rw [List.foldr_cons, Nat.max_le, ih]
      simp

theorem le_foldr_max {n : Nat} {l : List Nat} (member : n ∈ l) : n ≤ l.foldr max 0 :=
  foldr_max_le.1 (Nat.le_refl _) n member

theorem Sound.live_generation (sound : s.Sound) :
    s.registry.index.generation = s.completed.foldr max 0 := by
  apply Nat.le_antisymm
  · rcases Nat.eq_zero_or_pos s.registry.index.generation with none | positive
    · exact Nat.le_trans (Nat.le_of_eq none) (Nat.zero_le _)
    · exact le_foldr_max (mem_completed.2 (sound.live positive))
  · rw [foldr_max_le]
    intro g member
    obtain ⟨index, told⟩ := mem_completed.1 member
    obtain ⟨fresh, live⟩ := sound.done told
    exact Nat.le_trans fresh live

/-- The generation that is live is the greatest among the rebuilds that ran to completion, and it
never falls. In a step the live index stays, or it is replaced as a whole by what one rebuild has
collected that completes in this step and is later than all that completed before. All that is live
was collected by the rebuild of its generation, from the files that this rebuild listed. -/
theorem live_generation_eq_latest_completed (root : Files.Path) (tree : Files.Tree)
    (events : List Event) :
    let s := (Session.start root tree).run events
    s.registry.index.generation = s.completed.foldr max 0 ∧
    (∀ more, s.registry.index.generation ≤ (s.run more).registry.index.generation) ∧
    (∀ e, (s.step e).registry.index = s.registry.index ∨
      ∃ index, s.Completes index.generation e index ∧
        (∀ g ∈ s.completed, g < index.generation) ∧
        index.generation ∈ (s.step e).completed ∧ (s.step e).registry.index = index) ∧
    (0 < s.registry.index.generation →
      (Session.start root tree).Built events s.registry.index) := by
  intro s
  have sound : s.Sound := sound_run root tree events
  refine ⟨sound.live_generation, live_generation_le_run s, ?_, (traced_run root tree events).live⟩
  intro e
  rcases index_cases (step_move s e) with kept | ⟨g, index, completes, later, replaced, told⟩
  · exact .inl kept
  · obtain rfl := sound.completes_generation completes
    refine .inr ⟨index, completes, ?_, mem_completed.2 ⟨index, told⟩, replaced⟩
    intro g member
    rw [sound.live_generation] at later
    exact Nat.lt_of_le_of_lt (le_foldr_max member) later

end DocumentServer.Session
