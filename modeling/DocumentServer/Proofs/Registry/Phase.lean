import DocumentServer.Proofs.Registry.Callers

/-!
The phase of a registry says what is live and what is in flight, in every order of steps. So nobody
is answered out of the empty index that a registry starts with.
-/
namespace DocumentServer.Session

variable {s : Session} {e : Event} {caller : Nat} {request : Request}

/-- What a request that needs an index is told: an answer out of a live index, or how the rebuild
that it waited for failed, or that it was given up. -/
theorem Sound.answers_cases (sound : s.Sound) (reads : request ≠ .refresh) {reply : Outcome Reply}
    (told : Answers s request e caller reply) :
    (0 < s.registry.index.generation ∧ reply = s.lookUp request) ∨ reply = .cancelled ∨
      ∃ g failure, s.outcome? g = some (.failed failure) ∧ reply = .failed failure := by
  have after : ∀ g outcome, s.outcome? g = some outcome →
      (0 < s.registry.index.generation ∧ s.replyAfter request outcome = s.lookUp request) ∨
        s.replyAfter request outcome = .cancelled ∨
        ∃ g failure, s.outcome? g = some (.failed failure) ∧
          s.replyAfter request outcome = .failed failure := by
    intro g outcome ended
    cases outcome with
    | cancelled => exact .inr (.inl rfl)
    | failed failure => exact .inr (.inr ⟨g, failure, ended, rfl⟩)
    | done index => exact .inl ⟨sound.live_of_done ended, replyAfter_done reads index⟩
  cases told with
  | atOnce _ ready =>
      rw [sound.phase, Registry.properPhase_eq_populated_iff] at ready
      exact .inl ⟨ready, rfl⟩
  | joined _ _ _ ended => exact after _ _ ended
  | resumed _ noted => exact after _ _ (outcome?_of_progress? noted)
  | cancelled => exact .inr (.inl rfl)

/-- In every session that steps lead to, the registry is populated exactly when an index is live,
refreshing exactly when none is but a rebuild is in flight, and empty otherwise. Who needs an index
always finds a rebuild to wait for, whose end has not been noted, and gets answers from a live index
only. -/
theorem phase_tells_live_and_inFlight (root : Files.Path) (tree : Files.Tree)
    (events : List Event) :
    let s := (Session.start root tree).run events
    (s.registry.phase = .populated ↔ 0 < s.registry.index.generation) ∧
    (s.registry.phase = .refreshing ↔
      s.registry.index.generation = 0 ∧ s.registry.inFlight.isSome) ∧
    (s.registry.phase = .empty ↔
      s.registry.index.generation = 0 ∧ s.registry.inFlight = none) ∧
    (∃ g p, s.ensureInFlight.registry.inFlight = some g ∧
      s.ensureInFlight.progress? g = some p ∧ ∀ outcome, p ≠ .noted outcome) ∧
    ∀ (e : Event) (caller : Nat) (request : Request) (reply : Outcome Reply), request ≠ .refresh →
      s.callers[caller]? ≠ some { request, standing := .answered reply } →
      (s.step e).callers[caller]? = some { request, standing := .answered reply } →
      (0 < s.registry.index.generation ∧ reply = s.lookUp request) ∨ reply = .cancelled ∨
        ∃ g failure, s.outcome? g = some (.failed failure) ∧ reply = .failed failure := by
  intro s
  have sound : s.Sound := sound_run root tree events
  refine ⟨?_, ?_, ?_, sound.ensureInFlight, ?_⟩
  · rw [sound.phase]
    exact s.registry.properPhase_eq_populated_iff
  · rw [sound.phase]
    exact s.registry.properPhase_eq_refreshing_iff
  · rw [sound.phase]
    exact s.registry.properPhase_eq_empty_iff
  · intro e caller request reply reads untold now
    rcases sound.caller_cases now with before | ⟨_, same, told⟩ | ⟨_, _, _, same⟩
    · exact absurd before untold
    · cases same
      exact sound.answers_cases reads told
    · cases same

end DocumentServer.Session
