import DocumentServer.Proofs.Registry.Soundness

/-!
Callers. Each one is told something once: when it comes, when it goes on after the rebuild that it
waits for, or when it is given up. What it was told stays.
-/
namespace DocumentServer.Session

variable {s t : Session} {e : Event} {g caller : Nat} {request : Request}

/-- Why a caller is told something in a step. -/
inductive Answers (s : Session) (request : Request) : Event → Nat → Outcome Reply → Prop
  | atOnce : request ≠ .refresh → s.registry.phase = .populated →
      Answers s request (.call request) s.callers.length (s.lookUp request)
  | joined {g : Nat} {outcome : Outcome Index} : request ≠ .refresh →
      s.registry.phase ≠ .populated → s.registry.inFlight = some g → s.outcome? g = some outcome →
      Answers s request (.call request) s.callers.length (s.replyAfter request outcome)
  | resumed {caller g : Nat} {outcome : Outcome Index} :
      s.callers[caller]? = some { request, standing := .waiting g } →
      s.progress? g = some (.noted outcome) →
      Answers s request (.resume caller) caller (s.replyAfter request outcome)
  | cancelled {caller g : Nat} :
      s.callers[caller]? = some { request, standing := .waiting g } →
      Answers s request (.cancel caller) caller .cancelled

/-- A rebuild that succeeds has everyone but a refresh look the answer up. -/
theorem replyAfter_done (reads : request ≠ .refresh) (index : Index) :
    s.replyAfter request (.done index) = s.lookUp request := by
  cases request <;> first | rfl | exact absurd rfl reads

/-! ## New callers -/

/-- The rebuild that a caller waits for is there, whether it was in flight or had to be started. -/
theorem Sound.ensureInFlight (sound : s.Sound) :
    ∃ g p, s.ensureInFlight.registry.inFlight = some g ∧
      s.ensureInFlight.progress? g = some p ∧ ∀ outcome, p ≠ .noted outcome := by
  rcases ensureInFlight_eq s with ⟨_, started⟩ | ⟨busy, joined⟩
  · rw [started]
    exact ⟨_, _, rfl, sound.progress?_new, by simp⟩
  · rw [joined]
    obtain ⟨g, latest⟩ := Option.ne_none_iff_exists'.1 busy
    obtain ⟨_, p, found, unnoted⟩ := sound.inFlight g latest
    exact ⟨g, p, latest, found, unnoted⟩

theorem await_caller (s : Session) (request : Request) (g : Nat) :
    ∃ standing, (s.await request g).callers = s.callers ++ [⟨request, standing⟩] ∧
      (standing = .waiting g ∨ ∃ outcome, s.outcome? g = some outcome ∧
        standing = .answered (s.replyAfter request outcome)) := by
  unfold await
  split
  · next outcome told => exact ⟨_, rfl, .inr ⟨outcome, told, rfl⟩⟩
  · exact ⟨_, rfl, .inl rfl⟩

/-- Who needs the rebuild in flight waits for it, unless it has ended before. -/
theorem Sound.join_caller (sound : s.Sound) (reads : request ≠ .refresh)
    (unready : s.registry.phase ≠ .populated)
    (latest : s.ensureInFlight.registry.inFlight = some g) :
    ∃ standing, (s.call request).callers = s.callers ++ [⟨request, standing⟩] ∧
      (standing = .waiting g ∨ ∃ outcome, s.registry.inFlight = some g ∧
        s.outcome? g = some outcome ∧ standing = .answered (s.replyAfter request outcome)) := by
  rw [call_unpopulated reads unready]
  rcases ensureInFlight_eq s with ⟨_, started⟩ | ⟨_, joined⟩
  · rw [started] at latest ⊢
    obtain rfl := Option.some.inj latest
    obtain ⟨standing, callers, waits | ⟨outcome, ended, _⟩⟩ :=
      await_caller s.startRebuild request (s.registry.generation + 1)
    · exact ⟨standing, callers, .inl waits⟩
    · -- A rebuild that has just been started has no outcome.
      rw [outcome?_of_progress? sound.progress?_new] at ended
      cases ended
  · rw [joined] at latest ⊢
    obtain ⟨standing, callers, stands⟩ := await_caller s request g
    refine ⟨standing, by simpa only [awaitInFlight, latest] using callers, ?_⟩
    refine stands.imp_right ?_
    rintro ⟨outcome, ended, told⟩
    exact ⟨outcome, latest, ended, told⟩

/-- A caller joins the others. If it is told something then, it has not come to refresh. -/
theorem Sound.call_caller (sound : s.Sound) (request : Request) :
    ∃ standing, (s.call request).callers = s.callers ++ [⟨request, standing⟩] ∧
      ∀ reply, standing = .answered reply →
        Answers s request (.call request) s.callers.length reply := by
  by_cases refreshes : request = .refresh
  · subst refreshes
    rw [call_refresh]
    exact ⟨_, rfl, by simp⟩
  by_cases ready : s.registry.phase = .populated
  · rw [call_populated refreshes ready]
    refine ⟨_, rfl, ?_⟩
    intro reply same
    cases same
    exact .atOnce refreshes ready
  · obtain ⟨g, _, latest, _, _⟩ := sound.ensureInFlight
    obtain ⟨standing, callers, stands⟩ := sound.join_caller refreshes ready latest
    refine ⟨standing, callers, ?_⟩
    rintro reply rfl
    rcases stands with waits | ⟨outcome, inFlight, ended, told⟩
    · cases waits
    · cases told
      exact .joined refreshes ready inFlight ended

/-- A refresh waits for a rebuild of its own. -/
theorem call_refresh_caller (s : Session) :
    (s.call .refresh).callers[s.callers.length]? =
      some { request := .refresh, standing := .waiting (s.registry.generation + 1) } := by
  rw [call_refresh]
  simp [startAndWait, addCaller, startRebuild, Registry.start]

/-! ## Callers in a step -/

theorem setStanding_callers (s : Session) (i : Nat) (standing : Standing) :
    (s.setStanding i standing).callers[caller]? =
      if i = caller then s.callers[caller]?.map ({ · with standing }) else s.callers[caller]? := by
  simp only [setStanding, List.getElem?_modify]
  split <;> simp

/-- A caller with the standing of one set anew is that one, or stands as before. -/
theorem setStanding_cases {i : Nat} {asked : Request} {before told standing : Standing}
    (known : s.callers[i]? = some ⟨asked, before⟩)
    (now : (s.setStanding i told).callers[caller]? = some ⟨request, standing⟩) :
    s.callers[caller]? = some ⟨request, standing⟩ ∨ i = caller ∧ asked = request ∧ told = standing := by
  rw [setStanding_callers] at now
  split at now
  · next same =>
      subst same
      rw [known] at now
      cases now
      exact .inr ⟨rfl, rfl, rfl⟩
  · exact .inl now

/-- The events that can tell a caller something. -/
theorem step_callers (s : Session) (e : Event) :
    (∃ request, e = .call request) ∨ (∃ i, e = .resume i) ∨ (∃ i, e = .cancel i) ∨
      (s.step e).callers = s.callers := by
  cases e with
  | call request => exact .inl ⟨request, rfl⟩
  | resume i => exact .inr (.inl ⟨i, rfl⟩)
  | cancel i => exact .inr (.inr (.inl ⟨i, rfl⟩))
  | change tree => exact .inr (.inr (.inr rfl))
  | list g => exact .inr (.inr (.inr (rebuild_callers s (.list g) trivial)))
  | proceed g => exact .inr (.inr (.inr (rebuild_callers s (.proceed g) trivial)))
  | compiled g result => exact .inr (.inr (.inr (rebuild_callers s (.compiled g result) trivial)))
  | cancelRebuild g => exact .inr (.inr (.inr (rebuild_callers s (.cancelRebuild g) trivial)))
  | note g => exact .inr (.inr (.inr (rebuild_callers s (.note g) trivial)))

/-- A caller after a step: as before, come in this step, or told something in it. -/
theorem Sound.caller_cases (sound : s.Sound) {standing : Standing}
    (now : (s.step e).callers[caller]? = some ⟨request, standing⟩) :
    s.callers[caller]? = some ⟨request, standing⟩ ∨
      (∃ reply, standing = .answered reply ∧ Answers s request e caller reply) ∨
      (e = .call request ∧ caller = s.callers.length ∧ ∃ g, standing = .waiting g) := by
  rcases step_callers s e with ⟨asked, rfl⟩ | ⟨i, rfl⟩ | ⟨i, rfl⟩ | kept
  · obtain ⟨entered, callers, told⟩ := sound.call_caller asked
    rw [Session.step, callers] at now
    rcases Nat.lt_trichotomy caller s.callers.length with before | same | after
    · rw [List.getElem?_append_left before] at now
      exact .inl now
    · subst same
      simp only [List.getElem?_concat_length, Option.some.injEq, Caller.mk.injEq] at now
      obtain ⟨rfl, rfl⟩ := now
      cases entered with
      | waiting g => exact .inr (.inr ⟨rfl, rfl, g, rfl⟩)
      | answered reply => exact .inr (.inl ⟨reply, rfl, told reply rfl⟩)
    · rw [List.getElem?_eq_none (by simp; omega)] at now
      cases now
  · simp only [Session.step, resume] at now
    split at now
    · next asked g waits =>
        split at now
        · next outcome noted =>
            rcases setStanding_cases waits now with before | ⟨rfl, rfl, rfl⟩
            · exact .inl before
            · exact .inr (.inl ⟨_, rfl, .resumed waits noted⟩)
        · exact .inl now
    · exact .inl now
  · simp only [Session.step, cancel, giveUp_awaited] at now
    split at now
    · next asked g waits =>
        rcases setStanding_cases waits now with before | ⟨rfl, rfl, rfl⟩
        · exact .inl before
        · exact .inr (.inl ⟨_, rfl, .cancelled waits⟩)
    · exact .inl now
  · rw [kept] at now
    exact .inl now

/-- Who has come stays, with the same request. -/
theorem Sound.caller_stays (sound : s.Sound) {standing : Standing}
    (before : s.callers[caller]? = some ⟨request, standing⟩) (e : Event) :
    ∃ now, (s.step e).callers[caller]? = some { request, standing := now } := by
  have set : ∀ i entered, ∃ now,
      (s.setStanding i entered).callers[caller]? = some { request, standing := now } := by
    intro i entered
    rw [setStanding_callers, before]
    split
    · exact ⟨entered, rfl⟩
    · exact ⟨standing, rfl⟩
  rcases step_callers s e with ⟨asked, rfl⟩ | ⟨i, rfl⟩ | ⟨i, rfl⟩ | kept
  · obtain ⟨entered, callers, _⟩ := sound.call_caller asked
    refine ⟨standing, ?_⟩
    rw [Session.step, callers, List.getElem?_append_left (List.getElem?_eq_some_iff.1 before).1]
    exact before
  · simp only [Session.step, resume]
    split
    · split
      · exact set _ _
      · exact ⟨standing, before⟩
    · exact ⟨standing, before⟩
  · simp only [Session.step, cancel, giveUp_awaited]
    split
    · exact set _ _
    · exact ⟨standing, before⟩
  · exact ⟨standing, kept ▸ before⟩

/-- A caller that has come is as before after a step, or has waited and is told something in it. -/
theorem Sound.caller_next (sound : s.Sound) {standing : Standing}
    (before : s.callers[caller]? = some ⟨request, standing⟩) (e : Event) :
    (s.step e).callers[caller]? = some ⟨request, standing⟩ ∨
      ∃ g reply, standing = .waiting g ∧
        (s.step e).callers[caller]? = some { request, standing := .answered reply } ∧
        (e = .cancel caller ∧ reply = .cancelled ∨
          ∃ outcome, s.progress? g = some (.noted outcome) ∧ reply = s.replyAfter request outcome) := by
  have present := (List.getElem?_eq_some_iff.1 before).1
  obtain ⟨now, after⟩ := sound.caller_stays before e
  rcases sound.caller_cases after with same | ⟨reply, rfl, told⟩ | ⟨_, new, _⟩
  · rw [before] at same
    cases same
    exact .inl after
  · refine .inr ?_
    cases told with
    | atOnce => exact absurd present (Nat.lt_irrefl _)
    | joined => exact absurd present (Nat.lt_irrefl _)
    | resumed waits noted =>
        rw [before] at waits
        cases waits
        exact ⟨_, _, rfl, after, .inr ⟨_, noted, rfl⟩⟩
    | cancelled waits =>
        rw [before] at waits
        cases waits
        exact ⟨_, _, rfl, after, .inl ⟨rfl, rfl⟩⟩
  · exact absurd present (new ▸ Nat.lt_irrefl _)

/-- What a caller was told stays. -/
theorem Sound.answered_stays (sound : s.Sound) {reply : Outcome Reply}
    (before : s.callers[caller]? = some ⟨request, .answered reply⟩) (e : Event) :
    (s.step e).callers[caller]? = some ⟨request, .answered reply⟩ := by
  rcases sound.caller_next before e with kept | ⟨_, _, waits, _⟩
  · exact kept
  · cases waits

end DocumentServer.Session
