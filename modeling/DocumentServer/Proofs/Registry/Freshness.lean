import DocumentServer.Proofs.Registry.Callers
import DocumentServer.Proofs.Registry.Provenance

/-!
Freshness of refreshes. Whoever refreshes is told of files that were listed after the request, or of
the failure of the rebuild that the request started.
-/
namespace DocumentServer.Session

variable {start s : Session} {e : Event} {g caller : Nat} {events : List Event}

/-! ## What a refresh is told -/

/-- What a refresh may be told: that it was given up, or what came of a rebuild. -/
def Reports (s : Session) (g : Nat) (reply : Outcome Reply) : Prop :=
  reply = .cancelled ∨
    (∃ failure, reply = .failed failure ∧ s.outcome? g = some (.failed failure)) ∨
    ∃ index, reply = .done (.refreshed index) ∧ s.outcome? g = some (.done index)

/-- A caller refreshes by a rebuild: it waits for it, or was told what came of it. -/
def Refreshes (s : Session) (caller g : Nat) : Prop :=
  ∃ standing, s.callers[caller]? = some { request := .refresh, standing } ∧
    (standing = .waiting g ∨ ∃ reply, standing = .answered reply ∧ s.Reports g reply)

theorem Reports.step {reply : Outcome Reply} (reports : s.Reports g reply) (e : Event) :
    (s.step e).Reports g reply := by
  rcases reports with cancelled | ⟨failure, same, told⟩ | ⟨index, same, told⟩
  · exact .inl cancelled
  · exact .inr (.inl ⟨failure, same, outcome?_final (step_move s e) told⟩)
  · exact .inr (.inr ⟨index, same, outcome?_final (step_move s e) told⟩)

theorem reports_replyAfter {outcome : Outcome Index} (told : s.outcome? g = some outcome) :
    s.Reports g (s.replyAfter .refresh outcome) := by
  cases outcome with
  | cancelled => exact .inl rfl
  | failed failure => exact .inr (.inl ⟨failure, rfl, told⟩)
  | done index => exact .inr (.inr ⟨index, rfl, told⟩)

theorem Refreshes.step (refreshes : s.Refreshes caller g) (sound : s.Sound) (e : Event) :
    (s.step e).Refreshes caller g := by
  obtain ⟨standing, before, stands⟩ := refreshes
  rcases sound.caller_next before e with kept | ⟨_, reply, rfl, after, given⟩
  · refine ⟨standing, kept, stands.imp_right ?_⟩
    rintro ⟨reply, same, reports⟩
    exact ⟨reply, same, reports.step e⟩
  · refine ⟨_, after, .inr ⟨reply, rfl, ?_⟩⟩
    rcases stands with waits | ⟨_, same, _⟩
    · cases waits
      rcases given with ⟨_, rfl⟩ | ⟨outcome, noted, rfl⟩
      · exact .inl rfl
      · exact (reports_replyAfter (outcome?_of_progress? noted)).step e
    · cases same

theorem Refreshes.run (refreshes : s.Refreshes caller g) (sound : s.Sound) (events : List Event) :
    (s.run events).Refreshes caller g := by
  induction events generalizing s with
  | nil => exact refreshes
  | cons e rest ih => exact ih (refreshes.step sound e) (sound.step e)

theorem refreshes_call (s : Session) :
    (s.step (.call .refresh)).Refreshes s.callers.length (s.registry.generation + 1) :=
  ⟨_, call_refresh_caller s, .inl rfl⟩

/-! ## When files were listed -/

theorem occurs_append {kind : Session → Event → Prop} {first second : List Event}
    (occurs : start.Occurs (first ++ second) kind) :
    start.Occurs first kind ∨ (start.run first).Occurs second kind := by
  obtain ⟨before, e, after, split, holds⟩ := occurs
  rcases List.append_eq_append_iff.1 split with ⟨middle, rfl, rest⟩ | ⟨middle, rfl, rest⟩
  · exact .inr ⟨middle, e, after, rest, by rwa [← run_append]⟩
  · cases middle with
    | nil => exact .inr ⟨[], e, after, by simpa using rest.symm, by simpa [run] using holds⟩
    | cons other middle =>
        obtain ⟨rfl, rfl⟩ := List.cons.inj rest
        exact .inl ⟨before, e, middle, rfl, holds⟩

/-- A rebuild has been started and its files have been listed, or it was given up before that. -/
def Begun (s : Session) (g : Nat) : Prop := s.progress? g ≠ none ∧ s.progress? g ≠ some .scheduled

theorem Begun.step (begun : s.Begun g) (sound : s.Sound) (e : Event) : (s.step e).Begun g := by
  have move := step_move s e
  have known : ((s.step e).progress? g).isSome := by
    obtain ⟨positive, bound⟩ := sound.known_iff.1 (Option.isSome_iff_ne_none.2 begun.1)
    exact (sound.step e).known_iff.2 ⟨positive, Nat.le_trans bound (counter_le move)⟩
  refine ⟨Option.isSome_iff_ne_none.1 known, ?_⟩
  intro scheduled
  rcases progress?_cases move scheduled trivial with before | ⟨none, _⟩ | ⟨q, _, advances⟩
  · exact begun.2 before
  · exact begun.1 none
  · cases advances

theorem Begun.run (begun : s.Begun g) (sound : s.Sound) (events : List Event) :
    (s.run events).Begun g := by
  induction events generalizing s with
  | nil => exact begun
  | cons e rest ih => exact ih (begun.step sound e) (sound.step e)

theorem begun_list (scheduled : s.progress? g = some .scheduled) :
    (s.step (.list g)).Begun g := by
  have listed : (s.step (.list g)).progress? g = some (.listed s.listing) := by
    simp only [step, list, scheduled, progress?_setProgress, if_true, Option.map_some]
  rw [Begun, listed]
  exact ⟨by simp, by simp⟩

theorem Occurs.begun {files : List Files.Path} (occurs : start.Occurs events (Lists g files))
    (sound : start.Sound) : (start.run events).Begun g := by
  obtain ⟨before, e, after, rfl, rfl, scheduled, _⟩ := occurs
  rw [run_append]
  exact (begun_list scheduled).run ((sound.run before).step _) after

/-- A rebuild that a refresh starts, or one after it, lists its files after the request. -/
theorem Sound.not_begun (sound : s.Sound) (later : s.registry.generation < g) :
    ¬(s.step (.call .refresh)).Begun g := by
  rintro ⟨known, unscheduled⟩
  have rebuilds : (s.step (.call .refresh)).progress? g = s.startRebuild.progress? g := by
    rw [Session.step, call_refresh]
    exact progress?_congr rfl g
  rw [rebuilds, progress?_startRebuild, sound.unknown later, Option.none_or] at known unscheduled
  split at known
  · next same => exact unscheduled (if_pos same)
  · exact known rfl

/-- A refresh is given a generation that no rebuild had before. What it is told, unless it was given
up, is how the rebuild of that generation failed, or an index of that generation or a later one that
is not later than the live index. Such an index holds just what its rebuild collected from files that
were listed after the request. -/
theorem refresh_reports_fresh_index (root : Files.Path) (tree : Files.Tree)
    (before after : List Event) :
    let start := Session.start root tree
    let s := start.run before
    let g := s.registry.generation + 1
    let requested := s.step (.call .refresh)
    let t := requested.run after
    s.progress? g = none ∧
    requested.callers[s.callers.length]? = some { request := .refresh, standing := .waiting g } ∧
    ∀ reply : Outcome Reply,
      t.callers[s.callers.length]? = some { request := .refresh, standing := .answered reply } →
      reply = .cancelled ∨
      (∃ failure, reply = .failed failure ∧ t.outcome? g = some (.failed failure)) ∨
      ∃ index, reply = .done (.refreshed index) ∧ g ≤ index.generation ∧
        index.generation ≤ t.registry.index.generation ∧
        ∃ files, requested.Occurs after (Lists index.generation files) ∧
          start.Gathered (before ++ .call .refresh :: after) index.generation files index := by
  intro start s g requested t
  have sound : s.Sound := sound_run root tree before
  refine ⟨sound.unknown (Nat.lt_succ_self _), call_refresh_caller s, ?_⟩
  intro reply now
  have requestedSound : requested.Sound := sound.step _
  have refreshes : t.Refreshes s.callers.length g := (refreshes_call s).run requestedSound after
  obtain ⟨standing, found, stands⟩ := refreshes
  rw [now] at found
  cases found
  rcases stands with waits | ⟨_, same, reports⟩
  · cases waits
  cases same
  rcases reports with cancelled | failed | ⟨index, same, told⟩
  · exact .inl cancelled
  · exact .inr (.inl failed)
  · obtain ⟨fresh, live⟩ := (requestedSound.run after).done told
    refine .inr (.inr ⟨index, same, fresh, live, ?_⟩)
    have whole : start.run (before ++ .call .refresh :: after) = t := run_append _ _ _
    rw [← whole] at told
    obtain ⟨files, listed, gathered⟩ := (traced_run root tree _).done told
    refine ⟨files, ?_, gathered⟩
    have split : before ++ .call .refresh :: after = (before ++ [.call .refresh]) ++ after := by simp
    rw [split] at listed
    rcases occurs_append listed with early | late
    · have begun := early.begun (Sound.start root tree)
      rw [run_concat] at begun
      exact absurd begun (sound.not_begun fresh)
    · rwa [run_concat] at late

end DocumentServer.Session
