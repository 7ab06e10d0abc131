import DocumentServer.Proofs.Download.Pruning

/-!
Who is told of a download, when calls overlap and prunings come in between: the call that was the first
to come for it, if it was in time, and nobody else.
-/
namespace DocumentServer.DownloadDesk
open Calendar

variable {s : DownloadDesk} {events : List Event} {e : Event} {i j : Nat} {d : Download}
  {token : String} {ttl : Duration}

/-- A consumer is through, and this is what it was told. -/
def Told (s : DownloadDesk) (i : Nat) (token : String) (found : Option Download) : Prop :=
  s.calls[i]? = some ⟨.consume token, .consumed found⟩

theorem Told.unique {found other : Option Download} (told : s.Told i token found)
    (again : s.Told i token other) : found = other := by
  have same := told.symm.trans again
  simpa using same

/-- A consumer has taken a download out of the store, and has not dismissed it. -/
def Holds (s : DownloadDesk) (i : Nat) (token : String) : Prop :=
  ∃ d, s.calls[i]? = some ⟨.consume token, .taken d⟩ ∨ s.Told i token (some d)

/-- The issue of a token is through. -/
def Issued (s : DownloadDesk) (token : String) : Prop :=
  ∃ (k : Nat) (c : Call), s.calls[k]? = some c ∧ c.errand.drawn? = some token ∧ c.stage = .issued

theorem not_holds_start : ¬(start ttl).Holds i token := by
  rintro ⟨d, found | found⟩ <;> cases found

theorem holds_cases (held : (s.step e).Holds i token) :
    s.Holds i token ∨ e = .enter i ∧ s.calls[i]? = some ⟨.consume token, .called⟩ ∧
      ∃ d, s.store.find? token = some d := by
  obtain ⟨d, found | found⟩ := held
  · rcases call_turn found nofun with ⟨before, _⟩ | ⟨c, before, turn⟩
    · exact .inl ⟨d, .inl before⟩
    · cases turn with
      | takes stored => exact .inr ⟨rfl, before, d, stored⟩
  · rcases call_turn found nofun with ⟨before, _⟩ | ⟨c, before, turn⟩
    · exact .inl ⟨d, .inr before⟩
    · generalize same : some d = result at turn
      cases turn with
      | misses _ => cases same
      | @appraises _ earlier _ => exact .inl ⟨earlier, .inl before⟩

theorem Issued.step (issued : s.Issued token) (e : Event) : (s.step e).Issued token := by
  obtain ⟨k, ⟨errand, stage⟩, known, draws, rfl⟩ := issued
  exact ⟨k, _, step_stays known fun _ => not_turn_issued, draws, rfl⟩

/-- What is found under a token was there before, or is being put there. -/
theorem find?_step (distinct : s.store.Distinct) (found : (s.step e).store.find? token = some d) :
    s.store.find? token = some d ∨
      ∃ (k : Nat) (errand : Errand), e = .enter k ∧ d.token = token ∧
        s.calls[k]? = some ⟨errand, .prepared d⟩ := by
  rcases store_cases s e with same | restock
  · exact .inl (same ▸ found)
  generalize (s.step e).store = store at found restock
  cases restock with
  | insert calls =>
      rw [DownloadStore.find?_insert] at found
      split at found
      · next same =>
          cases found
          exact .inr ⟨_, _, rfl, same, calls⟩
      · exact .inl found
  | take _ =>
      rw [DownloadStore.find?_take] at found
      split at found
      · cases found
      · exact .inl found
  | drop _ =>
      rw [DownloadStore.find?_dropExpired distinct, Option.filter_eq_some_iff] at found
      exact .inl found.1

theorem find?_step_enter (called : s.calls[i]? = some ⟨.consume token, .called⟩) :
    (s.step (.enter i)).store.find? token = none := by
  have taken : (s.step (.enter i)).store = (s.store.take token).2 := by
    simp only [step, enter, called, Call.enter]
    split <;> rfl
  rw [taken, DownloadStore.find?_take, if_pos rfl]

/-- What is in the store or with a consumer was issued, and it is in one place only. -/
structure Single (s : DownloadDesk) : Prop where
  stored : ∀ {token d}, s.store.find? token = some d → s.Issued token
  held : ∀ {i token}, s.Holds i token → s.Issued token
  gone : ∀ {i token}, s.Holds i token → s.store.find? token = none
  one : ∀ {i j token}, s.Holds i token → s.Holds j token → i = j

theorem Single.step (single : s.Single) (distinct : s.store.Distinct) (e : Event)
    (prepared : ∀ {k : Nat} {errand : Errand} {d : Download}, s.calls[k]? = some ⟨errand, .prepared d⟩ →
      (∃ life, errand = .issue d.token d.payload d.mimeType life) ∧ ¬s.Issued d.token) :
    (s.step e).Single where
  stored := by
    intro token d found
    rcases find?_step distinct found with before | ⟨k, errand, rfl, rfl, calls⟩
    · exact (single.stored before).step e
    · obtain ⟨life, rfl⟩ := (prepared calls).1
      exact ⟨k, _, step_call calls _, by rw [after_errand]; rfl, by simp [after, Call.enter]⟩
  held := by
    intro i token held
    rcases holds_cases held with before | ⟨_, _, d, found⟩
    · exact (single.held before).step e
    · exact (single.stored found).step e
  gone := by
    intro i token held
    rcases holds_cases held with before | ⟨rfl, called, _⟩
    · rw [Option.eq_none_iff_forall_ne_some]
      intro d found
      rcases find?_step distinct found with stored | ⟨k, errand, rfl, rfl, calls⟩
      · rw [single.gone before] at stored
        cases stored
      · exact (prepared calls).2 (single.held before)
    · exact find?_step_enter called
  one := by
    intro i j token first second
    rcases holds_cases first with before | ⟨rfl, _, d, found⟩
    · rcases holds_cases second with beforeToo | ⟨rfl, _, d, found⟩
      · exact single.one before beforeToo
      · rw [single.gone before] at found
        cases found
    · rcases holds_cases second with before | ⟨same, _⟩
      · rw [single.gone before] at found
        cases found
      · cases same
        rfl

theorem single_run (ttl : Duration) (fresh : Fresh events) :
    ((DownloadDesk.start ttl).run events).Single := by
  induction events using List.reverseRecOn with
  | nil =>
      refine ⟨?_, fun held => (not_holds_start held).elim, fun held => (not_holds_start held).elim,
        fun held => (not_holds_start held).elim⟩
      intro token d found
      cases found
  | append_singleton past e ih =>
      rw [run_concat]
      refine (ih fresh.init).step (traced_run ttl past).distinct e ?_
      intro k errand d calls
      refine ⟨((traced_run ttl past).prepared calls).1, ?_⟩
      -- Both would have drawn the same token, and only one of them is through.
      rintro ⟨other, ⟨_, _⟩, found, draws, rfl⟩
      obtain ⟨_, rfl⟩ := ((traced_run ttl past).prepared calls).1
      obtain rfl := drawn_once fresh.init calls found rfl draws
      rw [calls] at found
      simp at found

/-- Midnight before the first of January 2024. -/
def openingTime : DateTime := ⟨⟨738886, by decide, by decide⟩, .midnight, some .utc⟩

/-- Two consumers overlap with each other and with a pruning. -/
def overlappingFetches : List Event :=
  [.call (.issue "ab" [37] "application/pdf" none), .read 0 openingTime, .enter 0,
    .call (.consume "ab"), .call (.consume "ab"), .prune, .readPruning 0 openingTime, .enter 2,
    .enter 1, .enterPruning 0, .read 2 openingTime]

def fetched : Download where
  token := "ab"
  payload := [37]
  mimeType := "application/pdf"
  deadline := ⟨openingTime.date, ⟨1000000, by decide⟩, some .utc⟩

end DocumentServer.DownloadDesk
