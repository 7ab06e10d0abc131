import DocumentServer.Proofs.Download.History

/-!
What prunings have to do with the history of a download: nothing. A call that has not begun is waiting
for its own first step only, and everything that a history tells is told by such calls and by the
clock readings of the calls themselves. So the history is the same when all prunings are left out.
-/
namespace DocumentServer.DownloadDesk
open Calendar

variable {start s : DownloadDesk} {events past : List Event} {e : Event} {i k : Nat} {d : Download}
  {token : String} {errand : Errand}

def Event.isPruning : Event → Bool
  | .prune | .readPruning .. | .enterPruning _ => true
  | _ => false

/-- The events of the calls alone. -/
def unpruned (events : List Event) : List Event := events.filter fun e => !e.isPruning

/-- The event that a call needs for its first step. -/
def Errand.Begins (errand : Errand) (i : Nat) (e : Event) : Prop :=
  match errand with
  | .issue .. => ∃ now, e = .read i now
  | .consume _ => e = .enter i

theorem after_called :
    s.after i ⟨errand, .called⟩ e = ⟨errand, .called⟩ ↔ ¬errand.Begins i e := by
  cases errand with
  | issue token payload mimeType ttl =>
      cases e with
      | read k now =>
          by_cases same : k = i
          · subst same
            simp only [after, if_pos, Call.read, Errand.Begins]
            split <;> simp
          · simp [after, Errand.Begins, same]
      | enter k => simp [after, Call.enter, Errand.Begins]
      | _ => simp [after, Errand.Begins]
  | consume token =>
      cases e with
      | enter k =>
          by_cases same : k = i
          · subst same
            simp only [after, if_pos, Call.enter, Errand.Begins]
            split <;> simp
          · simp [after, Errand.Begins, same]
      | read k now => simp [after, Call.read, Errand.Begins]
      | _ => simp [after, Errand.Begins]

/-- No call goes back to its beginning. -/
theorem after_ne_called {c : Call} (same : s.after i c e = ⟨errand, .called⟩) :
    c = ⟨errand, .called⟩ := by
  rcases after_cases s i c e with kept | turn
  · rw [← kept, same]
  · rw [same] at turn
    cases turn

theorem called_step :
    (s.step e).calls[i]? = some ⟨errand, .called⟩ ↔
      (e = .call errand ∧ i = s.calls.length) ∨
        (s.calls[i]? = some ⟨errand, .called⟩ ∧ ¬errand.Begins i e) := by
  constructor
  · intro found
    rcases call_cases found with ⟨other, rfl, rfl, same⟩ | ⟨before, known, same⟩
    · cases same
      exact .inl ⟨rfl, rfl⟩
    · obtain rfl := after_ne_called same.symm
      exact .inr ⟨known, after_called.1 same.symm⟩
  · rintro (⟨rfl, rfl⟩ | ⟨known, waits⟩)
    · exact List.getElem?_concat_length
    · rw [step_call known, after_called.2 waits]

theorem unpruned_concat (past : List Event) (e : Event) :
    unpruned (past ++ [e]) = if e.isPruning then unpruned past else unpruned past ++ [e] := by
  simp only [unpruned, List.filter_append, List.filter_singleton]
  cases e.isPruning <;> simp

theorem calls_step_of_isPruning (pruning : e.isPruning = true) : (s.step e).calls = s.calls := by
  cases e with
  | prune => rfl
  | readPruning p now => rfl
  | enterPruning p =>
      simp only [step, enterPruning]
      split <;> rfl
  | _ => cases pruning

theorem calls_length_step {t : DownloadDesk} (same : s.calls.length = t.calls.length) (e : Event) :
    (s.step e).calls.length = (t.step e).calls.length := by
  rcases step_calls_length s e with kept | ⟨errand, rfl, _⟩
  · rcases step_calls_length t e with keptToo | ⟨errand, rfl, _⟩
    · rw [kept, keptToo, same]
    · simp [step] at kept
  · simp [step, same]

/-- Prunings neither add calls nor keep one from its beginning. -/
theorem calls_unpruned (start : DownloadDesk) (events : List Event) :
    (start.run (unpruned events)).calls.length = (start.run events).calls.length ∧
      ∀ (i : Nat) (errand : Errand),
        (start.run (unpruned events)).calls[i]? = some ⟨errand, .called⟩ ↔
          (start.run events).calls[i]? = some ⟨errand, .called⟩ := by
  induction events using List.reverseRecOn with
  | nil => exact ⟨rfl, fun _ _ => Iff.rfl⟩
  | append_singleton past e ih =>
      rw [unpruned_concat, run_concat]
      split
      · next pruning =>
          rw [calls_step_of_isPruning pruning]
          exact ih
      · rw [run_concat]
        refine ⟨calls_length_step ih.1 e, ?_⟩
        intro i errand
        rw [called_step, called_step, ih.1, ih.2]

/-! ## Histories, event by event -/

theorem Prepared.concat_iff :
    start.Prepared (past ++ [e]) k d ↔
      (start.Prepared past k d ∧ e ≠ .enter k) ∨
        ∃ ttl now, (start.run past).calls[k]? =
            some ⟨.issue d.token d.payload d.mimeType ttl, .called⟩ ∧
          now.add? (ttl.getD start.store.ttl) = some d.deadline ∧ e = .read k now := by
  constructor
  · generalize split : past ++ [e] = events
    rintro (@⟨before, _, _, ttl, now, called, deadline⟩ | @⟨before, _, _, last, prepared, away⟩)
    · obtain ⟨rfl, rfl⟩ := List.append_singleton_inj.1 split
      exact .inr ⟨ttl, now, called, deadline, rfl⟩
    · obtain ⟨rfl, rfl⟩ := List.append_singleton_inj.1 split
      exact .inl ⟨prepared, away⟩
  · rintro (⟨prepared, away⟩ | ⟨ttl, now, called, deadline, rfl⟩)
    · exact prepared.later away
    · exact .reads called deadline

theorem Waits.concat_iff :
    start.Waits (past ++ [e]) d ↔
      (start.Waits past d ∧ ¬(start.run past).Removes e d.token) ∨
        ∃ k, start.Prepared past k d ∧ e = .enter k := by
  constructor
  · generalize split : past ++ [e] = events
    rintro (@⟨before, k, _, prepared⟩ | @⟨before, _, last, waits, untouched⟩)
    · obtain ⟨rfl, rfl⟩ := List.append_singleton_inj.1 split
      exact .inr ⟨k, prepared, rfl⟩
    · obtain ⟨rfl, rfl⟩ := List.append_singleton_inj.1 split
      exact .inl ⟨waits, untouched⟩
  · rintro (⟨waits, untouched⟩ | ⟨k, prepared, rfl⟩)
    · exact waits.later untouched
    · exact .stored prepared

theorem Removed.concat_iff :
    start.Removed (past ++ [e]) i d ↔
      (start.Removed past i d ∧ ∀ now, e ≠ .read i now) ∨
        (start.Waits past d ∧ (start.run past).calls[i]? = some ⟨.consume d.token, .called⟩ ∧
          e = .enter i) := by
  constructor
  · generalize split : past ++ [e] = events
    rintro (@⟨before, _, _, waits, called⟩ | @⟨before, _, _, last, removed, away⟩)
    · obtain ⟨rfl, rfl⟩ := List.append_singleton_inj.1 split
      exact .inr ⟨waits, called, rfl⟩
    · obtain ⟨rfl, rfl⟩ := List.append_singleton_inj.1 split
      exact .inl ⟨removed, away⟩
  · rintro (⟨removed, away⟩ | ⟨waits, called, rfl⟩)
    · exact removed.later away
    · exact .first waits called

theorem Delivered.concat_iff :
    start.Delivered (past ++ [e]) i d ↔
      start.Delivered past i d ∨
        ∃ now, start.Removed past i d ∧ now.instant < d.deadline.instant ∧ e = .read i now := by
  constructor
  · generalize split : past ++ [e] = events
    rintro (@⟨before, _, _, now, removed, early⟩ | @⟨before, _, _, last, delivered⟩)
    · obtain ⟨rfl, rfl⟩ := List.append_singleton_inj.1 split
      exact .inr ⟨now, removed, early, rfl⟩
    · obtain ⟨rfl, rfl⟩ := List.append_singleton_inj.1 split
      exact .inl delivered
  · rintro (delivered | ⟨now, removed, early, rfl⟩)
    · exact delivered.later
    · exact .inTime removed early

/-! ## Histories without prunings -/

theorem removes_unpruned :
    (start.run (unpruned past)).Removes e token ↔ (start.run past).Removes e token := by
  simp only [Removes, (calls_unpruned start past).2]

theorem Event.isPruning_cases (pruning : e.isPruning = true) :
    (∀ k, e ≠ .enter k) ∧ ∀ k now, e ≠ .read k now := by
  constructor <;> rintro k <;> intros <;> rintro rfl <;> cases pruning

/-- What steps of calls alone can change does not depend on prunings. -/
theorem iff_unpruned {P : List Event → Prop}
    (pruned : ∀ past e, (∀ k, e ≠ .enter k) → (∀ k now, e ≠ .read k now) →
      (P (past ++ [e]) ↔ P past))
    (other : ∀ past e, (P (unpruned past) ↔ P past) →
      (P (unpruned past ++ [e]) ↔ P (past ++ [e]))) : P (unpruned events) ↔ P events := by
  induction events using List.reverseRecOn with
  | nil => rfl
  | append_singleton past e ih =>
      rw [unpruned_concat]
      split
      · next pruning =>
          obtain ⟨noEnter, noRead⟩ := Event.isPruning_cases pruning
          exact ih.trans (pruned past e noEnter noRead).symm
      · exact other past e ih

theorem prepared_unpruned :
    start.Prepared (unpruned events) k d ↔ start.Prepared events k d := by
  refine iff_unpruned (P := fun events => start.Prepared events k d) ?_ ?_
  · intro past e noEnter noRead
    simp [Prepared.concat_iff, noEnter, noRead]
  · intro past e ih
    simp only [Prepared.concat_iff, ih, (calls_unpruned start past).2]

theorem waits_unpruned : start.Waits (unpruned events) d ↔ start.Waits events d := by
  refine iff_unpruned (P := fun events => start.Waits events d) ?_ ?_
  · intro past e noEnter _
    simp [Waits.concat_iff, noEnter, Removes]
  · intro past e ih
    simp only [Waits.concat_iff, ih, prepared_unpruned, removes_unpruned]

theorem removed_unpruned : start.Removed (unpruned events) i d ↔ start.Removed events i d := by
  refine iff_unpruned (P := fun events => start.Removed events i d) ?_ ?_
  · intro past e noEnter noRead
    simp [Removed.concat_iff, noEnter, noRead]
  · intro past e ih
    simp only [Removed.concat_iff, ih, waits_unpruned, (calls_unpruned start past).2]

theorem delivered_unpruned :
    start.Delivered (unpruned events) i d ↔ start.Delivered events i d := by
  refine iff_unpruned (P := fun events => start.Delivered events i d) ?_ ?_
  · intro past e _ noRead
    simp [Delivered.concat_iff, noRead]
  · intro past e ih
    simp only [Delivered.concat_iff, ih, removed_unpruned]

theorem fresh_unpruned : Fresh (unpruned events) ↔ Fresh events := by
  rw [Fresh, Fresh, unpruned, List.filterMap_filter]
  refine iff_of_eq (congrArg List.Nodup (congrArg (List.filterMap · events) ?_))
  funext e
  cases e <;> rfl

end DocumentServer.DownloadDesk
