import DocumentServer.Proofs.Download.Desk
import Mathlib.Data.List.Induction

/-!
Histories of downloads: who has prepared one, whether it waits in the store, and who has come for it,
told by the events of a run alone. What is found at a desk has such a history; and where tokens are not
drawn twice, what has such a history is found, unless the clock has reached the deadline before.
-/
namespace DocumentServer.DownloadDesk
open Calendar

/-- A call takes what the store has under a token. -/
def Removes (s : DownloadDesk) (e : Event) (token : String) : Prop :=
  ∃ i, e = .enter i ∧ s.calls[i]? = some ⟨.consume token, .called⟩

/-- A call has read the clock for the deadline of its download, and has not come to the store. -/
inductive Prepared (start : DownloadDesk) : List Event → Nat → Download → Prop
  | reads {past k d ttl now} :
      (start.run past).calls[k]? =
        some ⟨.issue d.token d.payload d.mimeType ttl, .called⟩ →
      now.add? (ttl.getD start.store.ttl) = some d.deadline →
      Prepared start (past ++ [.read k now]) k d
  | later {past k d e} : Prepared start past k d → e ≠ .enter k → Prepared start (past ++ [e]) k d

/-- A download was put into the store, and no call has come for its token since. -/
inductive Waits (start : DownloadDesk) : List Event → Download → Prop
  | stored {past k d} : Prepared start past k d → Waits start (past ++ [.enter k]) d
  | later {past d e} : Waits start past d → ¬(start.run past).Removes e d.token →
      Waits start (past ++ [e]) d

/-- A call was the first to come for a download, and has not read the clock since. -/
inductive Removed (start : DownloadDesk) : List Event → Nat → Download → Prop
  | first {past i d} : Waits start past d →
      (start.run past).calls[i]? = some ⟨.consume d.token, .called⟩ →
      Removed start (past ++ [.enter i]) i d
  | later {past i d e} : Removed start past i d → (∀ now, e ≠ .read i now) →
      Removed start (past ++ [e]) i d

/-- A call was the first to come for a download, and then read the clock before the deadline. -/
inductive Delivered (start : DownloadDesk) : List Event → Nat → Download → Prop
  | inTime {past i d now} : Removed start past i d → now.instant < d.deadline.instant →
      Delivered start (past ++ [.read i now]) i d
  | later {past i d e} : Delivered start past i d → Delivered start (past ++ [e]) i d

/-! ## What is found has its history -/

variable {start s : DownloadDesk} {events : List Event} {e : Event} {i k : Nat} {d : Download}
  {token : String} {ttl : Duration}

/-- What is found after a step was put there by it, or was found before and was not taken by it. -/
theorem found_step (distinct : s.store.Distinct)
    (found : (s.step e).store.find? token = some d) :
    (∃ k errand, e = .enter k ∧ s.calls[k]? = some ⟨errand, .prepared d⟩ ∧ token = d.token) ∨
      s.store.find? token = some d ∧ ¬s.Removes e token := by
  by_cases removes : s.Removes e token
  · obtain ⟨i, rfl, calls⟩ := removes
    rw [step_enter calls, Call.enter_consume, DownloadStore.find?_take, if_pos rfl] at found
    cases found
  · rcases store_cases s e with same | restock
    · exact .inr ⟨same ▸ found, removes⟩
    · generalize (s.step e).store = store at found restock
      cases restock with
      | @insert k errand new calls =>
          rw [DownloadStore.find?_insert] at found
          split at found
          · next same =>
              cases found
              exact .inl ⟨k, errand, rfl, calls, same.symm⟩
          · exact .inr ⟨found, removes⟩
      | take calls =>
          rw [DownloadStore.find?_take] at found
          split at found
          · cases found
          · exact .inr ⟨found, removes⟩
      | drop timed =>
          rw [DownloadStore.find?_dropExpired distinct, Option.filter_eq_some_iff] at found
          exact .inr ⟨found.1, removes⟩

/-- What is found and not taken in a step stays, unless another download comes in its place or it is
dropped as expired. -/
theorem find_step (distinct : s.store.Distinct) (found : s.store.find? token = some d)
    (untouched : ¬s.Removes e token) :
    (s.step e).store.find? token = some d ∨
      (∃ k errand new, e = .enter k ∧ s.calls[k]? = some ⟨errand, .prepared new⟩ ∧
        new.token = token) ∨
      ∃ p now, e = .enterPruning p ∧ s.prunings[p]? = some (.timed now) ∧ d.isExpired now = true := by
  rcases store_cases s e with same | restock
  · exact .inl (same ▸ found)
  · generalize (s.step e).store = store at restock
    cases restock with
    | @insert k errand new calls =>
        by_cases same : new.token = token
        · exact .inr (.inl ⟨k, errand, new, rfl, calls, same⟩)
        · exact .inl (by rw [DownloadStore.find?_insert, if_neg same, found])
    | @take k asked calls =>
        refine .inl ?_
        rw [DownloadStore.find?_take, if_neg, found]
        rintro rfl
        exact untouched ⟨k, rfl, calls⟩
    | @drop p now timed =>
        by_cases expired : d.isExpired now = true
        · exact .inr (.inr ⟨p, now, rfl, timed, expired⟩)
        · exact .inl (by simp [DownloadStore.find?_dropExpired distinct, found, expired])

/-- Whatever a run has at hand has the history that it should have. -/
structure Traced (start : DownloadDesk) (events : List Event) : Prop where
  distinct : (start.run events).store.Distinct
  prepared : ∀ {k errand d}, (start.run events).calls[k]? = some ⟨errand, .prepared d⟩ →
    (∃ ttl, errand = .issue d.token d.payload d.mimeType ttl) ∧ start.Prepared events k d
  stored : ∀ {token d}, (start.run events).store.find? token = some d →
    token = d.token ∧ start.Waits events d
  taken : ∀ {i token d}, (start.run events).calls[i]? = some ⟨.consume token, .taken d⟩ →
    token = d.token ∧ start.Removed events i d
  delivered : ∀ {i token d},
    (start.run events).calls[i]? = some ⟨.consume token, .consumed (some d)⟩ →
    token = d.token ∧ start.Delivered events i d

namespace Traced

theorem nil (ttl : Duration) : (DownloadDesk.start ttl).Traced [] where
  distinct := List.nodup_nil
  prepared := by
    intro k errand d found
    cases found
  stored := by
    intro token d found
    cases found
  taken := by
    intro i token d found
    cases found
  delivered := by
    intro i token d found
    cases found

theorem prepared_concat (traced : start.Traced events) {errand : Errand}
    (found : (start.run (events ++ [e])).calls[k]? = some ⟨errand, .prepared d⟩) :
    (∃ ttl, errand = .issue d.token d.payload d.mimeType ttl) ∧
      start.Prepared (events ++ [e]) k d := by
  rw [run_concat] at found
  rcases call_turn found nofun with ⟨before, same⟩ | ⟨c, before, turn⟩
  · obtain ⟨issues, prepared⟩ := traced.prepared before
    refine ⟨issues, prepared.later ?_⟩
    -- At the store the call would have got on.
    rintro rfl
    obtain ⟨ttl, rfl⟩ := issues
    simp [after, Call.enter] at same
  · cases turn with
    | prepares made =>
        obtain ⟨rfl, rfl, rfl, deadline⟩ := DownloadStore.prepare_eq_ok made
        rw [ttl_run] at deadline
        exact ⟨⟨_, rfl⟩, .reads before deadline⟩

theorem stored_concat (traced : start.Traced events)
    (found : (start.run (events ++ [e])).store.find? token = some d) :
    token = d.token ∧ start.Waits (events ++ [e]) d := by
  rw [run_concat] at found
  rcases found_step traced.distinct found with ⟨k, errand, rfl, calls, rfl⟩ | ⟨before, untouched⟩
  · exact ⟨rfl, .stored (traced.prepared calls).2⟩
  · obtain ⟨rfl, waits⟩ := traced.stored before
    exact ⟨rfl, waits.later untouched⟩

theorem taken_concat (traced : start.Traced events)
    (found : (start.run (events ++ [e])).calls[i]? = some ⟨.consume token, .taken d⟩) :
    token = d.token ∧ start.Removed (events ++ [e]) i d := by
  rw [run_concat] at found
  rcases call_turn found nofun with ⟨before, same⟩ | ⟨c, before, turn⟩
  · obtain ⟨rfl, removed⟩ := traced.taken before
    refine ⟨rfl, removed.later ?_⟩
    -- With the clock read the call would have got on.
    rintro now rfl
    simp [after, Call.read] at same
  · cases turn with
    | takes stored =>
        obtain ⟨rfl, waits⟩ := traced.stored stored
        exact ⟨rfl, .first waits before⟩

theorem delivered_concat (traced : start.Traced events)
    (found : (start.run (events ++ [e])).calls[i]? = some ⟨.consume token, .consumed (some d)⟩) :
    token = d.token ∧ start.Delivered (events ++ [e]) i d := by
  rw [run_concat] at found
  rcases call_turn found nofun with ⟨before, _⟩ | ⟨c, before, turn⟩
  · obtain ⟨rfl, delivered⟩ := traced.delivered before
    exact ⟨rfl, delivered.later⟩
  · generalize same : some d = result at turn
    cases turn with
    | misses _ => cases same
    | appraises =>
        obtain ⟨rfl, inTime⟩ := DownloadStore.deliver_eq_some same.symm
        obtain ⟨rfl, removed⟩ := traced.taken before
        exact ⟨rfl, .inTime removed inTime⟩

theorem concat (traced : start.Traced events) (e : Event) : start.Traced (events ++ [e]) where
  distinct := run_concat start events e ▸ distinct_step traced.distinct e
  prepared := traced.prepared_concat
  stored := traced.stored_concat
  taken := traced.taken_concat
  delivered := traced.delivered_concat

end Traced

theorem traced_run (ttl : Duration) (events : List Event) :
    (DownloadDesk.start ttl).Traced events := by
  induction events using List.reverseRecOn with
  | nil => exact .nil ttl
  | append_singleton events e ih => exact ih.concat e

/-! ## Tokens and readings of a run -/

/-- The token that an issue has drawn. -/
def Errand.drawn? : Errand → Option String
  | .issue token .. => some token
  | .consume _ => none

def Event.drawn? : Event → Option String
  | .call errand => errand.drawn?
  | _ => none

def Event.reading? : Event → Option DateTime
  | .read _ now => some now
  | .readPruning _ now => some now
  | _ => none

/-- No token is drawn twice. -/
def Fresh (events : List Event) : Prop := (events.filterMap Event.drawn?).Nodup

/-- The clock is never behind an earlier reading. -/
def Forward (events : List Event) : Prop :=
  (events.filterMap Event.reading?).Pairwise fun a b => a.instant ≤ b.instant

instance (events : List Event) : Decidable (Fresh events) :=
  inferInstanceAs (Decidable (_ : List String).Nodup)

instance (events : List Event) : Decidable (Forward events) :=
  inferInstanceAs (Decidable ((_ : List DateTime).Pairwise _))

/-- The clock has been read at the deadline or after it. -/
def Late (events : List Event) (d : Download) : Prop :=
  ∃ now ∈ events.filterMap Event.reading?, d.deadline.instant ≤ now.instant

theorem Fresh.init (fresh : Fresh (events ++ [e])) : Fresh events := by
  rw [Fresh, List.filterMap_append] at fresh
  exact (List.nodup_append.1 fresh).1

theorem Forward.init (forward : Forward (events ++ [e])) : Forward events := by
  rw [Forward, List.filterMap_append] at forward
  exact (List.pairwise_append.1 forward).1

theorem Late.concat (late : Late events d) (e : Event) : Late (events ++ [e]) d := by
  obtain ⟨now, read, past⟩ := late
  exact ⟨now, by simp [read], past⟩

/-- What has come too late comes too late ever after. -/
theorem Late.not_lt {now : DateTime} (late : Late events d)
    (forward : Forward (events ++ [.read i now])) : ¬now.instant < d.deadline.instant := by
  obtain ⟨earlier, read, past⟩ := late
  rw [Forward, List.filterMap_append, List.pairwise_append] at forward
  have order := forward.2.2 earlier read now (by simp [Event.reading?])
  omega

theorem after_errand (s : DownloadDesk) (i : Nat) (c : Call) (e : Event) :
    (s.after i c e).errand = c.errand := by
  rcases after_cases s i c e with same | turn
  · rw [same]
  · generalize s.after i c e = next at turn
    cases turn <;> rfl

theorem drawn_mem {c : Call} (found : ((DownloadDesk.start ttl).run events).calls[i]? = some c)
    (draws : c.errand.drawn? = some token) : token ∈ events.filterMap Event.drawn? := by
  induction events using List.reverseRecOn generalizing c with
  | nil => cases found
  | append_singleton events e ih =>
      rw [run_concat] at found
      rw [List.filterMap_append, List.mem_append]
      rcases call_cases found with ⟨errand, rfl, _, rfl⟩ | ⟨before, old, rfl⟩
      · exact .inr (by simp [Event.drawn?, draws])
      · rw [after_errand] at draws
        exact .inl (ih old draws)

/-- No two calls issue downloads under one token. -/
theorem drawn_once (fresh : Fresh events) {c other : Call}
    (first : ((DownloadDesk.start ttl).run events).calls[i]? = some c)
    (second : ((DownloadDesk.start ttl).run events).calls[k]? = some other)
    (draws : c.errand.drawn? = some token) (drawsToo : other.errand.drawn? = some token) :
    i = k := by
  induction events using List.reverseRecOn generalizing c other with
  | nil => cases first
  | append_singleton events e ih =>
      have initFresh := fresh.init
      rw [Fresh, List.filterMap_append, List.nodup_append] at fresh
      rw [run_concat] at first second
      have new : ∀ {j : Nat} {before : Call} {errand : Errand},
          ((DownloadDesk.start ttl).run events).calls[j]? = some before →
          before.errand.drawn? = some token → e = .call errand → errand.drawn? ≠ some token := by
        rintro j before errand known draws rfl again
        exact fresh.2.2 token (drawn_mem known draws) token (by simp [Event.drawn?, again]) rfl
      rcases call_cases first with ⟨errand, called, here, rfl⟩ | ⟨before, known, rfl⟩
      · rcases call_cases second with ⟨_, _, there, _⟩ | ⟨before, known, rfl⟩
        · exact here.trans there.symm
        · rw [after_errand] at drawsToo
          exact absurd draws (new known drawsToo called)
      · rw [after_errand] at draws
        rcases call_cases second with ⟨errand, called, _, rfl⟩ | ⟨earlier, knownToo, rfl⟩
        · exact absurd drawsToo (new known draws called)
        · rw [after_errand] at drawsToo
          exact ih initFresh known knownToo draws drawsToo

/-! ## What has its history is found -/

theorem step_timed {p : Nat} {now : DateTime} (found : (s.step e).prunings[p]? = some (.timed now)) :
    s.prunings[p]? = some (.timed now) ∨ e = .readPruning p now := by
  rcases pruning_cases found with new | ⟨before, known, becomes⟩
  · cases new
  rcases afterPruning_cases s p before e with same | turn
  · rw [becomes, same]
    exact .inl known
  · generalize s.afterPruning p before e = next at becomes turn
    cases turn with
    | times =>
        cases becomes
        exact .inr rfl
    | counts => cases becomes

theorem timed_mem {p : Nat} {now : DateTime}
    (found : ((DownloadDesk.start ttl).run events).prunings[p]? = some (.timed now)) :
    now ∈ events.filterMap Event.reading? := by
  induction events using List.reverseRecOn with
  | nil => cases found
  | append_singleton events e ih =>
      rw [run_concat] at found
      rw [List.filterMap_append, List.mem_append]
      rcases step_timed found with before | rfl
      · exact .inl (ih before)
      · exact .inr (by simp [Event.reading?])

theorem Prepared.found (prepared : start.Prepared events k d) :
    ∃ ttl, (start.run events).calls[k]? =
      some ⟨.issue d.token d.payload d.mimeType ttl, .prepared d⟩ := by
  induction prepared with
  | @reads past k d ttl now called deadline =>
      rw [← ttl_run start past] at deadline
      refine ⟨ttl, ?_⟩
      rw [run_concat, step_call called]
      simp [after, Call.read, DownloadStore.prepare_of_deadline deadline]
  | @later past k d e _ away ih =>
      obtain ⟨ttl, before⟩ := ih
      refine ⟨ttl, run_concat start past e ▸ step_stays before ?_⟩
      intro next turn
      cases turn
      exact away rfl

/-- A download that waits is in the store, unless it is so late that it may have been dropped. -/
theorem Waits.found (waits : (DownloadDesk.start ttl).Waits events d) (fresh : Fresh events) :
    (∃ (k : Nat) (life : Option Duration), ((DownloadDesk.start ttl).run events).calls[k]? =
        some ⟨.issue d.token d.payload d.mimeType life, .issued⟩) ∧
      (((DownloadDesk.start ttl).run events).store.find? d.token = some d ∨ Late events d) := by
  induction waits with
  | @stored past k d prepared =>
      obtain ⟨life, here⟩ := prepared.found
      rw [run_concat]
      refine ⟨⟨k, life, ?_⟩, .inl ?_⟩
      · rw [step_call here]
        simp [after, Call.enter]
      · simp [step, enter, here, Call.enter, DownloadStore.find?_insert]
  | @later past d e _ untouched ih =>
      obtain ⟨⟨k, life, issued⟩, there⟩ := ih fresh.init
      rw [run_concat]
      refine ⟨⟨k, life, step_stays issued fun _ => not_turn_issued⟩, ?_⟩
      rcases there with there | late
      swap
      · exact .inr (late.concat e)
      have traced := traced_run ttl past
      rcases find_step traced.distinct there untouched with
        kept | ⟨j, errand, new, rfl, calls, same⟩ | ⟨p, now, rfl, timed, expired⟩
      · exact .inl kept
      · -- The other call would have drawn the same token.
        obtain ⟨_, rfl⟩ := (traced.prepared calls).1
        obtain rfl := drawn_once fresh.init calls issued
          (show some new.token = some d.token by rw [same]) rfl
        rw [calls] at issued
        simp at issued
      · rw [DownloadStore.isExpired_iff] at expired
        exact .inr (Late.concat ⟨now, timed_mem timed, expired⟩ _)

/-- The call that was the first to come for a download has it, unless it came too late. -/
theorem Removed.found (removed : (DownloadDesk.start ttl).Removed events i d)
    (fresh : Fresh events) :
    ((DownloadDesk.start ttl).run events).calls[i]? = some ⟨.consume d.token, .taken d⟩ ∨
      Late events d := by
  induction removed with
  | @first past i d waits called =>
      rcases (waits.found fresh.init).2 with there | late
      · refine .inl ?_
        rw [run_concat, step_call called]
        simp [after, Call.enter, there]
      · exact .inr (late.concat _)
  | @later past i d e _ away ih =>
      rcases ih fresh.init with before | late
      · refine .inl (run_concat _ past e ▸ step_stays before ?_)
        intro next turn
        cases turn
        exact away _ rfl
      · exact .inr (late.concat e)

theorem Delivered.found (delivered : (DownloadDesk.start ttl).Delivered events i d)
    (fresh : Fresh events) (forward : Forward events) :
    ((DownloadDesk.start ttl).run events).calls[i]? =
      some ⟨.consume d.token, .consumed (some d)⟩ := by
  induction delivered with
  | @inTime past i d now removed early =>
      rcases removed.found fresh.init with taken | late
      · rw [run_concat, step_call taken]
        simp [after, Call.read, DownloadStore.deliver_of_lt early]
      · exact absurd early (late.not_lt forward)
  | @later past i d e _ ih =>
      rw [run_concat]
      exact step_stays (ih fresh.init forward.init) fun _ => not_turn_consumed

end DocumentServer.DownloadDesk
