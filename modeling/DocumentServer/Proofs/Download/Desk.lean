import DocumentServer.Download.Desk
import DocumentServer.Proofs.Download.Store

/-!
All that a step at a desk can do: how a call goes on, and how the store changes. A call that nothing
comes between is the operation of the store.
-/
namespace DocumentServer.DownloadDesk
open Calendar

variable {s : DownloadDesk} {e : Event} {i : Nat} {c : Call}

theorem run_append (s : DownloadDesk) (first second : List Event) :
    s.run (first ++ second) = (s.run first).run second := List.foldl_append

theorem run_concat (s : DownloadDesk) (events : List Event) (e : Event) :
    s.run (events ++ [e]) = (s.run events).step e := by
  rw [run_append]
  rfl

/-! ## Calls -/

/-- What becomes of a call in a step. -/
def after (s : DownloadDesk) (i : Nat) (c : Call) : Event → Call
  | .read k now => if k = i then c.read s.store now else c
  | .enter k => if k = i then (c.enter s.store).1 else c
  | _ => c

/-- How a call can go on. -/
inductive Turn (s : DownloadDesk) (i : Nat) : Event → Call → Call → Prop
  | prepares {token payload mimeType ttl now d} :
      s.store.prepare now token payload mimeType ttl = .ok d →
      Turn s i (.read i now) ⟨.issue token payload mimeType ttl, .called⟩
        ⟨.issue token payload mimeType ttl, .prepared d⟩
  | refuses {token payload mimeType ttl now f} :
      s.store.prepare now token payload mimeType ttl = .error f →
      Turn s i (.read i now) ⟨.issue token payload mimeType ttl, .called⟩
        ⟨.issue token payload mimeType ttl, .refused f⟩
  | stores {token payload mimeType ttl d} :
      Turn s i (.enter i) ⟨.issue token payload mimeType ttl, .prepared d⟩
        ⟨.issue token payload mimeType ttl, .issued⟩
  | takes {token d} : s.store.find? token = some d →
      Turn s i (.enter i) ⟨.consume token, .called⟩ ⟨.consume token, .taken d⟩
  | misses {token} : s.store.find? token = none →
      Turn s i (.enter i) ⟨.consume token, .called⟩ ⟨.consume token, .consumed none⟩
  | appraises {token d now} :
      Turn s i (.read i now) ⟨.consume token, .taken d⟩
        ⟨.consume token, .consumed (DownloadStore.deliver now d)⟩

theorem read_cases (s : DownloadDesk) (i : Nat) (c : Call) (now : DateTime) :
    c.read s.store now = c ∨ Turn s i (.read i now) c (c.read s.store now) := by
  obtain ⟨errand, stage⟩ := c
  cases errand with
  | issue token payload mimeType ttl =>
      cases stage with
      | called =>
          simp only [Call.read]
          cases made : s.store.prepare now token payload mimeType ttl with
          | ok d => exact .inr (.prepares made)
          | error f => exact .inr (.refuses made)
      | _ => exact .inl rfl
  | consume token =>
      cases stage with
      | taken d => exact .inr .appraises
      | _ => exact .inl rfl

theorem enter_cases (s : DownloadDesk) (i : Nat) (c : Call) :
    (c.enter s.store).1 = c ∨ Turn s i (.enter i) c (c.enter s.store).1 := by
  obtain ⟨errand, stage⟩ := c
  cases errand with
  | issue token payload mimeType ttl =>
      cases stage with
      | prepared d => exact .inr .stores
      | _ => exact .inl rfl
  | consume token =>
      cases stage with
      | called =>
          simp only [Call.enter, DownloadStore.take_found]
          cases found : s.store.find? token with
          | none => exact .inr (.misses found)
          | some d => exact .inr (.takes found)
      | _ => exact .inl rfl

theorem after_cases (s : DownloadDesk) (i : Nat) (c : Call) (e : Event) :
    s.after i c e = c ∨ Turn s i e c (s.after i c e) := by
  cases e with
  | read k now =>
      simp only [after]
      split
      · next same =>
          subst same
          exact read_cases s k c now
      · exact .inl rfl
  | enter k =>
      simp only [after]
      split
      · next same =>
          subst same
          exact enter_cases s k c
      · exact .inl rfl
  | _ => exact .inl rfl

theorem step_call (found : s.calls[i]? = some c) (e : Event) :
    (s.step e).calls[i]? = some (s.after i c e) := by
  have present := (List.getElem?_eq_some_iff.1 found).1
  cases e with
  | call errand => simpa [step, after, List.getElem?_append_left present] using found
  | read k now =>
      simp only [step, after, List.getElem?_modify, found]
      split <;> rfl
  | enter k =>
      simp only [step, enter, after]
      split
      · next other here =>
          simp only [List.getElem?_set]
          split
          · next same =>
              subst same
              rw [found] at here
              cases here
              simp [present]
          · exact found
      · next missing =>
          split
          · next same => simp [same, found] at missing
          · exact found
  | prune => exact found
  | readPruning k now => exact found
  | enterPruning k =>
      simp only [step, enterPruning]
      split <;> exact found

theorem step_calls_length (s : DownloadDesk) (e : Event) :
    (s.step e).calls.length = s.calls.length ∨
      ∃ errand, e = .call errand ∧ (s.step e).calls = s.calls ++ [⟨errand, .called⟩] := by
  cases e with
  | call errand => exact .inr ⟨errand, rfl, rfl⟩
  | read k now => exact .inl (List.length_modify ..)
  | enter k =>
      refine .inl ?_
      simp only [step, enter]
      split <;> simp
  | prune => exact .inl rfl
  | readPruning k now => exact .inl rfl
  | enterPruning k =>
      refine .inl ?_
      simp only [step, enterPruning]
      split <;> rfl

/-- A call after a step is a new one, or what became of one before. -/
theorem call_cases (found : (s.step e).calls[i]? = some c) :
    (∃ errand, e = .call errand ∧ i = s.calls.length ∧ c = ⟨errand, .called⟩) ∨
      ∃ before, s.calls[i]? = some before ∧ c = s.after i before e := by
  cases before : s.calls[i]? with
  | some old =>
      rw [step_call before] at found
      exact .inr ⟨old, rfl, (Option.some.inj found).symm⟩
  | none =>
      have beyond := List.getElem?_eq_none_iff.1 before
      have inside := (List.getElem?_eq_some_iff.1 found).1
      rcases step_calls_length s e with same | ⟨errand, rfl, grown⟩
      · omega
      · rw [grown, List.length_append, List.length_singleton] at inside
        obtain rfl : i = s.calls.length := by omega
        rw [grown, List.getElem?_concat_length] at found
        exact .inl ⟨errand, rfl, rfl, (Option.some.inj found).symm⟩

/-- A call that is past its beginning was so before, or took a turn. -/
theorem call_turn (found : (s.step e).calls[i]? = some c) (begun : c.stage ≠ .called) :
    (s.calls[i]? = some c ∧ s.after i c e = c) ∨
      ∃ before, s.calls[i]? = some before ∧ Turn s i e before c := by
  rcases call_cases found with ⟨_, _, _, rfl⟩ | ⟨before, known, becomes⟩
  · exact absurd rfl begun
  rcases after_cases s i before e with same | turn
  · rw [same] at becomes
    subst becomes
    exact .inl ⟨known, same⟩
  · exact .inr ⟨before, known, becomes ▸ turn⟩

theorem not_turn_issued {errand : Errand} {next : Call} : ¬Turn s i e ⟨errand, .issued⟩ next := by
  intro turn
  cases turn

theorem not_turn_consumed {errand : Errand} {found : Option Download} {next : Call} :
    ¬Turn s i e ⟨errand, .consumed found⟩ next := by
  intro turn
  cases turn

/-- A call stays as it is in a step that is no turn of it. -/
theorem step_stays (known : s.calls[i]? = some c) (stays : ∀ next, ¬Turn s i e c next) :
    (s.step e).calls[i]? = some c := by
  rw [step_call known]
  rcases after_cases s i c e with same | turn
  · rw [same]
  · exact absurd turn (stays _)

theorem run_stays {c : Call} (known : s.calls[i]? = some c)
    (stays : ∀ (s : DownloadDesk) (e : Event) (next : Call), ¬Turn s i e c next)
    (events : List Event) : (s.run events).calls[i]? = some c := by
  induction events generalizing s with
  | nil => exact known
  | cons e rest ih => exact ih (step_stays known (stays s e))

/-! ## The store -/

/-- A consumer leaves the store without what it asks for. -/
theorem Call.enter_consume (store : DownloadStore) (token : String) :
    (Call.enter store ⟨.consume token, .called⟩).2 = (store.take token).2 := by
  simp only [Call.enter]
  split <;> rfl

/-- What a call leaves behind that comes to the store. -/
theorem step_enter {c : Call} (known : s.calls[i]? = some c) :
    s.step (.enter i) =
      { s with store := (c.enter s.store).2, calls := s.calls.set i (c.enter s.store).1 } := by
  simp only [step, enter, known]

theorem step_enterPruning {p : Nat} {pruning : Pruning} (known : s.prunings[p]? = some pruning) :
    s.step (.enterPruning p) =
      { s with
        store := (pruning.enter s.store).2
        prunings := s.prunings.set p (pruning.enter s.store).1 } := by
  simp only [step, enterPruning, known]

/-- How the store can change. -/
inductive Restock (s : DownloadDesk) : Event → DownloadStore → Prop
  | insert {k errand d} : s.calls[k]? = some ⟨errand, .prepared d⟩ →
      Restock s (.enter k) (s.store.insert d)
  | take {k token} : s.calls[k]? = some ⟨.consume token, .called⟩ →
      Restock s (.enter k) (s.store.take token).2
  | drop {p now} : s.prunings[p]? = some (.timed now) →
      Restock s (.enterPruning p) (s.store.dropExpired now).2

theorem store_cases (s : DownloadDesk) (e : Event) :
    (s.step e).store = s.store ∨ Restock s e (s.step e).store := by
  cases e with
  | enter k =>
      simp only [step, enter]
      split
      · next call found =>
          obtain ⟨errand, stage⟩ := call
          cases errand with
          | issue token payload mimeType ttl =>
              cases stage with
              | prepared d => exact .inr (.insert found)
              | _ => exact .inl rfl
          | consume token =>
              cases stage with
              | called =>
                  rw [Call.enter_consume]
                  exact .inr (.take found)
              | _ => exact .inl rfl
      · exact .inl rfl
  | enterPruning p =>
      simp only [step, enterPruning]
      split
      · next pruning found =>
          cases pruning with
          | timed now => exact .inr (.drop found)
          | _ => exact .inl rfl
      · exact .inl rfl
  | _ => exact .inl rfl

theorem ttl_step (s : DownloadDesk) (e : Event) : (s.step e).store.ttl = s.store.ttl := by
  rcases store_cases s e with same | restock
  · rw [same]
  · generalize (s.step e).store = store at restock ⊢
    cases restock <;> rfl

theorem ttl_run (s : DownloadDesk) (events : List Event) :
    (s.run events).store.ttl = s.store.ttl := by
  induction events generalizing s with
  | nil => rfl
  | cons e rest ih => exact (ih (s.step e)).trans (ttl_step s e)

theorem distinct_step (distinct : s.store.Distinct) (e : Event) : (s.step e).store.Distinct := by
  rcases store_cases s e with same | restock
  · rwa [same]
  · generalize (s.step e).store = store at restock ⊢
    cases restock with
    | insert _ => exact distinct.insert _
    | take _ => exact distinct.take _
    | drop _ => exact distinct.dropExpired _

theorem distinct_run (distinct : s.store.Distinct) (events : List Event) :
    (s.run events).store.Distinct := by
  induction events generalizing s with
  | nil => exact distinct
  | cons e rest ih => exact ih (distinct_step distinct e)

/-! ## Prunings -/

/-- What becomes of a pruning in a step. -/
def afterPruning (s : DownloadDesk) (p : Nat) (pruning : Pruning) : Event → Pruning
  | .readPruning k now => if k = p then pruning.read now else pruning
  | .enterPruning k => if k = p then (pruning.enter s.store).1 else pruning
  | _ => pruning

/-- How a pruning can go on. -/
inductive PruningTurn (s : DownloadDesk) (p : Nat) : Event → Pruning → Pruning → Prop
  | times {now} : PruningTurn s p (.readPruning p now) .called (.timed now)
  | counts {now} : PruningTurn s p (.enterPruning p) (.timed now)
      (.counted (s.store.dropExpired now).1)

theorem afterPruning_cases (s : DownloadDesk) (p : Nat) (pruning : Pruning) (e : Event) :
    s.afterPruning p pruning e = pruning ∨ PruningTurn s p e pruning (s.afterPruning p pruning e) := by
  cases e with
  | readPruning k now =>
      simp only [afterPruning]
      split
      · next same =>
          subst same
          cases pruning with
          | called => exact .inr .times
          | _ => exact .inl rfl
      · exact .inl rfl
  | enterPruning k =>
      simp only [afterPruning]
      split
      · next same =>
          subst same
          cases pruning with
          | timed now => exact .inr .counts
          | _ => exact .inl rfl
      · exact .inl rfl
  | _ => exact .inl rfl

/-- A pruning after a step is a new one, or what became of one before. -/
theorem pruning_cases {p : Nat} {pruning : Pruning}
    (found : (s.step e).prunings[p]? = some pruning) :
    pruning = .called ∨
      ∃ before, s.prunings[p]? = some before ∧ pruning = s.afterPruning p before e := by
  cases e with
  | call errand => exact .inr ⟨pruning, found, rfl⟩
  | read k now => exact .inr ⟨pruning, found, rfl⟩
  | enter k =>
      simp only [step, enter] at found
      split at found <;> exact .inr ⟨pruning, found, rfl⟩
  | prune =>
      simp only [step, List.getElem?_append] at found
      split at found
      · exact .inr ⟨pruning, found, rfl⟩
      · exact .inl (List.mem_singleton.1 (List.mem_of_getElem? found))
  | readPruning k now =>
      simp only [step, List.getElem?_modify] at found
      obtain ⟨before, known, rfl⟩ := Option.map_eq_some_iff.1 found
      exact .inr ⟨before, known, by split <;> simp_all [afterPruning]⟩
  | enterPruning k =>
      cases known : s.prunings[k]? with
      | none =>
          simp only [step, enterPruning, known] at found
          refine .inr ⟨pruning, found, ?_⟩
          rw [afterPruning, if_neg]
          rintro rfl
          rw [known] at found
          cases found
      | some old =>
          rw [step_enterPruning known, List.getElem?_set] at found
          split at found
          · next same =>
              subst same
              rw [if_pos (List.getElem?_eq_some_iff.1 known).1] at found
              exact .inr ⟨old, known, by simp [afterPruning, ← Option.some.inj found]⟩
          · next other => exact .inr ⟨pruning, found, by rw [afterPruning, if_neg other]⟩

/-! ## Calls that nothing comes between -/

/-- An issue alone puts its download into the store, unless no deadline is that late. -/
theorem run_issue (s : DownloadDesk) (now : DateTime) (token : String) (payload : Octets)
    (mimeType : String) (ttl : Option Duration) :
    (s.run [.call (.issue token payload mimeType ttl), .read s.calls.length now,
        .enter s.calls.length]).store =
      (s.store.issue now token payload mimeType ttl).toOption.getD s.store := by
  have last : (s.calls ++ [⟨.issue token payload mimeType ttl, .called⟩])[s.calls.length]? =
      some ⟨.issue token payload mimeType ttl, .called⟩ := List.getElem?_concat_length
  simp only [run, List.foldl_cons, List.foldl_nil, step, enter, List.getElem?_modify, last]
  cases made : s.store.prepare now token payload mimeType ttl with
  | ok d => simp [Call.read, Call.enter, DownloadStore.issue, made, Except.map, Except.toOption]
  | error f => simp [Call.read, Call.enter, DownloadStore.issue, made, Except.map, Except.toOption]

/-- A consumer alone is told what the store has for it, and leaves the store without that. -/
theorem run_consume (s : DownloadDesk) (now : DateTime) (token : String) :
    let t := s.run [.call (.consume token), .enter s.calls.length, .read s.calls.length now]
    t.calls[s.calls.length]? =
        some ⟨.consume token, .consumed (s.store.consume now token).1⟩ ∧
      t.store = (s.store.consume now token).2 := by
  have last : (s.calls ++ [⟨.consume token, .called⟩])[s.calls.length]? =
      some ⟨.consume token, .called⟩ := List.getElem?_concat_length
  simp only [run, List.foldl_cons, List.foldl_nil, step, enter, List.getElem?_modify, last]
  cases found : s.store.find? token with
  | none => simp [Call.read, Call.enter, DownloadStore.consume, found]
  | some d => simp [Call.read, Call.enter, DownloadStore.consume, found]

/-- A pruning alone removes what is expired. -/
theorem run_prune (s : DownloadDesk) (now : DateTime) :
    (s.run [.prune, .readPruning s.prunings.length now,
        .enterPruning s.prunings.length]).store = (s.store.dropExpired now).2 := by
  simp [run, step, enterPruning, Pruning.read, Pruning.enter]

end DocumentServer.DownloadDesk
