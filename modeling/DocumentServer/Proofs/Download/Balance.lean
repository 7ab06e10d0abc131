import DocumentServer.Proofs.Download.Delivery

/-!
How many downloads are in a store. Each one that was put there is still there, or a consumer has taken it
out, expired or not, or a pruning has dropped and counted it. So the counts balance after every step of
every run, whatever the lifetimes are and whichever way the clock moves.
-/
namespace DocumentServer.DownloadDesk
open Calendar

variable {s : DownloadDesk} {events : List Event} {e : Event} {i k : Nat} {d : Download}
  {token : String} {ttl : Duration}

/-! ## Counts -/

/-- Whether a call has put a download into the store, as a number. -/
def Call.stored (c : Call) : Nat :=
  match c.stage with
  | .issued => 1
  | _ => 0

/-- How many downloads a pruning has told that it dropped. -/
def Pruning.told : Pruning → Nat
  | .counted n => n
  | _ => 0

/-- How many downloads have been issued. -/
def issued (s : DownloadDesk) : Nat := (s.calls.map Call.stored).foldr (· + ·) 0

/-- The sum of what all prunings have told. -/
def dropped (s : DownloadDesk) : Nat := (s.prunings.map Pruning.told).foldr (· + ·) 0

/-- What consumers take out of the store in an event. -/
def takenIn (s : DownloadDesk) : Event → Option Download
  | .enter i => match s.calls[i]? with
    | some ⟨.consume token, .called⟩ => s.store.find? token
    | _ => none
  | _ => none

/-- How many consumers have found something under their token. -/
def taken (s : DownloadDesk) : List Event → Nat
  | [] => 0
  | e :: rest => (s.takenIn e).toList.length + (s.step e).taken rest

theorem taken_concat (s : DownloadDesk) (events : List Event) (e : Event) :
    s.taken (events ++ [e]) = s.taken events + ((s.run events).takenIn e).toList.length := by
  induction events generalizing s with
  | nil => simp [taken, run]
  | cons first rest ih =>
      rw [List.cons_append, taken, ih, taken, Nat.add_assoc]
      rfl

theorem sum_map_set {α : Type u} (f : α → Nat) {all : List α} {old : α} (known : all[i]? = some old)
    (new : α) : ((all.set i new).map f).foldr (· + ·) 0 + f old =
      (all.map f).foldr (· + ·) 0 + f new := by
  induction all generalizing i with
  | nil => cases known
  | cons first rest ih =>
      cases i with
      | zero =>
          cases known
          simp only [List.set_cons_zero, List.map_cons, List.foldr_cons]
          omega
      | succ i =>
          have later := ih known
          simp only [List.set_cons_succ, List.map_cons, List.foldr_cons]
          omega

theorem sum_map_modify {α : Type u} (f : α → Nat) {change : α → α} (same : ∀ a, f (change a) = f a)
    (all : List α) (i : Nat) :
    ((all.modify i change).map f).foldr (· + ·) 0 = (all.map f).foldr (· + ·) 0 := by
  cases known : all[i]? with
  | none => rw [List.modify_eq_self (List.getElem?_eq_none_iff.1 known)]
  | some old =>
      have total := sum_map_set f known (change old)
      rw [same] at total
      rw [List.modify_eq_set_getElem?, known]
      exact Nat.add_right_cancel total

theorem stored_read (store : DownloadStore) (now : DateTime) (c : Call) :
    (c.read store now).stored = c.stored := by
  obtain ⟨errand, stage⟩ := c
  cases errand with
  | issue token payload mimeType ttl =>
      cases stage with
      | called =>
          simp only [Call.read]
          split <;> rfl
      | _ => rfl
  | consume token => cases stage <;> rfl

theorem told_read (now : DateTime) (p : Pruning) : (p.read now).told = p.told := by
  cases p <;> rfl

/-! ## Balance -/

/-- A call at the store changes its size by what it puts there or takes away. -/
theorem size_enter (distinct : s.store.Distinct) {c : Call}
    (absent : ∀ errand d, c = ⟨errand, .prepared d⟩ → s.store.find? d.token = none)
    (known : s.calls[i]? = some c) :
    (c.enter s.store).2.size + (s.takenIn (.enter i)).toList.length + c.stored =
      s.store.size + (c.enter s.store).1.stored := by
  simp only [takenIn, known]
  obtain ⟨errand, stage⟩ := c
  cases errand with
  | issue token payload mimeType ttl =>
      cases stage with
      | prepared d =>
          have size := DownloadStore.size_insert (absent _ d rfl)
          simpa [Call.enter, Call.stored] using size
      | _ => simp [Call.enter, Call.stored]
  | consume token =>
      cases stage with
      | called =>
          have size := DownloadStore.size_take distinct token
          simp only [Call.enter, DownloadStore.take_found]
          cases found : s.store.find? token <;> simpa [found, Call.stored] using size
      | _ => simp [Call.enter, Call.stored]

/-- A pruning at the store changes its size by what it tells. -/
theorem size_enterPruning (store : DownloadStore) (pruning : Pruning) :
    (pruning.enter store).2.size + (pruning.enter store).1.told = store.size + pruning.told := by
  cases pruning with
  | timed now => exact store.size_dropExpired now
  | _ => rfl

/-- No step upsets the balance, if a token that is put into the store is not there yet. -/
theorem balance_step {gone : Nat} (distinct : s.store.Distinct)
    (absent : ∀ (k : Nat) (errand : Errand) (d : Download),
      s.calls[k]? = some ⟨errand, .prepared d⟩ → s.store.find? d.token = none)
    (balanced : s.store.size + gone + s.dropped = s.issued) (e : Event) :
    (s.step e).store.size + (gone + (s.takenIn e).toList.length) + (s.step e).dropped =
      (s.step e).issued := by
  cases e with
  | call errand => simpa [step, issued, dropped, takenIn, Call.stored] using balanced
  | read i now =>
      have calls := sum_map_modify Call.stored (stored_read s.store now) s.calls i
      simpa [step, issued, dropped, takenIn, calls] using balanced
  | prune => simpa [step, issued, dropped, takenIn, Pruning.told] using balanced
  | readPruning p now =>
      have prunings := sum_map_modify Pruning.told (told_read now) s.prunings p
      simpa [step, issued, dropped, takenIn, prunings] using balanced
  | enter i =>
      cases known : s.calls[i]? with
      | none => simpa [step, enter, known, takenIn] using balanced
      | some c =>
          have calls := sum_map_set Call.stored known (c.enter s.store).1
          have size := size_enter distinct (fun errand d same => absent i errand d (same ▸ known)) known
          rw [step_enter known]
          simp only [issued, dropped] at balanced calls ⊢
          omega
  | enterPruning p =>
      cases known : s.prunings[p]? with
      | none => simpa [step, enterPruning, known, takenIn] using balanced
      | some pruning =>
          have prunings := sum_map_set Pruning.told known (pruning.enter s.store).1
          have size := size_enterPruning s.store pruning
          rw [step_enterPruning known]
          simp only [issued, dropped, takenIn, Option.toList_none, List.length_nil] at balanced prunings ⊢
          omega

/-- A download that is going to be stored has a token that is not in the store. -/
theorem absent_of_prepared (fresh : Fresh events) {errand : Errand}
    (known : ((start ttl).run events).calls[k]? = some ⟨errand, .prepared d⟩) :
    ((start ttl).run events).store.find? d.token = none := by
  rw [Option.eq_none_iff_forall_ne_some]
  intro other there
  obtain ⟨same, waits⟩ := (traced_run ttl events).stored there
  obtain ⟨j, life, through⟩ := (waits.found fresh).1
  obtain ⟨⟨_, rfl⟩, _⟩ := (traced_run ttl events).prepared known
  -- Only one call draws the token, and it cannot be through and on its way at once.
  obtain rfl := drawn_once fresh known through
    (show some d.token = some other.token by rw [same]) rfl
  rw [known] at through
  simp at through

theorem balance_run (ttl : Duration) (fresh : Fresh events) :
    ((start ttl).run events).store.size + (start ttl).taken events +
        ((start ttl).run events).dropped =
      ((start ttl).run events).issued := by
  induction events using List.reverseRecOn with
  | nil => rfl
  | append_singleton events e ih =>
      rw [run_concat, taken_concat]
      exact balance_step (traced_run ttl events).distinct
        (fun _ _ _ known => absent_of_prepared fresh.init known) (ih fresh.init) e

/-! ## Calls that are refused -/

/-- An issue whose deadline cannot be told is refused, and never puts anything into the store. -/
theorem refused_run {payload : Octets} {mimeType : String} {life : Option Duration} {now : DateTime}
    (known : s.calls[i]? = some ⟨.issue token payload mimeType life, .called⟩)
    (tooLate : now.add? (life.getD s.store.ttl) = none) (more : List Event) :
    let t := (s.step (.read i now)).run more
    t.calls[i]? =
        some ⟨.issue token payload mimeType life, .refused (.overflow "date value out of range")⟩ ∧
      (t.step (.enter i)).store = t.store := by
  have refused : (s.step (.read i now)).calls[i]? =
      some ⟨.issue token payload mimeType life, .refused (.overflow "date value out of range")⟩ := by
    rw [step_call known]
    simp [after, Call.read, DownloadStore.prepare, tooLate]
  have stays := run_stays refused (by intro _ _ _ turn; cases turn) more
  refine ⟨stays, ?_⟩
  rw [step_enter stays]
  rfl

/-- Downloads of different lifetimes: one of a second, one that was over before it began, one without end
and one that is over at once. Then the clock goes back. -/
def mixedLifetimes : List Event :=
  let earlier : DateTime := ⟨⟨738885, by decide, by decide⟩, .midnight, some .utc⟩
  [.call (.issue "ab" [37] "application/pdf" none), .read 0 openingTime, .enter 0,
    .call (.issue "cd" [] "application/pdf" (some (.ofSeconds (-1)))), .read 1 openingTime, .enter 1,
    .call (.issue "ef" [] "application/pdf" (some (.ofSeconds 400000000000))), .read 2 openingTime,
    .enter 2, .prune, .readPruning 0 openingTime, .enterPruning 0,
    .call (.issue "gh" [] "application/pdf" (some (.ofSeconds 0))), .read 3 openingTime, .enter 3,
    .call (.consume "ab"), .enter 4, .read 4 earlier]

end DocumentServer.DownloadDesk
