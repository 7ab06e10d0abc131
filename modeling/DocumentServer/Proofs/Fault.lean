import DocumentServer.Fault

/-!
Chains of steps that may fail: a chain gets to its end exactly if every step of it does.
-/
namespace DocumentServer

variable {ε ε' α β : Type}

@[simp] theorem ok_bind (a : α) (f : α → Except ε β) : (Except.ok a >>= f) = f a := rfl

@[simp] theorem error_bind (e : ε) (f : α → Except ε β) :
    ((Except.error e : Except ε α) >>= f) = .error e := rfl

theorem bind_eq_ok {x : Except ε α} {f : α → Except ε β} {b : β} :
    (x >>= f) = .ok b ↔ ∃ a, x = .ok a ∧ f a = .ok b := by
  cases x with
  | error e => simp
  | ok a => simp

theorem map_eq_ok {x : Except ε α} {f : α → β} {b : β} :
    x.map f = .ok b ↔ ∃ a, x = .ok a ∧ f a = b := by
  cases x with
  | error e => simp [Except.map]
  | ok a => simp [Except.map]

theorem map_eq_error {x : Except ε α} {f : α → β} {e : ε} : x.map f = .error e ↔ x = .error e := by
  cases x with
  | error e' => simp [Except.map]
  | ok a => simp [Except.map]

@[simp] theorem mapError_eq_ok {x : Except ε α} {f : ε → ε'} {a : α} :
    x.mapError f = .ok a ↔ x = .ok a := by
  cases x with
  | error e =>
      change Except.error (f e) = .ok a ↔ _
      simp
  | ok b =>
      change Except.ok b = .ok a ↔ _
      simp

theorem exists_map_eq_ok {x : Except ε α} {f : α → β} : (∃ b, x.map f = .ok b) ↔ ∃ a, x = .ok a := by
  simp only [map_eq_ok]
  constructor
  · rintro ⟨_, a, made, _⟩
    exact ⟨a, made⟩
  · rintro ⟨a, made⟩
    exact ⟨f a, a, made, rfl⟩

theorem exists_mapM_eq_ok {f : α → Except ε β} {all : List α} :
    (∃ results, all.mapM f = .ok results) ↔ ∀ a ∈ all, ∃ b, f a = .ok b := by
  induction all with
  | nil => simp [pure, Except.pure]
  | cons a rest ih =>
      rw [List.forall_mem_cons, ← ih, List.mapM_cons]
      constructor
      · rintro ⟨results, made⟩
        obtain ⟨b, first, made⟩ := bind_eq_ok.1 made
        obtain ⟨others, later, _⟩ := bind_eq_ok.1 made
        exact ⟨⟨b, first⟩, others, later⟩
      · rintro ⟨⟨b, first⟩, others, later⟩
        exact ⟨b :: others, by rw [first, ok_bind, later, ok_bind]; rfl⟩

end DocumentServer
