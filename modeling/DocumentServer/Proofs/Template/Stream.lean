import DocumentServer.Proofs.Fault
import DocumentServer.Proofs.Template.Outline
import DocumentServer.Template.Stream

/-!
Readers do not look at the text outside of tags. Two streams of tokens that are alike apart from
that text are followed side by side: what a reader finds in one of them, it finds in the other.
-/
namespace DocumentServer.Template

variable {α β γ δ : Type}

def Lexeme.Alike (l l' : Lexeme) : Prop := l'.outline = l.outline

def Token.Alike (t t' : Token) : Prop := t'.outline = t.outline

/-- Streams that are alike apart from the text outside of tags. -/
structure Stream.Alike (s s' : Stream) : Prop where
  tokens : s'.tokens.map Token.outline = s.tokens.map Token.outline
  bound : s'.bound = s.bound
  tags : s'.tags = s.tags
  endings : s'.endings = s.endings

theorem Token.alike_iff {t t' : Token} :
    t.Alike t' ↔ t'.line = t.line ∧ t.lexeme.Alike t'.lexeme := by
  simp [Token.Alike, Lexeme.Alike, Token.outline]

/-- Lexemes that are alike are the same, or data, or no tokens at all. -/
theorem Lexeme.Alike.cases {l l' : Lexeme} (alike : l.Alike l') :
    l' = l ∨ (∃ text text', l = .data text ∧ l' = .data text' ∧ outlineText text' = outlineText text)
      ∨ ∃ fault fault', l = .malformed fault ∧ l' = .malformed fault' := by
  cases l <;> cases l' <;> simp_all [Lexeme.Alike, Lexeme.outline]

namespace Parse

/-- Where a reader succeeds, another one does on every stream alike, with a result that is related
and with streams left that are alike again. -/
def Tracks (R : α → β → Prop) (p : Parse α) (q : Parse β) : Prop :=
  ∀ ⦃s s' : Stream⦄, s.Alike s' → ∀ ⦃a t⦄, p s = .ok (a, t) →
    ∃ b t', q s' = .ok (b, t') ∧ R a b ∧ t.Alike t'

/-- A reader whose result does not depend on the text outside of tags. -/
class Blind (p : Parse α) : Prop where
  tracks : Tracks Eq p p

theorem bind_ok {p : Parse α} {f : α → Parse β} {s u : Stream} {b : β} :
    (p >>= f) s = .ok (b, u) ↔ ∃ a t, p s = .ok (a, t) ∧ f a t = .ok (b, u) := by
  change (p s >>= fun found => f found.1 found.2) = .ok (b, u) ↔ _
  rw [bind_eq_ok, Prod.exists]

theorem tracks_pure {R : α → β → Prop} {a : α} {b : β} (related : R a b) :
    Tracks R (pure a) (pure b) := by
  rintro s s' alike _ _ ⟨⟩
  exact ⟨b, s', rfl, related, alike⟩

theorem tracks_throw {R : α → β → Prop} (fault : Fault) (q : Parse β) :
    Tracks R (throw fault) q := by
  rintro s s' alike a t ⟨⟩

theorem Tracks.bind {R : α → β → Prop} {S : γ → δ → Prop} {p : Parse α} {q : Parse β}
    {f : α → Parse γ} {g : β → Parse δ} (first : Tracks R p q)
    (second : ∀ a b, R a b → Tracks S (f a) (g b)) : Tracks S (p >>= f) (q >>= g) := by
  intro s s' alike c u found
  obtain ⟨a, t, front, back⟩ := bind_ok.1 found
  obtain ⟨b, t', front', related, between⟩ := first alike front
  obtain ⟨d, u', back', result, behind⟩ := second a b related between back
  exact ⟨d, u', bind_ok.2 ⟨b, t', front', back'⟩, result, behind⟩

/-- A reader that sees nothing of the difference may come first. -/
theorem Tracks.after {S : γ → δ → Prop} {p : Parse α} [Blind p] {f : α → Parse γ}
    {g : α → Parse δ} (second : ∀ a, Tracks S (f a) (g a)) : Tracks S (p >>= f) (p >>= g) := by
  refine Tracks.bind Blind.tracks ?_
  rintro a _ rfl
  exact second a

theorem Tracks.mono {R S : α → β → Prop} {p : Parse α} {q : Parse β} (tracks : Tracks R p q)
    (weaker : ∀ a b, R a b → S a b) : Tracks S p q := by
  intro s s' alike a t found
  obtain ⟨b, t', found', related, behind⟩ := tracks alike found
  exact ⟨b, t', found', weaker a b related, behind⟩

instance blind_pure (a : α) : Blind (pure a) := ⟨tracks_pure rfl⟩

instance blind_throw (fault : Fault) : Blind (throw fault : Parse α) := ⟨tracks_throw fault _⟩

instance blind_fail (message : String) : Blind (fail message : Parse α) :=
  ⟨tracks_throw (syntaxFault message) _⟩

instance blind_bind {p : Parse α} {f : α → Parse β} [Blind p] [∀ a, Blind (f a)] :
    Blind (p >>= f) := ⟨Tracks.after fun _ => Blind.tracks⟩

/-- What follows may look whether there is a result. -/
instance (priority := low) blind_bindOption {p : Parse (Option α)} {f : Option α → Parse β}
    [Blind p] [∀ a, Blind (f (some a))] [Blind (f none)] : Blind (p >>= f) where
  tracks := by
    refine Tracks.after fun found => ?_
    cases found with
    | none => exact Blind.tracks
    | some a => exact Blind.tracks

instance blind_map {p : Parse α} {f : α → β} [Blind p] : Blind (f <$> p) := by
  rw [map_eq_pure_bind]
  infer_instance

instance blind_ite {c : Prop} [Decidable c] {p q : Parse α} [Blind p] [Blind q] :
    Blind (if c then p else q) where
  tracks := by
    split <;> exact Blind.tracks

/-! ## Tokens -/

/-- What a reader does with a token, as far as it does not look at text outside of tags. -/
structure Unseen (f : Lexeme → Parse α) : Prop where
  data : ∀ text text', f (.data text) = f (.data text')
  malformed : ∀ fault fault', f (.malformed fault) = f (.malformed fault')

/-- Two readers that differ in the text only are compared as functions of both texts. -/
theorem Unseen.of_swap {f : Lexeme → Parse α}
    (data : (fun text (_ : String) => f (.data text)) = fun _ text => f (.data text))
    (malformed : (fun fault (_ : Fault) => f (.malformed fault)) =
      fun _ fault => f (.malformed fault)) : Unseen f where
  data text text' := congrFun (congrFun data text) text'
  malformed fault fault' := congrFun (congrFun malformed fault) fault'

theorem Unseen.eq {f : Lexeme → Parse α} (unseen : Unseen f) {l l' : Lexeme} (alike : l.Alike l') :
    f l' = f l := by
  obtain rfl | ⟨text, text', rfl, rfl, -⟩ | ⟨fault, fault', rfl, rfl⟩ := alike.cases
  · rfl
  · exact unseen.data text' text
  · exact unseen.malformed fault' fault

section

variable {R : α → β → Prop}

theorem Tracks.ofLexeme {p : Parse Lexeme} (sees : Tracks Lexeme.Alike p p) {f : Lexeme → Parse α}
    {g : Lexeme → Parse β} (each : ∀ l, Tracks R (f l) (g l)) (unseen : Unseen g) :
    Tracks R (p >>= f) (p >>= g) := by
  refine sees.bind ?_
  intro l l' alike
  rw [unseen.eq alike]
  exact each l

theorem Tracks.ofToken {p : Parse Token} (sees : Tracks Token.Alike p p) {f : Token → Parse α}
    {g : Token → Parse β} (each : ∀ t, Tracks R (f t) (g t))
    (unseen : ∀ line, Unseen fun l => g ⟨line, l⟩) : Tracks R (p >>= f) (p >>= g) := by
  refine sees.bind ?_
  intro t t' alike
  obtain ⟨line, lexeme⟩ := Token.alike_iff.1 alike
  have same : g ⟨t'.line, t'.lexeme⟩ = g ⟨t.line, t.lexeme⟩ := by
    rw [line]
    exact (unseen t.line).eq lexeme
  rw [same]
  exact each t

end

theorem current_run (s : Stream) :
    current s = .ok (s.tokens.headD { line := 1, lexeme := .finish }, s) := by
  obtain ⟨tokens, _⟩ := s
  cases tokens <;> rfl

theorem headD_alike {ts ts' : List Token} (alike : ts'.map Token.outline = ts.map Token.outline)
    (default : Token) : (ts.headD default).Alike (ts'.headD default) := by
  cases ts <;> cases ts' <;> simp_all [Token.Alike]

theorem tracks_current : Tracks Token.Alike current current := by
  intro s s' alike a t found
  rw [current_run] at found
  cases found
  exact ⟨_, s', current_run s', headD_alike alike.tokens _, alike⟩

theorem tracks_lexeme : Tracks Lexeme.Alike lexeme lexeme :=
  tracks_current.bind fun _ _ alike => tracks_pure (Token.alike_iff.1 alike).2

theorem check_run (t : Token) (rest : List Token) (s : Stream) :
    check (t :: rest) s =
      match t.lexeme with
      | .malformed fault => .error fault
      | _ => .ok ((), s) := by
  unfold check
  cases t with
  | mk line l => cases l <;> rfl

theorem advance_run (s : Stream) :
    advance s =
      match s.tokens with
      | t :: next :: rest =>
        (check (next :: rest) s).map fun _ => (t, { s with tokens := next :: rest })
      | tokens => .ok (tokens.headD { line := 1, lexeme := .finish }, s) := by
  obtain ⟨tokens, bound, tags, endings⟩ := s
  match tokens with
  | [] => rfl
  | [t] => rfl
  | t :: ⟨line, l⟩ :: rest => cases l <;> rfl

theorem look_run (s : Stream) :
    look s =
      match s.tokens with
      | _ :: next :: rest => (check (next :: rest) s).map fun _ => (next.lexeme, s)
      | _ => .ok (.finish, s) := by
  obtain ⟨tokens, bound, tags, endings⟩ := s
  match tokens with
  | [] => rfl
  | [t] => rfl
  | t :: ⟨line, l⟩ :: rest => cases l <;> rfl

theorem check_alike {next next' : Token} (alike : next.Alike next') {rest : List Token} {s : Stream}
    {found : Unit × Stream} (passes : check (next :: rest) s = .ok found) (rest' : List Token)
    (s' : Stream) : check (next' :: rest') s' = .ok ((), s') := by
  obtain ⟨-, lexeme⟩ := Token.alike_iff.1 alike
  rw [check_run] at passes ⊢
  obtain same | ⟨_, _, -, same, -⟩ | ⟨_, _, same, -⟩ := lexeme.cases
  · rw [same]
    split at passes
    · cases passes
    · rfl
  · rw [same]
  · rw [same] at passes
    cases passes

theorem tracks_check {ts ts' : List Token} (alike : ts'.map Token.outline = ts.map Token.outline) :
    Tracks Eq (check ts) (check ts') := by
  intro s s' streams found u passes
  cases ts with
  | nil =>
      obtain rfl := List.map_eq_nil_iff.1 alike
      cases passes
      exact ⟨(), s', rfl, rfl, streams⟩
  | cons t rest =>
      obtain ⟨t', rest', rfl, here, -⟩ := List.map_eq_cons_iff.1 alike
      have left : u = s := by
        rw [check_run] at passes
        split at passes
        · cases passes
        · cases passes
          rfl
      exact ⟨(), s', check_alike here passes rest' s', rfl, left ▸ streams⟩

/-- Alike streams have as many tokens left. -/
theorem shape_alike {ts ts' : List Token} (alike : ts'.map Token.outline = ts.map Token.outline) :
    (∃ t next rest t' next' rest', ts = t :: next :: rest ∧ ts' = t' :: next' :: rest'
        ∧ t.Alike t' ∧ next.Alike next'
        ∧ (next' :: rest').map Token.outline = (next :: rest).map Token.outline)
      ∨ ts.length ≤ 1 ∧ ts'.length ≤ 1 := by
  have count : ts'.length = ts.length := by simpa using congrArg List.length alike
  match ts with
  | t :: next :: rest =>
      match ts' with
      | t' :: next' :: rest' =>
          simp only [List.map_cons, List.cons.injEq] at alike
          refine .inl ⟨t, next, rest, t', next', rest', rfl, rfl, alike.1, alike.2.1, ?_⟩
          rw [List.map_cons, List.map_cons, alike.2.1, alike.2.2]
      | [] => simp at count
      | [_] => simp at count
  | [] => exact .inr ⟨Nat.zero_le 1, Nat.le_trans (Nat.le_of_eq count) (Nat.zero_le 1)⟩
  | [_] => exact .inr ⟨Nat.le_refl 1, Nat.le_of_eq count⟩

theorem advance_last {s : Stream} (short : s.tokens.length ≤ 1) :
    advance s = .ok (s.tokens.headD { line := 1, lexeme := .finish }, s) := by
  rw [advance_run]
  match tokens : s.tokens with
  | [] => rfl
  | [t] => rfl
  | t :: next :: rest => simp [tokens] at short

theorem tracks_advance : Tracks Token.Alike advance advance := by
  intro s s' alike a u found
  obtain ⟨t, next, rest, t', next', rest', ts, ts', here, after, behind⟩ | ⟨short, short'⟩ :=
    shape_alike alike.tokens
  · rw [advance_run, ts] at found
    obtain ⟨passed, passes, same⟩ := map_eq_ok.1 found
    cases same
    refine ⟨t', { s' with tokens := next' :: rest' }, ?_, here,
      ⟨behind, alike.bound, alike.tags, alike.endings⟩⟩
    rw [advance_run, ts']
    exact map_eq_ok.2 ⟨_, check_alike after passes _ _, rfl⟩
  · rw [advance_last short] at found
    cases found
    exact ⟨_, s', advance_last short', headD_alike alike.tokens _, alike⟩

theorem look_last {s : Stream} (short : s.tokens.length ≤ 1) : look s = .ok (.finish, s) := by
  rw [look_run]
  match tokens : s.tokens with
  | [] => rfl
  | [t] => rfl
  | t :: next :: rest => simp [tokens] at short

theorem tracks_look : Tracks Lexeme.Alike look look := by
  intro s s' alike l u found
  obtain ⟨t, next, rest, t', next', rest', ts, ts', -, after, -⟩ | ⟨short, short'⟩ :=
    shape_alike alike.tokens
  · rw [look_run, ts] at found
    obtain ⟨passed, passes, same⟩ := map_eq_ok.1 found
    cases same
    refine ⟨next'.lexeme, s', ?_, (Token.alike_iff.1 after).2, alike⟩
    rw [look_run, ts']
    exact map_eq_ok.2 ⟨_, check_alike after passes _ _, rfl⟩
  · rw [look_last short] at found
    cases found
    exact ⟨_, s', look_last short', rfl, alike⟩

/-- What is done with a token that is passed over may depend on all but the text outside of tags. -/
theorem Tracks.passing {R : α → β → Prop} {f : Token → Parse α} {g : Token → Parse β}
    (unseen : ∀ line, Unseen fun l => g ⟨line, l⟩) (each : ∀ t, Tracks R (f t) (g t)) :
    Tracks R (advance >>= f) (advance >>= g) := tracks_advance.ofToken each unseen

theorem Tracks.seeing {R : α → β → Prop} {f : Lexeme → Parse α} {g : Lexeme → Parse β}
    (unseen : Unseen g) (each : ∀ l, Tracks R (f l) (g l)) :
    Tracks R (lexeme >>= f) (lexeme >>= g) := tracks_lexeme.ofLexeme each unseen

/-! ## Readers of one token -/

section

variable {f : Token → Parse α} {g : Lexeme → Parse α}

theorem blind_current (unseen : ∀ line, Unseen fun l => f ⟨line, l⟩) (blind : ∀ t, Blind (f t)) :
    Blind (current >>= f) := ⟨tracks_current.ofToken (fun t => (blind t).tracks) unseen⟩

theorem blind_advance (unseen : ∀ line, Unseen fun l => f ⟨line, l⟩) (blind : ∀ t, Blind (f t)) :
    Blind (advance >>= f) := ⟨Tracks.passing unseen fun t => (blind t).tracks⟩

theorem blind_lexeme (unseen : Unseen g) (blind : ∀ l, Blind (g l)) :
    Blind (lexeme >>= g) := ⟨Tracks.seeing unseen fun l => (blind l).tracks⟩

theorem blind_look (unseen : Unseen g) (blind : ∀ l, Blind (g l)) :
    Blind (look >>= g) := ⟨tracks_look.ofLexeme (fun l => (blind l).tracks) unseen⟩

end

instance blind_line : Blind line :=
  blind_current (fun _ => .of_swap rfl rfl) fun _ => inferInstance

instance blind_isName (word : String) : Blind (isName word) :=
  blind_lexeme (.of_swap rfl rfl) fun _ => inferInstance

instance blind_isOperator (sign : String) : Blind (isOperator sign) :=
  blind_lexeme (.of_swap rfl rfl) fun _ => inferInstance

/-- A token may be passed over if nothing of it is asked. -/
instance blind_pass {p : Parse α} [Blind p] : Blind (advance >>= fun _ => p) :=
  blind_advance (fun _ => .of_swap rfl rfl) fun _ => inferInstance

instance blind_skipName (word : String) : Blind (skipName word) := by
  unfold skipName
  infer_instance

instance blind_skipOperator (sign : String) : Blind (skipOperator sign) := by
  unfold skipOperator
  infer_instance

instance blind_unexpected (expected : String) : Blind (unexpected expected : Parse α) := by
  unfold unexpected
  refine blind_lexeme (.of_swap rfl rfl) fun found => ?_
  split <;> infer_instance

/-! ## Expected tokens -/

theorem tracks_unexpected (expected : String) :
    Tracks Token.Alike (unexpected expected) (unexpected expected) := by
  refine (blind_unexpected expected).tracks.mono ?_
  rintro t _ rfl
  rfl

theorem tracks_expectName (word : String) :
    Tracks Token.Alike (expectName word) (expectName word) := by
  unfold expectName
  refine Tracks.after fun found => ?_
  split
  · exact tracks_advance
  · exact tracks_unexpected word

theorem tracks_expectOperator (sign : String) :
    Tracks Token.Alike (expectOperator sign) (expectOperator sign) := by
  unfold expectOperator
  refine Tracks.after fun found => ?_
  split
  · exact tracks_advance
  · exact tracks_unexpected sign

instance blind_passName {word : String} {p : Parse α} [Blind p] :
    Blind (expectName word >>= fun _ => p) :=
  ⟨(tracks_expectName word).bind fun _ _ _ => Blind.tracks⟩

instance blind_passOperator {sign : String} {p : Parse α} [Blind p] :
    Blind (expectOperator sign >>= fun _ => p) :=
  ⟨(tracks_expectOperator sign).bind fun _ _ _ => Blind.tracks⟩

instance blind_expectBlockEnd : Blind expectBlockEnd := by
  unfold expectBlockEnd
  exact blind_lexeme (.of_swap rfl rfl) fun _ => inferInstance

instance blind_expectVariableEnd : Blind expectVariableEnd := by
  unfold expectVariableEnd
  refine blind_lexeme (.of_swap rfl rfl) fun found => ?_
  split <;> infer_instance

instance blind_expectAnyName : Blind expectAnyName := by
  unfold expectAnyName
  refine blind_current (fun _ => .of_swap rfl rfl) fun found => ?_
  split <;> infer_instance

theorem blind_modify {f : Stream → Stream} (keeps : ∀ {s s'}, s.Alike s' → (f s).Alike (f s')) :
    Blind (modify f : Parse Unit) where
  tracks := by
    rintro s s' alike _ _ ⟨⟩
    exact ⟨(), f s', rfl, rfl, keeps alike⟩

/-! ## Repeated steps -/

/-- The number of tokens is the same in streams that are alike. -/
theorem Tracks.bound {R : α → β → Prop} {f : Nat → Parse α} {g : Nat → Parse β}
    (each : ∀ n, Tracks R (f n) (g n)) :
    Tracks R (get >>= fun s => f s.bound) (get >>= fun s => g s.bound) := by
  intro s s' alike a t found
  change f s.bound s = _ at found
  obtain ⟨b, t', found', related, behind⟩ := each s.bound alike found
  rw [← alike.bound] at found'
  exact ⟨b, t', found', related, behind⟩

theorem blind_bound (f : Nat → Parse α) [∀ n, Blind (f n)] :
    Blind (get >>= fun s => f s.bound) := ⟨Tracks.bound fun _ => Blind.tracks⟩

theorem Tracks.extendFrom {R : α → β → Prop} {step : α → Parse (Option α)}
    {step' : β → Parse (Option β)}
    (each : ∀ a b, R a b → Tracks (Option.Rel R) (step a) (step' b)) (fuel : Nat) {a : α} {b : β}
    (related : R a b) : Tracks R (extendFrom step fuel a) (extendFrom step' fuel b) := by
  induction fuel generalizing a b with
  | zero => exact tracks_pure related
  | succ fuel ih =>
      refine (each a b related).bind ?_
      rintro _ _ (onward | -)
      · exact ih onward
      · exact tracks_pure related

theorem Tracks.extendAll {R : α → β → Prop} {step : α → Parse (Option α)}
    {step' : β → Parse (Option β)}
    (each : ∀ a b, R a b → Tracks (Option.Rel R) (step a) (step' b)) {a : α} {b : β}
    (related : R a b) : Tracks R (extendAll step a) (extendAll step' b) :=
  Tracks.bound fun n => Tracks.extendFrom each (n + 1) related

instance blind_extendAll {step : α → Parse (Option α)} [∀ a, Blind (step a)] (value : α) :
    Blind (extendAll step value) where
  tracks := by
    refine Tracks.extendAll ?_ rfl
    rintro a _ rfl
    refine (Blind.tracks (p := step a)).mono ?_
    rintro next _ rfl
    cases next with
    | none => exact .none
    | some next => exact .some rfl

end Parse
end DocumentServer.Template
