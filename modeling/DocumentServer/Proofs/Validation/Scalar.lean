import DocumentServer.Proofs.Fault
import DocumentServer.Proofs.Number.WholePart
import DocumentServer.Proofs.Text.Numeral
import DocumentServer.Proofs.Text.Runs
import DocumentServer.Validation.Scalar

/-!
What accepted values mean. A whole number that is accepted is the exact value of what is given, as a
number or as a numeral, and a flag says what is given, as a truth value, as a number or as a word.
-/
namespace DocumentServer.Validation
open Text

/-! ## Numerals -/

/-- Digits with underscores among them, and the number that they are. -/
structure Digits (s : List Char) (n : Nat) : Prop where
  signs : ∀ c ∈ s, c.isDigit = true ∨ c = '_'
  nonempty : s.filter (· != '_') ≠ []
  value : Nat.ofDigitChars 10 (s.filter (· != '_')) 0 = n

/-- Digits behind a sign. -/
inductive Signed (plus : Bool) : List Char → Int → Prop
  | plain {s : List Char} {n : Nat} : Digits s n → Signed plus s n
  | minus {s : List Char} {n : Nat} : Digits s n → Signed plus ('-' :: s) (-n)
  | plus {s : List Char} {n : Nat} : plus = true → Digits s n → Signed plus ('+' :: s) n

/-- A point with zeros behind it, or nothing. -/
def ZeroFraction (s : List Char) : Prop := s = [] ∨ ∃ k, s = '.' :: List.replicate (k + 1) '0'

/-- A text is the numeral of a whole number, with white space around it, a fraction of zeros at most. -/
def IsNumeral (text : String) (n : Int) : Prop :=
  ∃ before number fraction after, text.toList = before ++ (number ++ fraction) ++ after ∧
    (∀ c ∈ before, isSpace c = true) ∧ (∀ c ∈ after, isSpace c = true) ∧
    Signed true number n ∧ ZeroFraction fraction

section Numerals

variable {s t u : List Char} {m : Nat} {n : Int} {plus : Bool}

theorem Digits.of_asciiNumber? (read : asciiNumber? s = some m) : Digits s m := by
  unfold asciiNumber? at read
  split at read
  · cases read
  · next proper =>
      simp only [Bool.or_eq_true, Bool.not_eq_true', not_or, Bool.not_eq_false,
        List.all_eq_true, List.isEmpty_iff] at proper
      have same : s.filter (· != '_') = s := by
        refine List.filter_eq_self.2 fun c member => bne_iff_ne.2 ?_
        rintro rfl
        exact absurd (proper.2 _ member) (by decide)
      refine ⟨fun c member => .inl (proper.2 c member), by rw [same]; exact proper.1, ?_⟩
      rw [same, ← ofDigitValues_map]
      exact Option.some.inj read

/-- What is left of zeros with underscores among them. -/
theorem filter_zeros (zeros : ∀ c ∈ s, c = '0' ∨ c = '_') :
    ∃ k, s.filter (· != '_') = List.replicate k '0' := by
  refine ⟨_, List.eq_replicate_of_mem fun c member => ?_⟩
  obtain ⟨front, other⟩ := List.mem_filter.1 member
  exact (zeros c front).resolve_right (bne_iff_ne.1 other)

theorem sign_of_zero {c : Char} (zero : c = '0' ∨ c = '_') : c.isDigit = true ∨ c = '_' := by
  rcases zero with rfl | rfl
  · exact .inl (by decide)
  · exact .inr rfl

/-- Zeros and underscores in front do not count. -/
theorem Digits.append (zeros : ∀ c ∈ s, c = '0' ∨ c = '_') (digits : Digits t m) :
    Digits (s ++ t) m := by
  obtain ⟨k, same⟩ := filter_zeros zeros
  refine ⟨?_, ?_, ?_⟩
  · exact List.forall_mem_append.2 ⟨fun c front => sign_of_zero (zeros c front), digits.signs⟩
  · rw [List.filter_append]
    exact List.append_ne_nil_of_right_ne_nil _ digits.nonempty
  · rw [List.filter_append, same, Nat.ofDigitChars_append, Nat.ofDigitChars_replicate_zero,
      Nat.mul_zero, digits.value]

theorem digits_zeros (zeros : ∀ c ∈ s, c = '0' ∨ c = '_') : Digits ('0' :: s) 0 := by
  obtain ⟨k, same⟩ := filter_zeros zeros
  have kept : ('0' :: s).filter (· != '_') = List.replicate (k + 1) '0' := by
    rw [List.filter_cons_of_pos (by decide), same, List.replicate_succ]
  refine ⟨?_, by simp [kept], by rw [kept, Nat.ofDigitChars_replicate_zero, Nat.mul_zero]⟩
  exact List.forall_mem_cons.2 ⟨.inl (by decide), fun c member => sign_of_zero (zeros c member)⟩

/-- A numeral of no more than one zero is zero. -/
theorem eq_zero_of_signed {c : Char} (zero : c = '0' ∨ c = '_') (signed : Signed false [c] n) : n = 0 := by
  rcases zero with rfl | rfl
  · cases signed with
    | plain digits => rw [← digits.value]; rfl
  · cases signed with
    | plain digits => exact absurd rfl digits.nonempty

theorem signed_of_plainWhole? (read : plainWhole? s = some n) : Signed false s n := by
  have plain : ∀ (digits : List Char) (k : Int), (if digits.length > 1 && digits.head? == some '0'
      then none else (asciiNumber? digits).map fun n => (n : Int)) = some k →
      ∃ m : Nat, k = m ∧ Digits digits m := by
    intro digits k canonical
    split at canonical
    · cases canonical
    · cases number : asciiNumber? digits with
      | none => simp [number] at canonical
      | some m =>
          simp [number] at canonical
          exact ⟨m, canonical.symm, .of_asciiNumber? number⟩
  unfold plainWhole? at read
  dsimp only at read
  split at read
  · obtain ⟨k, canonical, rfl⟩ := Option.map_eq_some_iff.1 read
    obtain ⟨m, rfl, digits⟩ := plain _ _ canonical
    exact .minus digits
  · obtain ⟨m, rfl, digits⟩ := plain _ _ read
    exact .plain digits

/-- Underscores are only dropped, and none stands in front of a sign. -/
theorem signed_of_dropUnderscores? (dropped : dropUnderscores? s = some t) (signed : Signed false t n) :
    Signed false s n := by
  unfold dropUnderscores? at dropped
  split at dropped
  · cases dropped
  next alone =>
  cases dropped
  simp only [Bool.or_eq_true, beq_iff_eq, not_or] at alone
  have again : ∀ r : List Char, (r.filter (· != '_')).filter (· != '_') = r.filter (· != '_') := by
    intro r
    rw [List.filter_filter]
    simp
  have spread : ∀ {r : List Char} {m : Nat}, Digits (r.filter (· != '_')) m → Digits r m := by
    rintro r m ⟨signs, nonempty, value⟩
    refine ⟨?_, again r ▸ nonempty, again r ▸ value⟩
    intro c member
    by_cases under : c = '_'
    · exact .inr under
    · exact signs c (List.mem_filter.2 ⟨member, bne_iff_ne.2 under⟩)
  generalize kept : s.filter (· != '_') = t at signed
  cases signed with
  | plain digits => exact .plain (spread (kept ▸ digits))
  | minus digits =>
      cases s with
      | nil => cases kept
      | cons c rest =>
          have other : c ≠ '_' := fun same => alone.1.1 (by simp [same])
          rw [List.filter_cons_of_pos (by simpa using other)] at kept
          obtain ⟨rfl, behind⟩ := List.cons.inj kept
          exact .minus (spread (behind ▸ digits))
  | plus allowed => cases allowed

/-- What is left of a numeral without a fraction of zeros. -/
theorem fraction_of_dropZeroFraction? (dropped : dropZeroFraction? s = some t) :
    ∃ fraction, ZeroFraction fraction ∧ s = t ++ fraction := by
  have whole := List.takeWhile_append_dropWhile (p := (· != '.')) (l := s)
  unfold dropZeroFraction? at dropped
  split at dropped
  · cases dropped
    exact ⟨[], .inl rfl, (List.append_nil s).symm⟩
  · next point zeros behind =>
      split at dropped
      · next zero =>
          cases dropped
          have here : point = '.' := by
            have stopped := dropWhile_stops (· != '.') s point (by rw [behind]; rfl)
            simpa using stopped
          simp only [Bool.and_eq_true, Bool.not_eq_true', List.isEmpty_eq_false_iff,
            List.all_eq_true, beq_iff_eq] at zero
          obtain ⟨k, length⟩ : ∃ k, zeros.length = k + 1 :=
            Nat.exists_eq_succ_of_ne_zero fun none => zero.1 (List.length_eq_zero_iff.1 none)
          refine ⟨point :: zeros, .inr ⟨k, ?_⟩, by rw [← behind, whole]⟩
          rw [here, ← length, ← List.eq_replicate_of_mem zero.2]
      · cases dropped

theorem Signed.ne_nil (signed : Signed plus s n) : s ≠ [] := by
  cases signed with
  | plain digits =>
      rintro rfl
      exact digits.nonempty rfl
  | minus => simp
  | plus => simp

theorem Signed.noPoint (signed : Signed plus s n) : '.' ∉ s := by
  have plain : ∀ {digits : List Char} {m : Nat}, Digits digits m → '.' ∉ digits := by
    intro digits m read point
    rcases read.signs _ point with digit | under
    · exact absurd digit (by decide)
    · exact absurd under (by decide)
  cases signed with
  | plain digits => exact plain digits
  | minus digits => simpa using plain digits
  | plus _ digits => simpa using plain digits

/-- A numeral before its fraction is all that stands before the point. -/
theorem Signed.eq_of_append (signed : Signed plus t n) {fraction front back : List Char}
    (zeros : ZeroFraction fraction) (noPoint : '.' ∉ front) (point : back = [] ∨ back.head? = some '.')
    (same : t ++ fraction = front ++ back) : t = front ∧ fraction = back := by
  have run : ∀ {r : List Char}, '.' ∉ r → ∀ c ∈ r, (c != '.') = true := by
    intro r none c member
    exact bne_iff_ne.2 fun here => none (here ▸ member)
  have stops : ∀ {r : List Char}, r = [] ∨ r.head? = some '.' →
      ∀ c, r.head? = some c → (c != '.') = false := by
    rintro r (rfl | first) c here
    · cases here
    · rw [first] at here
      cases here
      rfl
  have begins : fraction = [] ∨ fraction.head? = some '.' := by
    rcases zeros with rfl | ⟨k, rfl⟩
    · exact .inl rfl
    · exact .inr rfl
  have first := takeWhile_run (run signed.noPoint) (stops begins)
  have second := takeWhile_run (run noPoint) (stops point)
  rw [same, second] at first
  obtain rfl := first
  exact ⟨rfl, List.append_cancel_left same⟩

/-- One zero and a fraction of zeros are the number zero. -/
theorem Signed.eq_zero (signed : Signed false t n) {c : Char} {fraction back : List Char}
    (zeros : ZeroFraction fraction) (zero : c = '0' ∨ c = '_') (point : back = [] ∨ back.head? = some '.')
    (same : t ++ fraction = c :: back) : n = 0 ∧ fraction = back := by
  have noPoint : '.' ∉ [c] := by
    rcases zero with rfl | rfl
    · decide
    · decide
  obtain ⟨rfl, rfl⟩ := signed.eq_of_append zeros noPoint point same
  exact ⟨eq_zero_of_signed zero signed, rfl⟩

/-- The last one of zeros and underscores. -/
theorem last_of_zeros (zeros : ∀ c ∈ s, c = '0' ∨ c = '_') :
    s.getLast?.getD '0' = '0' ∨ s.getLast?.getD '0' = '_' := by
  cases last : s.getLast? with
  | none => exact .inl rfl
  | some c => exact zeros c (List.mem_of_getLast? last)

/-- Zeros may stand in front of a numeral that begins with a digit. -/
theorem Signed.zeros_append (signed : Signed false t n) (zeros : ∀ c ∈ s, c = '0' ∨ c = '_') {c : Char}
    {fraction back : List Char} (digit : c.isDigit = true) (begins : c :: back = t ++ fraction) :
    Signed false ('0' :: s ++ t) n := by
  cases signed with
  | plain digits => exact .plain (digits.append (List.forall_mem_cons.2 ⟨.inl rfl, zeros⟩))
  | minus =>
      obtain ⟨rfl, _⟩ := List.cons.inj begins
      exact absurd digit (by decide)
  | plus allowed => cases allowed

/-- Only zeros and underscores in front of a number are dropped. -/
theorem signed_of_dropLeadingZeros? {fraction : List Char} (dropped : dropLeadingZeros? s = some u)
    (same : u = t ++ fraction) (zeros : ZeroFraction fraction) (signed : Signed false t n) :
    ∃ number, s = number ++ fraction ∧ Signed false number n := by
  unfold dropLeadingZeros? at dropped
  split at dropped
  · next rest =>
      have whole := List.takeWhile_append_dropWhile (p := fun c => c == '0' || c == '_') (l := rest)
      have run : ∀ c ∈ rest.takeWhile fun c => c == '0' || c == '_', c = '0' ∨ c = '_' :=
        fun c member => by simpa using List.mem_takeWhile_imp member
      generalize rest.takeWhile (fun c => c == '0' || c == '_') = front at *
      split at dropped
      · -- nothing but zeros
        next behind =>
          rw [behind, List.append_nil] at whole
          subst whole
          cases dropped
          have last := last_of_zeros (List.forall_mem_cons.2 ⟨.inl rfl, run⟩)
          obtain ⟨rfl, rfl⟩ := signed.eq_zero zeros last (.inl rfl) same.symm
          exact ⟨_, (List.append_nil _).symm, .plain (digits_zeros run)⟩
      · -- zeros before the point
        next behind =>
          rw [behind] at whole
          subst whole
          cases dropped
          obtain ⟨rfl, rfl⟩ := signed.eq_zero zeros (last_of_zeros run) (.inr rfl) same.symm
          exact ⟨'0' :: front, rfl, .plain (digits_zeros run)⟩
      · -- zeros before another digit
        next c digits _ behind =>
          rw [behind] at whole
          subst whole
          split at dropped
          · next digit =>
              cases dropped
              refine ⟨'0' :: front ++ t, ?_, signed.zeros_append run digit same⟩
              rw [List.append_assoc, ← same]
              rfl
          · cases dropped
  · cases dropped
    exact ⟨t, same, signed⟩
  · split at dropped
    · cases dropped
      exact ⟨t, same, signed⟩
    · cases dropped
  · cases dropped

theorem Signed.allow (signed : Signed false s n) : Signed true s n := by
  cases signed with
  | plain digits => exact .plain digits
  | minus digits => exact .minus digits
  | plus allowed => cases allowed

/-- A number whose superfluous signs are dropped has been written with them. -/
theorem signed_of_loosened? (loose : loosened? s = some u) (read : plainWhole? u = some n) :
    ∃ number fraction, s = number ++ fraction ∧ ZeroFraction fraction ∧ Signed true number n := by
  obtain ⟨whole, noZeros, loose⟩ := Option.bind_eq_some_iff.1 loose
  obtain ⟨noFraction, front, loose⟩ := Option.bind_eq_some_iff.1 loose
  have signed := signed_of_dropUnderscores? loose (signed_of_plainWhole? read)
  obtain ⟨fraction, zeros, rfl⟩ := fraction_of_dropZeroFraction? front
  obtain ⟨number, same, written⟩ := signed_of_dropLeadingZeros? noZeros rfl zeros signed
  unfold dropPlus at same
  split at same
  · next rest =>
      split at same
      · cases number with
        | nil => exact absurd rfl written.ne_nil
        | cons c tail =>
            obtain ⟨rfl, _⟩ := List.cons.inj same
            cases written with
            | plain digits => exact absurd (digits.signs _ (List.mem_cons_self ..)) (by decide)
            | plus allowed => cases allowed
      · next noSign =>
          subst same
          cases written with
          | plain digits => exact ⟨'+' :: number, fraction, rfl, zeros, .plus rfl digits⟩
          | minus => exact absurd rfl noSign
          | plus allowed => cases allowed
  · exact ⟨number, fraction, same, zeros, written.allow⟩

theorem trimSpace_around (s : List Char) : ∃ before after, s = before ++ trimSpace s ++ after ∧
    (∀ c ∈ before, isSpace c = true) ∧ ∀ c ∈ after, isSpace c = true := by
  have front := List.takeWhile_append_dropWhile (p := isSpace) (l := s)
  have back := List.takeWhile_append_dropWhile (p := isSpace) (l := (s.dropWhile isSpace).reverse)
  refine ⟨s.takeWhile isSpace, ((s.dropWhile isSpace).reverse.takeWhile isSpace).reverse, ?_,
    fun c => List.mem_takeWhile_imp, fun c member => List.mem_takeWhile_imp (List.mem_reverse.1 member)⟩
  rw [trimSpace, List.append_assoc, ← List.reverse_append, back, List.reverse_reverse, front]

/-- A whole number that is read from a text is the number of its numeral. -/
theorem isNumeral_of_wholeOfText {text : String} (accepted : wholeOfText text = .ok n) :
    IsNumeral text n := by
  obtain ⟨before, after, same, front, back⟩ := trimSpace_around text.toList
  suffices ∃ number fraction, trimSpace text.toList = number ++ fraction ∧ ZeroFraction fraction ∧
      Signed true number n by
    obtain ⟨number, fraction, core, zeros, signed⟩ := this
    exact ⟨before, number, fraction, after, core ▸ same, front, back, signed, zeros⟩
  unfold wholeOfText at accepted
  dsimp only at accepted
  split at accepted
  · cases accepted
  · split at accepted
    · next read =>
        cases accepted
        cases plain : plainWhole? (trimSpace text.toList) with
        | some k =>
            rw [plain] at read
            cases read
            exact ⟨_, [], (List.append_nil _).symm, .inl rfl, (signed_of_plainWhole? plain).allow⟩
        | none =>
            rw [plain] at read
            obtain ⟨u, loose, plainer⟩ := Option.bind_eq_some_iff.1 read
            exact signed_of_loosened? loose plainer
    · cases accepted

end Numerals

/-! ## Numbers -/

/-- A floating point number that is accepted as a whole number has that value: the whole number is
rounded for the comparison, but what it is rounded to is whole, and equal to its own whole part. -/
theorem value?_of_wholeOfDouble {x : Double} {n : Int} (accepted : wholeOfDouble x = .ok n) :
    x.value? = some (n : ℚ) := by
  unfold wholeOfDouble at accepted
  split at accepted
  · cases accepted
  · next k whole =>
      split at accepted
      · next same =>
          cases accepted
          obtain ⟨q, value, part⟩ := Double.exists_value?_of_truncate? whole
          have rounded := Double.value?_of_ordering? (beq_iff_eq.1 same) value
          rw [Double.value?_ofInt] at rounded
          split at rounded
          · cases rounded
            rw [towardZero_int] at part
            rw [value, part]
          · cases rounded
      · cases accepted

theorem value?_of_wholeOfDecimal {x : Decimal} {n : Int} (accepted : wholeOfDecimal x = .ok n) :
    x.value? = some (n : ℚ) := by
  unfold wholeOfDecimal at accepted
  split at accepted
  · cases accepted
  · next k whole =>
      split at accepted
      · next same =>
          cases accepted
          exact Decimal.value?_of_ordering? (beq_iff_eq.1 same)
      · cases accepted

/-- A value stands for a whole number, exactly. -/
inductive IsWhole : Value → Int → Prop
  | int (n : Int) : IsWhole (.int n) n
  | bool (b : Bool) : IsWhole (.bool b) (if b then 1 else 0)
  | double {x : Double} {n : Int} : x.value? = some (n : ℚ) → IsWhole (.double x) n
  | decimal {x : Decimal} {n : Int} : x.value? = some (n : ℚ) → IsWhole (.decimal x) n
  | text {v : Value} {text : String} {n : Int} : v.text? = some text → IsNumeral text n → IsWhole v n

variable {v : Value} {n : Int}

theorem isWhole_of_readWhole (accepted : readWhole v = .ok n) : IsWhole v n := by
  unfold readWhole at accepted
  split at accepted
  · cases accepted
    exact .int _
  · cases accepted
    exact .bool _
  · exact .double (value?_of_wholeOfDouble accepted)
  · exact .decimal (value?_of_wholeOfDecimal accepted)
  · split at accepted
    · next given => exact .text given (isNumeral_of_wholeOfText accepted)
    · cases accepted

theorem isWhole_of_readPositive {m : { n : Int // 0 < n }} (accepted : readPositive v = .ok m) :
    IsWhole v m := by
  obtain ⟨n, whole, accepted⟩ := bind_eq_ok.1 accepted
  split at accepted
  · cases accepted
    exact isWhole_of_readWhole whole
  · cases accepted

/-! ## Flags -/

/-- A value says yes or no: as such, as one or zero, or as a word in either case. -/
inductive SaysFlag : Value → Bool → Prop
  | bool (b : Bool) : SaysFlag (.bool b) b
  | number {v : Value} {b : Bool} : v.text? = none → IsWhole v (if b then 1 else 0) → SaysFlag v b
  | word {v : Value} {text : String} {b : Bool} : v.text? = some text →
      String.ofList (text.toList.map Char.toLower) ∈ (if b then yesWords else noWords) → SaysFlag v b

theorem eq_of_flagOfWhole {b : Bool} (accepted : flagOfWhole n = .ok b) : n = if b then 1 else 0 := by
  unfold flagOfWhole at accepted
  split at accepted
  · next one =>
      cases accepted
      exact beq_iff_eq.1 one
  · split at accepted
    · next zero =>
        cases accepted
        exact beq_iff_eq.1 zero
    · cases accepted

theorem eq_of_flagOfNumber {b : Bool} {whole : Except Problem Int} (accepted : flagOfNumber whole = .ok b) :
    whole = .ok (if b then 1 else 0) := by
  cases whole with
  | error problem => cases accepted
  | ok n => rw [eq_of_flagOfWhole accepted]

theorem saysFlag_of_readFlag {b : Bool} (accepted : readFlag v = .ok b) : SaysFlag v b := by
  unfold readFlag at accepted
  split at accepted
  · cases accepted
    exact .bool b
  · obtain rfl := eq_of_flagOfWhole accepted
    exact .number rfl (.int _)
  · exact .number rfl (.double (value?_of_wholeOfDouble (eq_of_flagOfNumber accepted)))
  · exact .number rfl (.decimal (value?_of_wholeOfDecimal (eq_of_flagOfNumber accepted)))
  · split at accepted
    · next text given =>
        unfold flagOfText at accepted
        dsimp only at accepted
        split at accepted
        · next yes =>
            cases accepted
            exact .word given (by simpa using yes)
        · split at accepted
          · next no =>
              cases accepted
              exact .word given (by simpa using no)
          · cases accepted
    · cases accepted

end DocumentServer.Validation
