import DocumentServer.Proofs.Text.Numeral
import DocumentServer.Proofs.Text.Runs
import DocumentServer.Text.Integer
import DocumentServer.Value.Printer

/-!
Reading back whole numbers: the text that is written for a number of at most 4300 digits is read as that
number.
-/
namespace DocumentServer.Text

variable {ds : List Char}

theorem digitValue?_of_isDigit {c : Char} (digit : c.isDigit = true) : digitValue? c = some (c.toNat - 48) := by
  have least : 48 ≤ c.toNat ∧ c.toNat < 48 + 10 := by
    simp only [Char.isDigit, Bool.and_eq_true, decide_eq_true_eq] at digit
    exact ⟨digit.1, Nat.lt_succ_of_le digit.2⟩
  simp [digitValue?, digitZeros, least]

theorem isBlank_of_isDigit {c : Char} (digit : c.isDigit = true) : isBlank c = false :=
  isBlank_of_isDecimalDigit (by rw [isDecimalDigit, digitValue?_of_isDigit digit]; rfl)

theorem groupedDigits?_of_digits (nonempty : ds ≠ []) (digits : ∀ c ∈ ds, c.isDigit = true) :
    groupedDigits? ds = some (ds.map fun c => c.toNat - 48) := by
  induction ds with
  | nil => exact absurd rfl nonempty
  | cons c rest ih =>
      have value := digitValue?_of_isDigit (digits c List.mem_cons_self)
      cases rest with
      | nil => simp [groupedDigits?, value]
      | cons d rest =>
          have digit := digits d (by simp)
          have plain : d ≠ '_' := by
            rintro rfl
            exact absurd digit (by decide)
          have behind := ih (List.cons_ne_nil _ _) fun e mem => digits e (List.mem_cons_of_mem c mem)
          simp [groupedDigits?, value, plain, behind]

theorem unsigned?_of_digits (nonempty : ds ≠ []) (digits : ∀ c ∈ ds, c.isDigit = true)
    (fits : ds.length ≤ maxDigits) : unsigned? ds = some (Nat.ofDigitChars 10 ds 0) := by
  simp [unsigned?, groupedDigits?_of_digits nonempty digits, fits, ofDigitValues_map]

theorem bare_of_digits (sign : List Char) (plain : ∀ c ∈ sign, isBlank c = false)
    (digits : ∀ c ∈ ds, c.isDigit = true) : Bare (sign ++ ds) := by
  have all : ∀ c ∈ sign ++ ds, isBlank c = false :=
    List.forall_mem_append.2 ⟨plain, fun c mem => isBlank_of_isDigit (digits c mem)⟩
  exact ⟨fun c first => all c (List.mem_of_mem_head? first), fun c last => all c (List.mem_of_getLast? last)⟩

/-- A number is read back from its text. -/
theorem integer?_intText {n : Int} (fits : (Nat.toDigits 10 n.natAbs).length ≤ maxDigits) :
    integer? (Value.intText n) = some n := by
  have digits := all_isDigit_numeral n.natAbs
  have nonempty : Nat.toDigits 10 n.natAbs ≠ [] := Nat.toDigits_ne_nil
  have read := unsigned?_of_digits nonempty digits fits
  rw [Nat.ofDigitChars_ten_toDigits] at read
  have trimmed : ∀ sign, (∀ c ∈ sign, isBlank c = false) →
      trimBlank (sign ++ Nat.toDigits 10 n.natAbs) = sign ++ Nat.toDigits 10 n.natAbs := by
    intro sign plain
    exact Stripped.trimBlank_eq ⟨bare_of_digits sign plain digits, [], [], List.forall_mem_nil _,
      List.forall_mem_nil _, (List.append_nil _).symm⟩
  rw [integer?, Value.intText, String.toList_ofList, Value.intChars]
  by_cases negative : n < 0
  · have minus := trimmed ['-'] (List.forall_mem_cons.2 ⟨by decide, List.forall_mem_nil _⟩)
    rw [List.singleton_append] at minus
    have number : -(n.natAbs : Int) = n := by omega
    rw [if_pos negative, minus]
    simp only [read]
    exact congrArg some number
  · have plain := trimmed [] (List.forall_mem_nil _)
    rw [List.nil_append] at plain
    have number : (n.natAbs : Int) = n := Int.natAbs_of_nonneg (Int.not_lt.1 negative)
    rw [if_neg negative, plain]
    split
    · next rest told =>
        rw [told] at digits
        exact absurd (digits '-' List.mem_cons_self) (by decide)
    · next rest told =>
        rw [told] at digits
        exact absurd (digits '+' List.mem_cons_self) (by decide)
    · simp [read, number]

end DocumentServer.Text
