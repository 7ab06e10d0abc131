import DocumentServer.Text.Digit
import Mathlib.Data.List.Basic
import Mathlib.Data.List.Induction
import Mathlib.Tactic.ByContra
import Mathlib.Tactic.Ring

/-!
Numerals in base ten: what is written for a number denotes that number, also with zeros in front.
-/
namespace DocumentServer.Text

variable {n width : Nat}

/-- The number that digits denote, in the words of the library. -/
theorem ofDigitValues_map (ds : List Char) :
    ofDigitValues (ds.map fun c => c.toNat - 48) = Nat.ofDigitChars 10 ds 0 := by
  rw [Nat.ofDigitChars_eq_foldl, ofDigitValues, List.foldl_map]
  rfl

theorem ofDigitChars_leftpad (width : Nat) (ds : List Char) :
    Nat.ofDigitChars 10 (ds.leftpad width '0') 0 = Nat.ofDigitChars 10 ds 0 := by
  rw [List.leftpad, Nat.ofDigitChars_append, Nat.ofDigitChars_replicate_zero, Nat.mul_zero]

theorem all_isDigit_leftpad {ds : List Char} (digits : ∀ c ∈ ds, c.isDigit = true) (width : Nat) :
    ∀ c ∈ ds.leftpad width '0', c.isDigit = true := by
  intro c mem
  rcases List.mem_append.1 mem with zero | digit
  · rw [List.eq_of_mem_replicate zero]
    rfl
  · exact digits c digit

theorem all_isDigit_numeral (n : Nat) : ∀ c ∈ Nat.toDigits 10 n, c.isDigit = true :=
  fun _ => Nat.isDigit_of_mem_toDigits (by decide) (by decide)

/-- A number with no more digits than the width fills the width. -/
theorem length_leftpad_numeral (least : 0 < width) (fits : n < 10 ^ width) :
    ((Nat.toDigits 10 n).leftpad width '0').length = width := by
  rw [List.length_leftpad]
  exact Nat.max_eq_left ((Nat.length_toDigits_le_iff (by decide) least).2 fits)

/-- Two digits that stand for the same number are the same. -/
theorem digit_injective {c d : Char} (hc : c.isDigit = true) (hd : d.isDigit = true)
    (same : c.toNat - 48 = d.toNat - 48) : c = d := by
  have codes : 48 ≤ c.toNat ∧ 48 ≤ d.toNat := by
    simp only [Char.isDigit, Bool.and_eq_true, decide_eq_true_eq] at hc hd
    exact ⟨hc.1, hd.1⟩
  exact Char.toNat_inj.1 (by omega)

theorem digit_lt_ten {c : Char} (digit : c.isDigit = true) : c.toNat - 48 < 10 := by
  have code : c.toNat ≤ 57 := by
    simp only [Char.isDigit, Bool.and_eq_true, decide_eq_true_eq] at digit
    exact digit.2
  omega

/-- Numerals of one length that denote the same number behind other digits have the same digits, and
the same number in front of them. -/
theorem digits_injective {s t : List Char} {m n : Nat}
    (same : Nat.ofDigitChars 10 s m = Nat.ofDigitChars 10 t n) (hs : s.all Char.isDigit = true)
    (ht : t.all Char.isDigit = true) (length : s.length = t.length) : m = n ∧ s = t := by
  induction s generalizing t m n with
  | nil =>
      cases List.length_eq_zero_iff.1 length.symm
      exact ⟨same, rfl⟩
  | cons c s ih =>
      cases t with
      | nil => cases length
      | cons d t =>
          rw [List.all_cons, Bool.and_eq_true] at hs ht
          rw [Nat.ofDigitChars_cons, Nat.ofDigitChars_cons] at same
          obtain ⟨front, behind⟩ := ih same hs.2 ht.2 (Nat.succ.inj length)
          have zero : '0'.toNat = 48 := rfl
          have := digit_lt_ten hs.1
          have := digit_lt_ten ht.1
          rw [zero] at front
          have last := digit_injective hs.1 ht.1 (by omega)
          exact ⟨by omega, by rw [last, behind]⟩

theorem toDigits_digit {c : Char} (digit : c.isDigit = true) : Nat.toDigits 10 (c.toNat - 48) = [c] := by
  have few : (Nat.toDigits 10 (c.toNat - 48)).length ≤ 1 :=
    (Nat.length_toDigits_le_iff (by decide) (by decide)).2 (digit_lt_ten digit)
  have one : (Nat.toDigits 10 (c.toNat - 48)).length = [c].length :=
    Nat.le_antisymm few Nat.length_toDigits_pos
  have digits := List.all_eq_true.2 (all_isDigit_numeral (c.toNat - 48))
  refine (digits_injective (m := 0) (n := 0) ?_ digits (by simp [digit]) one).2
  rw [Nat.ofDigitChars_ten_toDigits, Nat.ofDigitChars_cons, Nat.ofDigitChars_nil]
  exact (Nat.zero_add _).symm

/-- The numeral of zero alone begins with a zero. -/
theorem eq_zero_of_head?_toDigits (zero : (Nat.toDigits 10 n).head? = some '0') : n = 0 := by
  induction n using Nat.strongRecOn with
  | _ n ih =>
      by_cases small : n < 10
      · have none : ∀ k < 10, k ≠ 0 → Nat.digitChar k ≠ '0' := by decide
        rw [Nat.toDigits_of_lt_base small, List.head?_cons, Option.some.injEq] at zero
        by_contra some
        exact none n small some zero
      · rw [Nat.toDigits_of_base_le (by decide) (Nat.not_lt.1 small),
          List.head?_append_of_ne_nil _ Nat.toDigits_ne_nil] at zero
        have := ih (n / 10) (by omega) zero
        omega

/-- Digits are the numeral of their number if no zero stands in front of others. -/
theorem eq_toDigits {ds : List Char} (nonempty : ds ≠ []) (digits : ∀ c ∈ ds, c.isDigit = true)
    (front : ds.head? = some '0' → ds = ['0']) : ds = Nat.toDigits 10 (Nat.ofDigitChars 10 ds 0) := by
  induction ds using List.reverseRecOn with
  | nil => exact absurd rfl nonempty
  | append_singleton ds c ih =>
      have last := toDigits_digit (digits c (by simp))
      have number : Nat.ofDigitChars 10 (ds ++ [c]) 0 = 10 * Nat.ofDigitChars 10 ds 0 + (c.toNat - 48) := by
        rw [Nat.ofDigitChars_append, Nat.ofDigitChars_cons, Nat.ofDigitChars_nil]
        rfl
      by_cases alone : ds = []
      · rw [number, alone, List.nil_append, Nat.ofDigitChars_nil, Nat.mul_zero, Nat.zero_add, last]
      · -- with a digit behind it a zero in front would not be alone, so what is before is a numeral again
        have notZero : ds.head? ≠ some '0' := by
          intro zero
          have length := congrArg List.length (front (by rw [List.head?_append, zero, Option.some_or]))
          rw [List.length_append] at length
          exact alone (List.length_eq_zero_iff.1 (Nat.succ.inj length))
        have before := ih alone (fun c mem => digits c (List.mem_append_left _ mem))
          fun zero => absurd zero notZero
        have positive : 0 < Nat.ofDigitChars 10 ds 0 := by
          refine Nat.pos_of_ne_zero fun zero => notZero ?_
          rw [before, zero]
          rfl
        rw [number, ← Nat.toDigits_append_toDigits (by decide) positive (digit_lt_ten (digits c (by simp))),
          ← before, last]

end DocumentServer.Text
