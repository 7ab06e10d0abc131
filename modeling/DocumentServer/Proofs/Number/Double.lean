import DocumentServer.Number.Double
import Mathlib.Tactic.Ring

/-!
Whole numbers in floating point. Below `2 ^ 53` each of them is a number of its own, and a quotient or
a product that is one of them is not rounded.
-/
namespace DocumentServer
open Number

/-- A quotient that is whole is not rounded. -/
theorem Number.roundQuotient_mul (q : Nat) {den : Nat} (positive : 0 < den) :
    roundQuotient (q * den) den = q := by
  simp [roundQuotient, Nat.mul_div_cancel q positive, positive]

namespace Double

/-- A positive whole number with all 53 bits of its mantissa. -/
def whole (negative : Bool) (n : Nat) : Double :=
  .finite negative (n * Nat.pow 2 (52 - n.log2)) (n.log2 - 52)

theorem log2_le {n : Nat} (positive : 0 < n) (small : n < 2 ^ 53) : n.log2 ≤ 52 := by
  have below := (Nat.log2_lt positive.ne').2 small
  omega

/-- The mantissa of a whole number has exactly 53 bits. -/
theorem mantissa_whole {n : Nat} (positive : 0 < n) (small : n < 2 ^ 53) :
    2 ^ 52 ≤ n * 2 ^ (52 - n.log2) ∧ n * 2 ^ (52 - n.log2) < 2 ^ 53 := by
  have bits := log2_le positive small
  have low := Nat.log2_self_le positive.ne'
  have high : n < 2 ^ (n.log2 + 1) := Nat.lt_log2_self
  constructor
  · calc 2 ^ 52 = 2 ^ n.log2 * 2 ^ (52 - n.log2) := by rw [← pow_add]; congr 1; omega
      _ ≤ n * 2 ^ (52 - n.log2) := Nat.mul_le_mul_right _ low
  · calc n * 2 ^ (52 - n.log2) < 2 ^ (n.log2 + 1) * 2 ^ (52 - n.log2) :=
          Nat.mul_lt_mul_of_pos_right high (Nat.two_pow_pos _)
      _ = 2 ^ 53 := by rw [← pow_add]; congr 1; omega

/-- The bits of a product are those of its factors together, or one more. -/
theorem log2_mul_cases {m n : Nat} (hm : 0 < m) (hn : 0 < n) :
    (m * n).log2 = m.log2 + n.log2 ∨ (m * n).log2 = m.log2 + n.log2 + 1 := by
  have product : m * n ≠ 0 := (Nat.mul_pos hm hn).ne'
  have low : m.log2 + n.log2 ≤ (m * n).log2 := by
    rw [Nat.le_log2 product, pow_add]
    exact Nat.mul_le_mul (Nat.log2_self_le hm.ne') (Nat.log2_self_le hn.ne')
  have high : (m * n).log2 < m.log2 + n.log2 + 2 := by
    rw [Nat.log2_lt product]
    calc m * n < 2 ^ (m.log2 + 1) * 2 ^ (n.log2 + 1) :=
          Nat.mul_lt_mul'' Nat.lt_log2_self Nat.lt_log2_self
      _ = 2 ^ (m.log2 + n.log2 + 2) := by ring
  omega

theorem scaled_of_nonpos (base a : Nat) {e : Int} (down : e ≤ 0) :
    scaled base a e = (a, Nat.pow base (-e).toNat) := by
  unfold scaled
  split
  · have zero : e = 0 := by omega
    simp [zero]
  · rfl

theorem unitsOf_of_nonpos (num den : Nat) {e : Int} (down : e ≤ 0) :
    unitsOf num den e = (num * Nat.pow 2 (-e).toNat, den) := by
  unfold unitsOf
  split
  · have zero : e = 0 := by omega
    simp [zero]
  · rfl

variable {n den : Nat}

/-- The guess is the exponent or one less, and the comparison tells which. -/
theorem exponentOf_whole (positive : 0 < n) (small : n < 2 ^ 53) (divides : 0 < den) :
    exponentOf (n * den) den = (n.log2 : Int) - 52 := by
  have bits := log2_le positive small
  obtain ⟨low, high⟩ := mantissa_whole positive small
  have test : ∀ shift : Nat,
      n * den * Nat.pow 2 shift < den * Nat.pow 2 53 ↔ n * 2 ^ shift < 2 ^ 53 := by
    intro shift
    have regroup : n * den * 2 ^ shift = den * (n * 2 ^ shift) := by ring
    simp only [Nat.pow_eq, regroup, Nat.mul_lt_mul_left divides]
  have down : ((n * den).log2 : Int) - (den.log2 : Int) - 53 ≤ 0 := by
    rcases log2_mul_cases positive divides with exact | more <;> omega
  simp only [exponentOf, unitsOf_of_nonpos _ _ down, test, leastExponent]
  rcases log2_mul_cases positive divides with exact | more
  · have shift : (-(((n * den).log2 : Int) - den.log2 - 53)).toNat = 52 - n.log2 + 1 := by omega
    have reached : ¬n * 2 ^ (52 - n.log2 + 1) < 2 ^ 53 := by
      rw [pow_succ, ← mul_assoc]
      omega
    rw [shift, if_neg reached]
    omega
  · have shift : (-(((n * den).log2 : Int) - den.log2 - 53)).toNat = 52 - n.log2 := by omega
    rw [shift, if_pos high]
    omega

/-- A quotient that is a whole number below `2 ^ 53` is that number. -/
theorem ofRatio_whole (negative : Bool) (positive : 0 < n) (small : n < 2 ^ 53)
    (divides : 0 < den) : ofRatio negative (n * den) den = whole negative n := by
  have bits := log2_le positive small
  have nonzero : (n * den == 0) = false := by
    rw [beq_eq_false_iff_ne]
    exact (Nat.mul_pos positive divides).ne'
  have down : (-((n.log2 : Int) - 52)).toNat = 52 - n.log2 := by omega
  have rounded : roundQuotient (n * den * Nat.pow 2 (52 - n.log2)) den =
      n * Nat.pow 2 (52 - n.log2) := by
    rw [Nat.mul_right_comm, roundQuotient_mul _ divides]
  have fits : (n * Nat.pow 2 (52 - n.log2) == Nat.pow 2 53) = false := by
    rw [beq_eq_false_iff_ne]
    simpa only [Nat.pow_eq] using (mantissa_whole positive small).2.ne
  have finite : ¬(n.log2 : Int) - 52 > greatestExponent := by
    unfold greatestExponent
    omega
  have below : (n.log2 : Int) - 52 ≤ 0 := by omega
  simp only [ofRatio, exponentOf_whole positive small divides, unitsOf_of_nonpos _ _ below, down,
    nonzero, rounded, fits, ofMantissa, Bool.false_eq_true, if_false, if_neg finite]
  rfl

/-! ## Operations on whole numbers -/

theorem ofInt_whole (positive : 0 < n) (small : n < 2 ^ 53) : ofInt n = whole false n := by
  have told := ofRatio_whole false positive small Nat.one_pos
  rw [Nat.mul_one] at told
  have sign : decide ((n : Int) < 0) = false := by
    rw [decide_eq_false_iff_not]
    omega
  rw [ofInt, Int.natAbs_natCast, sign, told]

theorem mul_whole (s t : Bool) {m : Nat} (hm : 0 < m) (hn : 0 < n) (small : m * n < 2 ^ 53) :
    (whole s m).mul (whole t n) = whole (s != t) (m * n) := by
  have bitsM := log2_le hm ((Nat.le_mul_of_pos_right m hn).trans_lt small)
  have bitsN := log2_le hn ((Nat.le_mul_of_pos_left n hm).trans_lt small)
  have down : ((m.log2 : Int) - 52) + ((n.log2 : Int) - 52) ≤ 0 := by omega
  have shift : (-(((m.log2 : Int) - 52) + ((n.log2 : Int) - 52))).toNat =
      (52 - m.log2) + (52 - n.log2) := by omega
  have regroup : m * Nat.pow 2 (52 - m.log2) * (n * Nat.pow 2 (52 - n.log2)) =
      m * n * Nat.pow 2 ((52 - m.log2) + (52 - n.log2)) := by
    simp only [Nat.pow_eq]
    ring
  simp only [whole, mul, ratio, scaled_of_nonpos _ _ down, shift, regroup]
  exact ofRatio_whole _ (Nat.mul_pos hm hn) small (Nat.two_pow_pos _)

theorem truncate?_whole (s : Bool) (positive : 0 < n) (small : n < 2 ^ 53) :
    (whole s n).truncate? = some (signed s n) := by
  have bits := log2_le positive small
  have down : (n.log2 : Int) - 52 ≤ 0 := by omega
  have shift : (-((n.log2 : Int) - 52)).toNat = 52 - n.log2 := by omega
  have divides : 0 < Nat.pow 2 (52 - n.log2) := Nat.two_pow_pos _
  simp only [whole, truncate?, ratio, scaled_of_nonpos _ _ down, shift,
    Nat.mul_div_cancel n divides]

end Double
end DocumentServer
