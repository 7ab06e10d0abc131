import DocumentServer.Proofs.Number.Double
import DocumentServer.Value.Equality
import Mathlib.Algebra.Order.Field.Rat
import Mathlib.Tactic.FieldSimp
import Mathlib.Tactic.Linarith
import Mathlib.Tactic.NormNum
import Mathlib.Tactic.Positivity

/-!
Exact values of numbers, and how far rounding goes from them. A whole number becomes the nearest
multiple of the last of its 53 leading bits.
-/
namespace DocumentServer
open Number

namespace Number

variable {den : Nat}

/-- Rounding a quotient goes half a unit away at most. -/
theorem roundQuotient_half (num : Nat) (positive : 0 < den) :
    2 * num ≤ 2 * (roundQuotient num den * den) + den ∧
      2 * (roundQuotient num den * den) ≤ 2 * num + den := by
  have parts := Nat.div_add_mod' num den
  have less := Nat.mod_lt num positive
  have next : (num / den + 1) * den = num / den * den + den := Nat.succ_mul _ _
  unfold roundQuotient
  dsimp only
  split
  · omega
  · split
    · omega
    · split <;> omega

theorem roundQuotient_error (num : Nat) (positive : 0 < den) :
    |(roundQuotient num den : ℚ) - num / den| ≤ 1 / 2 := by
  obtain ⟨low, high⟩ := roundQuotient_half num positive
  have divides : (0 : ℚ) < den := Nat.cast_pos.2 positive
  have low : (2 : ℚ) * num ≤ 2 * (roundQuotient num den * den) + den := by exact_mod_cast low
  have high : (2 : ℚ) * (roundQuotient num den * den) ≤ 2 * num + den := by exact_mod_cast high
  rw [abs_le]
  constructor
  · rw [neg_le_sub_iff_le_add, div_le_iff₀ divides]
    linarith
  · rw [sub_le_iff_le_add, ← sub_le_iff_le_add', le_div_iff₀ divides]
    linarith

/-- A power of the base as a quotient. -/
theorem scaled_value {base : Nat} (nonzero : 0 < base) (a : Nat) (e : Int) :
    0 < (scaled base a e).2 ∧ ((scaled base a e).1 : ℚ) / (scaled base a e).2 = a * (base : ℚ) ^ e := by
  unfold scaled
  split
  · next up =>
      obtain ⟨k, rfl⟩ := Int.eq_ofNat_of_zero_le up
      refine ⟨Nat.one_pos, ?_⟩
      simp
  · next down =>
      obtain ⟨k, rfl⟩ := Int.eq_negSucc_of_lt_zero (Int.not_le.1 down)
      refine ⟨Nat.pow_pos nonzero, ?_⟩
      rw [Int.neg_negSucc, zpow_negSucc, div_eq_mul_inv]
      simp

end Number

/-! ## Exact values -/

def Double.value? : Double → Option ℚ
  | .finite s m e => some (signed s m * 2 ^ e)
  | _ => none

def Decimal.value? : Decimal → Option ℚ
  | .finite s c e => some (Double.signed s c * 10 ^ e)
  | _ => none

/-- The value of a finite number, without rounding. -/
def Numeric.value? : Numeric → Option ℚ
  | .int n => some n
  | .double x => x.value?
  | .decimal d => d.value?

namespace Double

theorem isFinite_of_value? {x : Double} {q : ℚ} (value : x.value? = some q) : x.isFinite = true := by
  cases x with
  | finite s m e => rfl
  | infinite s => cases value
  | nan => cases value

theorem signed_natAbs (n : Int) : signed (n < 0) n.natAbs = n := by
  unfold signed
  split
  · next negative =>
      rw [decide_eq_true_eq] at negative
      omega
  · next negative =>
      rw [decide_eq_true_eq] at negative
      omega

theorem signed_mul (s : Bool) (m k : Nat) : signed s (m * k) = signed s m * k := by
  cases s <;> simp [signed]

theorem signed_injective {s : Bool} {m k : Nat} (same : signed s m = signed s k) : m = k := by
  cases s <;> simpa [signed] using same

theorem isNegative_ofRatio (s : Bool) (num den : Nat) : (ofRatio s num den).isNegative = s := by
  have made : ∀ m e, (ofMantissa s m e).isNegative = s := by
    intro m e
    rw [ofMantissa]
    split <;> rfl
  rw [ofRatio]
  dsimp only
  split
  · rfl
  · split <;> exact made _ _

/-! ## Whole numbers -/

/-- A whole number whose bits behind the first 53 are zeros, and which is not too large. -/
def Holds (n : Int) : Prop := 2 ^ (n.natAbs.log2 - 52) ∣ n.natAbs ∧ n.natAbs < 2 ^ 1024

/-- The multiple of the last leading bit that is nearest to a whole number. -/
def nearestWhole (n : Nat) : Nat := roundQuotient n (2 ^ (n.log2 - 52)) * 2 ^ (n.log2 - 52)

variable {n : Nat}

theorem nearestWhole_eq_iff (n : Nat) : nearestWhole n = n ↔ 2 ^ (n.log2 - 52) ∣ n := by
  constructor
  · intro same
    exact Dvd.intro_left _ same
  · intro divides
    have exact := roundQuotient_mul (n / 2 ^ (n.log2 - 52)) (Nat.two_pow_pos (n.log2 - 52))
    rw [Nat.div_mul_cancel divides] at exact
    rw [nearestWhole, exact, Nat.div_mul_cancel divides]

theorem nearestWhole_of_small (small : n < 2 ^ 53) : nearestWhole n = n := by
  have bits : n.log2 - 52 = 0 := by
    rcases Nat.eq_zero_or_pos n with rfl | positive
    · rfl
    · exact Nat.sub_eq_zero_of_le (log2_le positive small)
  rw [nearestWhole_eq_iff, bits]
  exact Nat.one_dvd n

/-- A mantissa with all 53 bits stands for a finite number up to the greatest exponent. -/
theorem value?_ofMantissa (s : Bool) {m : Nat} (least : 2 ^ 52 ≤ m) (most : m < 2 ^ 53) (k : Nat) :
    (ofMantissa s m k).value? =
      if m * 2 ^ k < 2 ^ 1024 then some (signed s (m * 2 ^ k) : ℚ) else none := by
  have range : (k : Int) > greatestExponent ↔ ¬m * 2 ^ k < 2 ^ 1024 := by
    have low : 2 ^ (52 + k) ≤ m * 2 ^ k := by
      rw [pow_add]
      exact Nat.mul_le_mul_right _ least
    have high : m * 2 ^ k < 2 ^ (53 + k) := by
      rw [pow_add]
      exact Nat.mul_lt_mul_of_pos_right most (Nat.two_pow_pos k)
    unfold greatestExponent
    constructor
    · intro above
      have power : 2 ^ 1024 ≤ 2 ^ (52 + k) := by
        rw [Nat.pow_le_pow_iff_right (by decide)]
        omega
      exact Nat.not_lt.2 (power.trans low)
    · intro above
      by_contra within
      have power : 2 ^ (53 + k) ≤ 2 ^ 1024 := by
        rw [Nat.pow_le_pow_iff_right (by decide)]
        omega
      exact above (high.trans_le power)
  rw [ofMantissa]
  by_cases fits : m * 2 ^ k < 2 ^ 1024
  · rw [if_neg (by rw [range]; exact not_not.2 fits), if_pos fits, value?, signed_mul]
    simp
  · rw [if_pos (range.2 fits), if_neg fits]
    rfl

theorem exponentOf_large (large : 2 ^ 53 ≤ n) : exponentOf n 1 = (n.log2 - 52 : Nat) := by
  have bits : 53 ≤ n.log2 := (Nat.le_log2 (by omega)).2 large
  have guess : (n.log2 : Int) - (Nat.log2 1 : Nat) - 53 = (n.log2 - 53 : Nat) := by
    have one : Nat.log2 1 = 0 := by decide
    omega
  have reached : ¬n < 1 * Nat.pow 2 (n.log2 - 53) * Nat.pow 2 53 := by
    have low := Nat.log2_self_le (show n ≠ 0 by omega)
    rw [Nat.one_mul, Nat.pow_eq, Nat.pow_eq, ← pow_add, Nat.sub_add_cancel bits]
    exact Nat.not_lt.2 low
  have units : unitsOf n 1 (n.log2 - 53 : Nat) = (n, 1 * Nat.pow 2 (n.log2 - 53)) :=
    if_pos (Int.natCast_nonneg _)
  rw [exponentOf]
  simp only [guess, units, if_neg reached, leastExponent]
  omega

theorem mantissa_large (large : 2 ^ 53 ≤ n) :
    2 ^ 52 ≤ roundQuotient n (2 ^ (n.log2 - 52)) ∧ roundQuotient n (2 ^ (n.log2 - 52)) ≤ 2 ^ 53 := by
  have bits : 53 ≤ n.log2 := (Nat.le_log2 (by omega)).2 large
  have unit := Nat.two_pow_pos (n.log2 - 52)
  obtain ⟨low, high⟩ := roundQuotient_half n unit
  have least : 2 ^ 52 * 2 ^ (n.log2 - 52) ≤ n := by
    rw [← pow_add, Nat.add_sub_cancel' (by omega)]
    exact Nat.log2_self_le (by omega)
  have most : n < 2 ^ 53 * 2 ^ (n.log2 - 52) := by
    rw [← pow_add, show 53 + (n.log2 - 52) = n.log2 + 1 by omega]
    exact Nat.lt_log2_self
  generalize 2 ^ (n.log2 - 52) = den at *
  constructor
  · by_contra less
    have step := Nat.mul_le_mul_right den (show roundQuotient n den + 1 ≤ 2 ^ 52 by omega)
    rw [Nat.add_mul] at step
    omega
  · by_contra more
    have step := Nat.mul_le_mul_right den (show 2 ^ 53 + 1 ≤ roundQuotient n den by omega)
    rw [Nat.add_mul] at step
    omega

/-- A whole number that its significand can hold is not rounded. -/
theorem value?_ofRatio_small (s : Bool) (small : n < 2 ^ 53) :
    (ofRatio s n 1).value? = some (signed s n : ℚ) := by
  rcases Nat.eq_zero_or_pos n with rfl | positive
  · cases s <;> simp [ofRatio, value?, signed]
  have exact := ofRatio_whole s positive small Nat.one_pos
  rw [Nat.mul_one] at exact
  have inverse : (2 : ℚ) ^ (52 - n.log2) * 2 ^ ((n.log2 : Int) - 52) = 1 := by
    rw [← zpow_natCast, ← zpow_add₀ two_ne_zero, Nat.cast_sub (log2_le positive small)]
    simp
  rw [exact, whole, value?, signed_mul]
  push_cast
  rw [mul_assoc, Nat.pow_eq]
  push_cast
  rw [inverse, mul_one]

theorem value?_ofRatio_large (s : Bool) (large : 2 ^ 53 ≤ n) : (ofRatio s n 1).value? =
    if nearestWhole n < 2 ^ 1024 then some (signed s (nearestWhole n) : ℚ) else none := by
  have positive : 0 < n := Nat.lt_of_lt_of_le (by decide) large
  have unit : unitsOf n 1 (n.log2 - 52 : Nat) = (n, 2 ^ (n.log2 - 52)) := by
    rw [unitsOf, if_pos (Int.natCast_nonneg _), Int.toNat_natCast, Nat.one_mul, Nat.pow_eq]
  have nonzero : (n == 0) = false := beq_eq_false_iff_ne.2 positive.ne'
  obtain ⟨least, most⟩ := mantissa_large large
  simp only [ofRatio, nonzero, Bool.false_eq_true, if_false, exponentOf_large large, unit]
  split
  · next carry =>
      rw [beq_iff_eq, Nat.pow_eq] at carry
      have whole : nearestWhole n = 2 ^ 52 * 2 ^ (n.log2 - 52 + 1) := by
        rw [nearestWhole, carry]
        ring
      have value := value?_ofMantissa s (Nat.le_refl (2 ^ 52)) (by decide) (n.log2 - 52 + 1)
      rw [whole]
      exact value
  · next inside =>
      rw [beq_iff_eq, Nat.pow_eq] at inside
      exact value?_ofMantissa s least (by omega) _

/-- A whole number is rounded to its nearest multiple of the last leading bit, if that is finite. -/
theorem value?_ofRatio_one (s : Bool) (n : Nat) : (ofRatio s n 1).value? =
    if nearestWhole n < 2 ^ 1024 then some (signed s (nearestWhole n) : ℚ) else none := by
  rcases Nat.lt_or_ge n (2 ^ 53) with small | large
  · have fits : n < 2 ^ 1024 := by
      refine small.trans ?_
      rw [Nat.pow_lt_pow_iff_right (by decide)]
      decide
    rw [nearestWhole_of_small small, if_pos fits, value?_ofRatio_small s small]
  · exact value?_ofRatio_large s large

theorem value?_ofInt (n : Int) : (ofInt n).value? =
    if nearestWhole n.natAbs < 2 ^ 1024 then some (signed (n < 0) (nearestWhole n.natAbs) : ℚ)
    else none := value?_ofRatio_one _ _

/-- The whole numbers that floating point holds are those that it does not round. -/
theorem holds_iff (n : Int) : Holds n ↔ (ofInt n).value? = some (n : ℚ) := by
  have exact : signed (n < 0) (nearestWhole n.natAbs) = n ↔ nearestWhole n.natAbs = n.natAbs := by
    unfold signed
    split
    · next negative =>
        rw [decide_eq_true_eq] at negative
        omega
    · next negative =>
        rw [decide_eq_true_eq] at negative
        omega
  rw [value?_ofInt, Holds, ← nearestWhole_eq_iff]
  constructor
  · rintro ⟨same, fits⟩
    rw [same, if_pos fits, signed_natAbs]
  · intro value
    split at value
    · next fits =>
        rw [Option.some.injEq, Int.cast_inj, exact] at value
        rw [value] at fits
        exact ⟨value, fits⟩
    · cases value

end Double
end DocumentServer
