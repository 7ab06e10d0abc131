import DocumentServer.Proofs.Number.Rounding
import Mathlib.Data.Rat.Floor

/-!
The whole part of a number, and the numbers that are whole. A whole number below `2 ^ 53` is the same as an
integer, in floating point and as a decimal number, and nothing is left of it beside its whole part.
-/
namespace DocumentServer
open Number

/-! ## The whole part -/

variable {q : ℚ}

/-- The whole part of a value, towards zero. -/
def towardZero (q : ℚ) : Int := if 0 ≤ q then ⌊q⌋ else ⌈q⌉

theorem towardZero_int (n : Int) : towardZero n = n := by
  unfold towardZero
  split
  · exact Int.floor_intCast n
  · exact Int.ceil_intCast n

theorem towardZero_of_nonneg (positive : 0 ≤ q) : towardZero q = ⌊q⌋ := if_pos positive

theorem towardZero_neg (positive : 0 ≤ q) : towardZero (-q) = -⌊q⌋ := by
  unfold towardZero
  split
  · next negative =>
      obtain rfl : q = 0 := le_antisymm (neg_nonneg.1 negative) positive
      simp
  · exact Int.ceil_neg

/-- The quotient of a scaled number leaves out its fraction. -/
theorem towardZero_scaled {base : Nat} (positive : 0 < base) (s : Bool) (a : Nat) (e : Int) :
    towardZero (Double.signed s a * (base : ℚ) ^ e) =
      Double.signed s ((scaled base a e).1 / (scaled base a e).2) := by
  obtain ⟨divides, value⟩ := scaled_value positive a e
  have floor : ⌊(a : ℚ) * (base : ℚ) ^ e⌋ = ((scaled base a e).1 / (scaled base a e).2 : Nat) := by
    rw [← value]
    exact Rat.floor_intCast_div_natCast (scaled base a e).1 (scaled base a e).2
  have least : 0 ≤ (a : ℚ) * (base : ℚ) ^ e :=
    mul_nonneg (Nat.cast_nonneg a) (zpow_nonneg (Nat.cast_nonneg base) e)
  cases s with
  | false =>
      have plain : (Double.signed false a : ℚ) * (base : ℚ) ^ e = a * (base : ℚ) ^ e := by
        simp [Double.signed]
      rw [plain, towardZero_of_nonneg least, floor]
      rfl
  | true =>
      have negative : (Double.signed true a : ℚ) * (base : ℚ) ^ e = -(a * (base : ℚ) ^ e) := by
        simp [Double.signed]
      rw [negative, towardZero_neg least, floor]
      rfl

theorem Double.truncate?_of_value? {x : Double} (value : x.value? = some q) :
    x.truncate? = some (towardZero q) := by
  cases x with
  | finite s m e =>
      cases value
      exact congrArg some (towardZero_scaled Nat.two_pos s m e).symm
  | infinite s => cases value
  | nan => cases value

theorem Decimal.truncate?_of_value? {d : Decimal} (value : d.value? = some q) :
    d.truncate? = some (towardZero q) := by
  cases d with
  | finite s c e =>
      cases value
      exact congrArg some (towardZero_scaled (show 0 < 10 by decide) s c e).symm
  | infinite s => cases value
  | nan s signaling payload => cases value

theorem Number.scaled_eq_zero {base a : Nat} {e : Int} (positive : 0 < base) :
    (scaled base a e).1 = 0 ↔ a = 0 := by
  unfold scaled
  split <;> simp [positive.ne']

namespace Double

variable {x y : Double} {n : Int}

/-! ## What is left of a whole number -/

theorem unitsAt_value (s : Bool) (m : Nat) {low e : Int} (below : low ≤ e) :
    (unitsAt low s m e : ℚ) * 2 ^ low = signed s m * 2 ^ e := by
  obtain ⟨k, rfl⟩ := Int.le.dest below
  rw [unitsAt, signed_mul, add_sub_cancel_left, Int.toNat_natCast, zpow_add₀ two_ne_zero]
  push_cast
  rw [Nat.pow_eq]
  push_cast
  rw [zpow_natCast]
  ring

/-- Two numbers with one value have no difference. -/
theorem sub_of_value? (hx : x.value? = some q) (hy : y.value? = some q) :
    ∃ s, x.sub y = .finite s 0 leastExponent := by
  cases x with
  | finite s m e =>
      cases y with
      | finite t k f =>
          -- counted in the smaller of the two units, both are the same whole number
          have first := unitsAt_value s m (min_le_left e f)
          have second := unitsAt_value t k (min_le_right e f)
          have unit : (2 : ℚ) ^ min e f ≠ 0 := zpow_ne_zero _ two_ne_zero
          have same : unitsAt (min e f) s m e = unitsAt (min e f) t k f := by
            rw [value?, Option.some.injEq] at hx hy
            have units : (unitsAt (min e f) s m e : ℚ) = unitsAt (min e f) t k f := by
              rw [← mul_left_inj' unit, first, second, hx, hy]
            exact_mod_cast units
          have negated : unitsAt (min e f) (!t) k f = -unitsAt (min e f) t k f := by
            cases t <;> simp [unitsAt, signed]
          refine ⟨s && !t, ?_⟩
          simp only [sub, neg, add, negated, same, add_neg_cancel]
          rfl
      | infinite t => cases hy
      | nan => cases hy
  | infinite s => cases hx
  | nan => cases hx

theorem ofRatio_zero (s : Bool) (den : Nat) : ofRatio s 0 den = .finite s 0 leastExponent := rfl

/-- Zero times a finite number is zero. -/
theorem finite_zero_mul (s : Bool) (e : Int) (finite : y.isFinite = true) :
    ∃ t, (Double.finite s 0 e).mul y = .finite t 0 leastExponent := by
  cases y with
  | finite t k f =>
      have zero : (ratio (0 * k) (e + f)).1 = 0 := (scaled_eq_zero Nat.two_pos).2 (Nat.zero_mul k)
      refine ⟨s != t, ?_⟩
      simp only [mul, zero, ofRatio_zero]
  | infinite t => cases finite
  | nan => cases finite

theorem nearest?_zero (s : Bool) (e : Int) : (Double.finite s 0 e).nearest? = some 0 := by
  have zero : (ratio 0 e).1 = 0 := (scaled_eq_zero Nat.two_pos).2 rfl
  have least : ∀ den, roundQuotient 0 den = 0 := by
    intro den
    simp [roundQuotient]
  simp only [nearest?, zero, least]
  cases s <;> rfl

/-! ## Whole numbers of every kind -/

/-- A quotient that is a whole number below `2 ^ 53` has that value. -/
theorem value?_ofRatio (s : Bool) {k den : Nat} (small : k < 2 ^ 53) (divides : 0 < den) :
    (ofRatio s (k * den) den).value? = some (signed s k : ℚ) := by
  have one : ofRatio s (k * den) den = ofRatio s k 1 := by
    rcases Nat.eq_zero_or_pos k with rfl | positive
    · rw [Nat.zero_mul, ofRatio_zero, ofRatio_zero]
    · have plain := ofRatio_whole s positive small Nat.one_pos
      rw [Nat.mul_one] at plain
      rw [ofRatio_whole s positive small divides, plain]
  rw [one, value?_ofRatio_small s small]

theorem value?_ofInt_small (small : n.natAbs < 2 ^ 53) : (ofInt n).value? = some (n : ℚ) := by
  have value := value?_ofRatio (n < 0) small Nat.one_pos
  rw [Nat.mul_one, signed_natAbs] at value
  exact value

theorem abs_signed (s : Bool) (m : Nat) : |(signed s m : ℚ)| = m := by
  cases s <;> simp [signed]

end Double

/-! ## Whole decimal numbers -/

theorem Number.digitCount_mul_pow {n : Nat} (positive : 0 < n) (k : Nat) :
    digitCount (n * 10 ^ k) = digitCount n + k := by
  induction k with
  | zero => rw [pow_zero, Nat.mul_one, Nat.add_zero]
  | succ k ih =>
      have ten := Nat.toDigits_append_toDigits (b := 10) (n := n * 10 ^ k) (d := 0) (by decide)
        (Nat.mul_pos positive (Nat.pow_pos (by decide))) (by decide)
      have number : n * 10 ^ (k + 1) = 10 * (n * 10 ^ k) + 0 := by ring
      rw [number, digitCount, ← ten, List.length_append, ← digitCount, ih]
      rfl

/-- The place of the first digit of a whole number does not depend on how it is scaled. -/
theorem Number.digitCount_scaled {c k : Nat} {e : Int} (positive : 0 < k)
    (whole : (scaled 10 c e).1 = k * (scaled 10 c e).2) : (digitCount c : Int) + e = digitCount k := by
  unfold scaled at whole
  split at whole
  · next up =>
      obtain ⟨j, rfl⟩ := Int.eq_ofNat_of_zero_le up
      simp only [Int.toNat_natCast, Nat.mul_one, Nat.pow_eq] at whole
      have some : 0 < c := by
        rw [← whole] at positive
        exact Nat.pos_of_mul_pos_right positive
      rw [← whole, digitCount_mul_pow some]
      push_cast
      rfl
  · next down =>
      obtain ⟨j, rfl⟩ := Int.eq_negSucc_of_lt_zero (Int.not_le.1 down)
      simp only [Int.neg_negSucc, Int.toNat_natCast, Nat.pow_eq] at whole
      rw [whole, digitCount_mul_pow positive]
      omega

/-- A decimal number that is whole is scaled to a multiple of the divisor. -/
theorem Decimal.scaled_of_whole {s : Bool} {c : Nat} {e n : Int}
    (value : (Decimal.finite s c e).value? = some (n : ℚ)) :
    (scaled 10 c e).1 = n.natAbs * (scaled 10 c e).2 ∧ Double.signed s n.natAbs = n := by
  obtain ⟨divides, quotient⟩ := scaled_value (show 0 < 10 by decide) c e
  rw [value?, Option.some.injEq] at value
  have unsigned : (n.natAbs : ℚ) = c * 10 ^ e := by
    have power : (0 : ℚ) < 10 ^ e := zpow_pos (by norm_num) e
    rw [Nat.cast_natAbs, Int.cast_abs, ← value, abs_mul, Double.abs_signed, abs_of_pos power]
  have whole : (scaled 10 c e).1 = n.natAbs * (scaled 10 c e).2 := by
    rw [div_eq_iff (Nat.cast_ne_zero.2 divides.ne'), Nat.cast_ofNat, ← unsigned] at quotient
    exact_mod_cast quotient
  refine ⟨whole, ?_⟩
  have part := towardZero_scaled (show 0 < 10 by decide) s c e
  rw [whole, Nat.mul_div_cancel _ divides] at part
  rw [← part, ← towardZero_int n, ← value]
  rfl

/-- A decimal number that is a whole number below `2 ^ 53` is not rounded in floating point. -/
theorem Double.value?_ofDecimal {s : Bool} {c : Nat} {e n : Int} (small : n.natAbs < 2 ^ 53)
    (value : (Decimal.finite s c e).value? = some (n : ℚ)) :
    (Double.ofDecimal s c e).value? = some (n : ℚ) := by
  obtain ⟨whole, sign⟩ := Decimal.scaled_of_whole value
  rcases Nat.eq_zero_or_pos n.natAbs with zero | positive
  · rw [zero, Nat.zero_mul, scaled_eq_zero (by decide)] at whole
    rw [Int.natAbs_eq_zero.1 zero, whole]
    cases s <;> simp [ofDecimal, value?, signed]
  · -- the magnitude is the number of digits, far from where decimals become zero or infinite
    have place := digitCount_scaled positive whole
    have few : digitCount n.natAbs ≤ 16 := by
      rw [digitCount, Nat.length_toDigits_le_iff (by decide) (by decide)]
      omega
    have divides := (scaled_value (show 0 < 10 by decide) c e).1
    have nonzero : c ≠ 0 := by
      rw [ne_eq, ← scaled_eq_zero (e := e) (show 0 < 10 by decide), whole]
      exact (Nat.mul_pos positive divides).ne'
    have low : ¬(digitCount n.natAbs : Int) < -330 := by omega
    have high : ¬(digitCount n.natAbs : Int) > 310 := by omega
    simp only [ofDecimal, place, beq_eq_false_iff_ne.2 nonzero, low, high, decide_false, Bool.or_false,
      Bool.false_eq_true, if_false]
    rw [whole, value?_ofRatio s small divides, sign]

/-! ## Numbers that compare as equal -/

/-- A number that compares as equal to another one has its value. -/
theorem Double.value?_of_ordering? {x y : Double} {q : ℚ} (same : x.ordering? y = some .eq)
    (value : x.value? = some q) : y.value? = some q := by
  cases x with
  | finite s m e =>
      cases y with
      | finite t k f =>
          -- counted in the smaller of the two units, both are the same whole number
          have units := Std.LawfulEqCmp.eq_of_compare (Option.some.inj same)
          have first := Double.unitsAt_value s m (min_le_left e f)
          have second := Double.unitsAt_value t k (min_le_right e f)
          rw [units, second] at first
          rw [← value, Double.value?, Double.value?, first]
      | infinite t => cases t <;> cases same
      | nan => cases same
  | infinite s => cases value
  | nan => cases value

theorem Decimal.unitsAt_value (s : Bool) (c : Nat) {low e : Int} (below : low ≤ e) :
    (Decimal.unitsAt low s c e : ℚ) * 10 ^ low = Double.signed s c * 10 ^ e := by
  obtain ⟨k, rfl⟩ := Int.le.dest below
  rw [Decimal.unitsAt, Double.signed_mul, add_sub_cancel_left, Int.toNat_natCast,
    zpow_add₀ (by norm_num)]
  push_cast
  rw [Nat.pow_eq]
  push_cast
  rw [zpow_natCast]
  ring

/-- A decimal number that compares as equal to a whole number is that number. -/
theorem Decimal.value?_of_ordering? {x : Decimal} {n : Int}
    (same : x.ordering? (.ofInt n) = some .eq) : x.value? = some (n : ℚ) := by
  cases x with
  | finite s c e =>
      have units := Std.LawfulEqCmp.eq_of_compare (Option.some.inj same)
      have first := unitsAt_value s c (min_le_left e 0)
      have second := unitsAt_value (n < 0) n.natAbs (min_le_right e 0)
      rw [units, second, Double.signed_natAbs, zpow_zero, mul_one] at first
      rw [Decimal.value?, first]
  | infinite s => cases s <;> cases same
  | nan => cases same

theorem Double.exists_value?_of_truncate? {x : Double} {n : Int} (whole : x.truncate? = some n) :
    ∃ q, x.value? = some q ∧ towardZero q = n := by
  cases x with
  | finite s m e =>
      refine ⟨_, rfl, ?_⟩
      have part := Double.truncate?_of_value? (x := .finite s m e) rfl
      rw [whole] at part
      exact (Option.some.inj part).symm
  | infinite s => cases whole
  | nan => cases whole

end DocumentServer
