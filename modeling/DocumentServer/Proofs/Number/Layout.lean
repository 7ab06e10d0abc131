import DocumentServer.Number.Formatted
import DocumentServer.Proofs.Text.Numeral

/-!
Numbers with a fixed number of digits behind the point. Binary and decimal numbers are written alike
once they are rounded, and the separators between the digit groups are all that grouping adds.
-/
namespace DocumentServer.Layout
open Number Text

/-! ## Digit groups -/

theorem filter_groupReversed (size : Nat) {mark : Char} (count : Nat) {digits : List Char}
    (plain : mark ∉ digits) : (groupReversed size mark count digits).filter (· != mark) = digits := by
  induction digits generalizing count with
  | nil => rfl
  | cons d rest ih =>
      rw [List.mem_cons, not_or] at plain
      have other : (d != mark) = true := bne_iff_ne.2 (Ne.symm plain.1)
      rw [groupReversed]
      split <;> simp [other, ih _ plain.2]

/-- Without its separators, grouped text is the digits alone. -/
theorem filter_groupDigits (size : Nat) {mark : Char} {digits : List Char} (plain : mark ∉ digits) :
    (groupDigits size mark digits).filter (· != mark) = digits := by
  have reversed := filter_groupReversed size 0 (fun mem => plain (List.mem_reverse.1 mem))
  rw [groupDigits, List.filter_reverse, reversed, List.reverse_reverse]

variable {size : Nat} {mark : Char} {ds front last : List Char}

theorem groupReversed_short {count : Nat} (short : count + ds.length ≤ size) :
    groupReversed size mark count ds = ds := by
  induction ds generalizing count with
  | nil => rfl
  | cons d rest ih =>
      rw [List.length_cons] at short
      have more : (count == size) = false := beq_eq_false_iff_ne.2 (by omega)
      rw [groupReversed, more, if_neg (by simp), ih (by omega)]

/-- The group that is begun ends with the digits that fill it up. -/
theorem groupReversed_append (positive : 0 < size) {count : Nat} {rest : List Char}
    (full : count + ds.length = size) (nonempty : rest ≠ []) :
    groupReversed size mark count (ds ++ rest) = ds ++ mark :: groupReversed size mark 0 rest := by
  induction ds generalizing count with
  | nil =>
      obtain ⟨d, rest, rfl⟩ := List.exists_cons_of_ne_nil nonempty
      have full : (count == size) = true := beq_iff_eq.2 full
      have begun : (0 == size) = false := beq_eq_false_iff_ne.2 (by omega)
      simp [groupReversed, full, begun]
  | cons d ds ih =>
      rw [List.length_cons] at full
      have more : (count == size) = false := beq_eq_false_iff_ne.2 (by omega)
      rw [List.cons_append, groupReversed, more, if_neg (by simp), ih (by omega), List.cons_append]

theorem groupDigits_short (mark : Char) (short : ds.length ≤ size) : groupDigits size mark ds = ds := by
  rw [groupDigits, groupReversed_short (by rw [List.length_reverse]; omega), List.reverse_reverse]

/-- The last digits are a group of their own. -/
theorem groupDigits_append (positive : 0 < size) (mark : Char) (nonempty : front ≠ [])
    (full : last.length = size) :
    groupDigits size mark (front ++ last) = groupDigits size mark front ++ mark :: last := by
  have full : 0 + last.reverse.length = size := by rw [List.length_reverse, Nat.zero_add, full]
  have nonempty : front.reverse ≠ [] := by simpa using nonempty
  rw [groupDigits, List.reverse_append, groupReversed_append positive full nonempty, List.reverse_append,
    List.reverse_cons, List.reverse_reverse, List.append_assoc]
  rfl

/-- Digits in a front of at least one and at most as many as a group has, and full groups behind it. -/
structure Groups (size : Nat) (front : List Char) (groups : List (List Char)) : Prop where
  front_pos : 1 ≤ front.length
  front_le : front.length ≤ size
  full : ∀ group ∈ groups, group.length = size

theorem groupDigits_groups (positive : 0 < size) (mark : Char) (nonempty : ds ≠ []) :
    ∃ front groups, Groups size front groups ∧ ds = front ++ groups.flatten ∧
      groupDigits size mark ds = front ++ groups.flatMap (mark :: ·) := by
  induction length : ds.length using Nat.strongRecOn generalizing ds with
  | _ n ih =>
      by_cases short : ds.length ≤ size
      · have some := List.length_pos_iff.2 nonempty
        exact ⟨ds, [], ⟨some, short, List.forall_mem_nil _⟩, by simp, by simp [groupDigits_short mark short]⟩
      · -- the last digits are a full group, and fewer digits are left before them
        obtain ⟨before, last, rfl, full⟩ : ∃ before last, ds = before ++ last ∧ last.length = size := by
          refine ⟨_, _, (List.take_append_drop (ds.length - size) ds).symm, ?_⟩
          rw [List.length_drop]
          omega
        rw [List.length_append] at short length
        have some : before ≠ [] := by
          rw [← List.length_pos_iff]
          omega
        obtain ⟨front, groups, ⟨least, most, all⟩, digits, grouped⟩ := ih before.length (by omega) some rfl
        refine ⟨front, groups ++ [last], ⟨least, most, ?_⟩, ?_, ?_⟩
        · exact List.forall_mem_append.2 ⟨all, by simpa using full⟩
        · simp [digits]
        · rw [groupDigits_append positive mark some full, grouped]
          simp

theorem Groups.lengths {front : List Char} {groups : List (List Char)} (cut : Groups size front groups) :
    groups.map List.length = List.replicate groups.length size ∧
      groups.flatten.length = groups.length * size := by
  have each : groups.map List.length = List.replicate groups.length size :=
    List.eq_replicate_iff.2 ⟨List.length_map _, by simpa using cut.full⟩
  refine ⟨each, ?_⟩
  rw [List.length_flatten, each, List.sum_replicate_nat]

/-- There is one way to cut digits into groups. -/
theorem Groups.unique {front front' : List Char} {groups groups' : List (List Char)}
    (cut : Groups size front groups) (other : Groups size front' groups')
    (same : front ++ groups.flatten = front' ++ groups'.flatten) : front = front' ∧ groups = groups' := by
  obtain ⟨each, sum⟩ := cut.lengths
  obtain ⟨each', sum'⟩ := other.lengths
  have total := congrArg List.length same
  rw [List.length_append, List.length_append, sum, sum'] at total
  have := cut.front_pos
  have := cut.front_le
  have := other.front_pos
  have := other.front_le
  have count : groups.length = groups'.length := by
    rcases Nat.lt_trichotomy groups.length groups'.length with less | equal | more
    · have step := Nat.mul_le_mul_right size less
      rw [Nat.succ_mul] at step
      omega
    · exact equal
    · have step := Nat.mul_le_mul_right size more
      rw [Nat.succ_mul] at step
      omega
  rw [count] at total each
  obtain ⟨fronts, flat⟩ := List.append_inj same (Nat.add_right_cancel total)
  exact ⟨fronts, List.eq_iff_flatten_eq.2 ⟨flat, each.trans each'.symm⟩⟩

theorem wholeText_grouped (size : Nat) (mark : Char) (digits : List Char) :
    wholeText size (some mark) 0 digits = groupDigits size mark digits := by
  simp [wholeText, digitsForWidth, List.leftpad]

/-- Without a width there is no padding. -/
theorem lay_narrow {spec : Spec} (narrow : spec.width = 0) (size : Nat) {n : Numeral}
    (digits : n.whole ≠ []) : lay spec size n =
      signChars spec.sign n.negative ++ n.base ++ (wholeText size spec.separator 0 n.whole ++ n.tail) := by
  have some : n.whole.isEmpty = false := List.isEmpty_eq_false_iff.2 digits
  simp only [lay, some, narrow, Nat.zero_sub, ite_self, Bool.false_eq_true, if_false, pad,
    List.replicate_zero, List.append_nil, List.nil_append, Nat.zero_div]
  cases spec.align <;> rfl

/-! ## The point -/

/-- The digits of a number before and behind a point in front of its last digits. -/
def pointed (places n : Nat) : List Char × List Char :=
  let digits := (Nat.toDigits 10 n).leftpad (places + 1) '0'
  (digits.take (digits.length - places), digits.drop (digits.length - places))

variable (places n : Nat)

theorem pointed_append : (pointed places n).1 ++ (pointed places n).2 =
    (Nat.toDigits 10 n).leftpad (places + 1) '0' := List.take_append_drop _ _

theorem places_lt_length : places < ((Nat.toDigits 10 n).leftpad (places + 1) '0').length := by
  rw [List.length_leftpad]
  omega

theorem length_pointed : (pointed places n).2.length = places := by
  have long := places_lt_length places n
  rw [pointed, List.length_drop]
  omega

theorem pointed_ne_nil : (pointed places n).1 ≠ [] := by
  have long := places_lt_length places n
  rw [← List.length_pos_iff, pointed, List.length_take]
  omega

theorem isDigit_pointed :
    ∀ c ∈ (pointed places n).1 ++ (pointed places n).2, c.isDigit = true := by
  rw [pointed_append]
  exact all_isDigit_leftpad (all_isDigit_numeral n) _

/-- The digits on both sides of the point denote the number. -/
theorem ofDigitChars_pointed :
    Nat.ofDigitChars 10 ((pointed places n).1 ++ (pointed places n).2) 0 = n := by
  rw [pointed_append, ofDigitChars_leftpad, Nat.ofDigitChars_ten_toDigits]

/-- Only a number with too few digits gets zeros in front. -/
theorem pointed_eq : pointed places n =
    if (Nat.toDigits 10 n).length ≤ places then
      (['0'], List.replicate (places - (Nat.toDigits 10 n).length) '0' ++ Nat.toDigits 10 n)
    else
      ((Nat.toDigits 10 n).take ((Nat.toDigits 10 n).length - places),
        (Nat.toDigits 10 n).drop ((Nat.toDigits 10 n).length - places)) := by
  simp only [pointed, List.leftpad]
  generalize Nat.toDigits 10 n = digits
  split
  · next short =>
      have zeros : places + 1 - digits.length = places - digits.length + 1 := by omega
      have whole : (List.replicate (places - digits.length + 1) '0' ++ digits).length - places = 1 := by
        rw [List.length_append, List.length_replicate]
        omega
      rw [zeros, whole, List.replicate_succ]
      rfl
  · next long =>
      have zeros : places + 1 - digits.length = 0 := by omega
      rw [zeros, List.replicate_zero, List.nil_append]

/-- A decimal number is rounded to its last place and then written like any other. -/
theorem decimalParts_fixed {spec : Spec} (kind : spec.kind = some 'f')
    (precision : spec.precision = some places) (c : Nat) (e : Int) :
    decimalParts spec c e = ((pointed places (Decimal.rescale (-places) c e)).1,
      pointTail spec.alternate (pointed places (Decimal.rescale (-places) c e)).2) := by
  have lower : ((some 'f').getD 'G').toLower = 'f' := by decide
  have percent : ('f' == '%') = false := by decide
  simp only [decimalParts, kind, precision, lower, percent, roundForKind, Bool.false_eq_true, if_false,
    List.append_nil, Int.sub_self]
  rw [pointed_eq]
  generalize Nat.toDigits 10 (Decimal.rescale (-places) c e) = digits
  have exponent : ((0 : Int) != 0 || 'f' == 'e') = false := by decide
  rw [exponent]
  simp only [Bool.false_eq_true, if_false, List.append_nil]
  have within : ¬(-(places : Int) + digits.length > digits.length) := by omega
  rw [if_neg within]
  by_cases short : digits.length ≤ places
  · rw [if_pos short]
    by_cases negative : -(places : Int) + digits.length < 0
    · have zeros : (-(-(places : Int) + digits.length)).toNat = places - digits.length := by omega
      rw [if_pos negative, zeros]
    · have point : (-(places : Int) + digits.length).toNat = 0 := by omega
      have zeros : places - digits.length = 0 := by omega
      rw [if_neg negative, point, zeros]
      rfl
  · have point : (-(places : Int) + digits.length).toNat = digits.length - places := by omega
    have some : (digits.length - places == 0) = false := by
      rw [beq_eq_false_iff_ne]
      omega
    rw [if_neg short, if_neg (by omega), point, some]
    rfl

end DocumentServer.Layout
