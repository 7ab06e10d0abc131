import DocumentServer.Formatting.Numbers
import DocumentServer.Proofs.Formatting.Formats
import DocumentServer.Proofs.Number.Layout
import DocumentServer.Proofs.Number.Rounding

/-!
Amounts: numbers with two digits behind the point and commas between the groups of three digits before
it. Binary and decimal numbers are written to the nearest hundredth. An integer is written as a binary
number, so that it is written exactly if floating point holds it, and wrongly or not at all otherwise.
-/
namespace DocumentServer
open Number

namespace Layout

/-- The specification that the text `,.2f` stands for. -/
def amountSpec : Spec := { separator := some ',', precision := some 2, kind := some 'f' }

theorem readSpec_amount (type : String) : readSpec type ",.2f" = .ok amountSpec := rfl

theorem forDecimal?_amount : Spec.forDecimal? ",.2f" = some amountSpec := rfl

/-- A number of hundredths by that specification. -/
def amountText (negative : Bool) (hundredths : Nat) : String :=
  .ofList (lay amountSpec 3
    { negative, whole := (pointed 2 hundredths).1, tail := '.' :: (pointed 2 hundredths).2 })

/-- Reads an amount as a number of hundredths: digits, a point and two digits. Commas count for nothing. -/
def hundredths? (text : String) : Option Int :=
  let s := text.toList.filter (· != ',')
  let negative := s.head? == some '-'
  let s := if negative then s.drop 1 else s
  let whole := s.takeWhile Char.isDigit
  match s.dropWhile Char.isDigit with
  | ['.', a, b] =>
    if whole.isEmpty || !a.isDigit || !b.isDigit then none
    else some (Double.signed negative (Nat.ofDigitChars 10 (whole ++ [a, b]) 0))
  | _ => none

/-! ## Texts -/

theorem filter_amountText (s : Bool) (n : Nat) : (amountText s n).toList.filter (· != ',') =
    (if s then ['-'] else []) ++ ((pointed 2 n).1 ++ '.' :: (pointed 2 n).2) := by
  have plain : ∀ c ∈ (pointed 2 n).1 ++ (pointed 2 n).2, c ≠ ',' := by
    rintro c mem rfl
    exact absurd (isDigit_pointed 2 n ',' mem) (by decide)
  have whole : ',' ∉ (pointed 2 n).1 := fun mem => plain ',' (List.mem_append_left _ mem) rfl
  have fraction : (pointed 2 n).2.filter (· != ',') = (pointed 2 n).2 :=
    List.filter_eq_self.2 fun c mem => bne_iff_ne.2 (plain c (List.mem_append_right _ mem))
  rw [amountText, String.toList_ofList, lay_narrow rfl 3 (pointed_ne_nil 2 n), amountSpec, wholeText_grouped]
  cases s <;> simp [signChars, filter_groupDigits 3 whole, fraction]

theorem hundredths?_amountText (s : Bool) (n : Nat) :
    hundredths? (amountText s n) = some (Double.signed s n) := by
  have digits := isDigit_pointed 2 n
  have number := ofDigitChars_pointed 2 n
  have nonempty := pointed_ne_nil 2 n
  have two := length_pointed 2 n
  have text := filter_amountText s n
  generalize (pointed 2 n).1 = whole at *
  generalize (pointed 2 n).2 = fraction at *
  obtain ⟨a, b, rfl⟩ := List.length_eq_two.1 two
  obtain ⟨front, behind⟩ := List.forall_mem_append.1 digits
  have ha : a.isDigit = true := behind a (by simp)
  have hb : b.isDigit = true := behind b (by simp)
  have some : whole.isEmpty = false := List.isEmpty_eq_false_iff.2 nonempty
  have point : ('.').isDigit = false := rfl
  have taken : (whole ++ ['.', a, b]).takeWhile Char.isDigit = whole := by
    rw [List.takeWhile_append_of_pos front, List.takeWhile_cons_of_neg (by simp [point]), List.append_nil]
  have dropped : (whole ++ ['.', a, b]).dropWhile Char.isDigit = ['.', a, b] := by
    rw [List.dropWhile_append_of_pos front, List.dropWhile_cons_of_neg (by simp [point])]
  have unsigned : ((whole ++ ['.', a, b]).head? == Option.some '-') = false := by
    obtain ⟨d, rest, rfl⟩ := List.exists_cons_of_ne_nil nonempty
    have digit : d.isDigit = true := front d List.mem_cons_self
    rw [List.cons_append, List.head?_cons, beq_eq_false_iff_ne]
    rintro ⟨⟩
    exact absurd digit (by decide)
  rw [hundredths?, text]
  cases s
  · simp only [Bool.false_eq_true, if_false, List.nil_append, unsigned, taken, dropped, some, ha, hb, number,
      Bool.not_true, Bool.or_false]
  · simp [taken, dropped, some, ha, hb, number]

/-- A whole number is written with its own digits and two zeros. -/
theorem pointed_whole (n : Nat) : pointed 2 (n * 100) = (Nat.toDigits 10 n, ['0', '0']) := by
  rcases Nat.eq_zero_or_pos n with rfl | positive
  · decide
  · have zero : Nat.toDigits 10 0 = ['0'] := by decide
    have ten := Nat.toDigits_append_toDigits (b := 10) (d := 0) (by decide) positive (by decide)
    have hundred := Nat.toDigits_append_toDigits (b := 10) (n := 10 * n) (d := 0) (by decide) (by omega) (by decide)
    have number : n * 100 = 10 * (10 * n) := by omega
    rw [zero, Nat.add_zero] at ten hundred
    have digits : Nat.toDigits 10 (n * 100) = Nat.toDigits 10 n ++ ['0', '0'] := by
      rw [number, ← hundred, ← ten, List.append_assoc]
      rfl
    have long : ¬(Nat.toDigits 10 (n * 100)).length ≤ 2 := by
      have some := Nat.length_toDigits_pos (b := 10) (n := n)
      rw [digits, List.length_append]
      simp only [List.length_cons, List.length_nil]
      omega
    rw [pointed_eq, if_neg long, digits]
    simp

theorem filter_amountText_whole (n : Int) :
    (amountText (n < 0) (n.natAbs * 100)).toList.filter (· != ',') = Value.intChars n ++ ['.', '0', '0'] := by
  rw [filter_amountText, pointed_whole, Value.intChars]
  by_cases negative : n < 0
  · simp [negative]
  · simp [negative]

/-! ## The three kinds of numbers -/

theorem pointTail_pointed (n : Nat) : pointTail false (pointed 2 n).2 = '.' :: (pointed 2 n).2 := by
  have two := length_pointed 2 n
  have some : (pointed 2 n).2.isEmpty = false :=
    List.isEmpty_eq_false_iff.2 (List.ne_nil_of_length_pos (by omega))
  rw [pointTail, some]
  rfl

theorem layDouble_amount (s : Bool) (m : Nat) (e : Int) : .ofList (layDouble amountSpec (.finite s m e)) =
    amountText s (roundQuotient ((Double.ratio m e).1 * 100) (Double.ratio m e).2) := by
  have parts : doubleParts amountSpec m e =
      ((pointed 2 (roundQuotient ((Double.ratio m e).1 * 100) (Double.ratio m e).2)).1,
        pointTail false (pointed 2 (roundQuotient ((Double.ratio m e).1 * 100) (Double.ratio m e).2)).2) :=
    rfl
  have percent : (amountSpec.kind == some '%') = false := by decide
  simp only [layDouble, percent, parts, pointTail_pointed, Bool.false_eq_true, if_false, List.append_nil]
  simp [amountText, amountSpec]

theorem formatDouble_amount (s : Bool) (m : Nat) (e : Int) : formatDouble ",.2f" (.finite s m e) =
    .ok (amountText s (roundQuotient ((Double.ratio m e).1 * 100) (Double.ratio m e).2)) := by
  rw [← layDouble_amount]
  rfl

theorem formatDecimal_amount (s : Bool) (c : Nat) (e : Int) : formatDecimal ",.2f" (.finite s c e) =
    .ok (amountText s (Decimal.rescale (-2) c e)) := by
  have parts : decimalParts amountSpec c e = ((pointed 2 (Decimal.rescale (-2) c e)).1,
      pointTail amountSpec.alternate (pointed 2 (Decimal.rescale (-2) c e)).2) :=
    decimalParts_fixed 2 rfl rfl c e
  have tail : pointTail amountSpec.alternate (pointed 2 (Decimal.rescale (-2) c e)).2 =
      '.' :: (pointed 2 (Decimal.rescale (-2) c e)).2 := pointTail_pointed _
  have negative : ∀ nought, (s && !(amountSpec.coerceZero && nought)) = s := by
    intro nought
    cases s <;> rfl
  rw [formatDecimal, forDecimal?_amount]
  simp only [parts, negative]
  rw [amountText, ← tail]

/-- An integer is written as a binary number. -/
theorem formatInt_amount (n : Int) : formatInt ",.2f" n =
    if (Double.ofInt n).isFinite then formatDouble ",.2f" (Double.ofInt n)
    else .error .integerAsDouble := by
  have kind : amountSpec.kind = some 'f' := rfl
  have other : integerKinds.contains 'f' = false := by decide
  have known : doubleKinds.contains 'f' = true := by decide
  have small : ¬largePrecision ≤ amountSpec.precision.getD 0 := by decide
  rw [formatInt, readSpec_amount, ok_bind, kind]
  simp only [other, known, small, Bool.false_eq_true, if_false, if_true]
  cases finite : Double.ofInt n with
  | finite s m e =>
     rw [formatDouble_amount, ← layDouble_amount]
     rfl
  | infinite s => rfl
  | nan => rfl

/-! ## Rounding to hundredths -/

theorem signed_near (s : Bool) {cents m : Nat} {unit : ℚ} (near : |(cents : ℚ) - m * unit * 100| ≤ 1 / 2) :
    |(Double.signed s cents : ℚ) / 100 - Double.signed s m * unit| ≤ 1 / 200 := by
  rw [abs_le] at near ⊢
  cases s
  · simp only [Double.signed, Bool.false_eq_true, if_false, Int.cast_natCast]
    constructor <;> linarith [near.1, near.2]
  · simp only [Double.signed, if_true, Int.cast_neg, Int.cast_natCast]
    constructor <;> linarith [near.1, near.2]

theorem double_near (m : Nat) (e : Int) :
    |(roundQuotient ((Double.ratio m e).1 * 100) (Double.ratio m e).2 : ℚ) - m * 2 ^ e * 100| ≤ 1 / 2 := by
  obtain ⟨positive, value⟩ := scaled_value Nat.two_pos m e
  have error := roundQuotient_error ((Double.ratio m e).1 * 100) positive
  push_cast at error value
  rwa [mul_div_right_comm, Double.ratio, value] at error

theorem decimal_near (c : Nat) (e : Int) :
    |(Decimal.rescale (-2) c e : ℚ) - c * 10 ^ e * 100| ≤ 1 / 2 := by
  have hundred : (c : ℚ) * 10 ^ e * 100 = c * 10 ^ (e + 2) := by
    rw [zpow_add₀ (by norm_num), mul_assoc]
    norm_num
  rw [hundred, Decimal.rescale]
  split
  · next exact =>
      obtain ⟨k, power⟩ := Int.eq_ofNat_of_zero_le (show 0 ≤ e + 2 by omega)
      have same : (e - -2).toNat = k := by omega
      rw [same, power]
      simp
  · next rounded =>
      have power : e + 2 = -((-2 - e).toNat : Int) := by omega
      have error := roundQuotient_error c (Nat.pow_pos (n := (-2 - e).toNat) (show 0 < 10 by decide))
      rw [power, zpow_neg, zpow_natCast, ← div_eq_mul_inv]
      simpa using error

/-- An amount that is at most half a hundredth away from a value. -/
def Near (text : String) (q : ℚ) : Prop :=
  ∃ cents, hundredths? text = some cents ∧ |(cents : ℚ) / 100 - q| ≤ 1 / 200

theorem near_int {text : String} {k : Int} : Near text k ↔ hundredths? text = some (100 * k) := by
  constructor
  · rintro ⟨cents, told, near⟩
    have same : cents = 100 * k := by
      rw [abs_le] at near
      have low : (100 * k : ℚ) - 1 < cents := by linarith [near.1]
      have high : (cents : ℚ) < 100 * k + 1 := by linarith [near.2]
      have low : 100 * k - 1 < cents := by exact_mod_cast low
      have high : cents < 100 * k + 1 := by exact_mod_cast high
      omega
    rw [told, same]
  · intro told
    refine ⟨100 * k, told, ?_⟩
    push_cast
    rw [mul_div_cancel_left₀ _ (by norm_num), sub_self, abs_zero]
    norm_num

variable {q : ℚ}

theorem formatDouble_near {x : Double} (value : x.value? = some q) :
    ∃ text, formatDouble ",.2f" x = .ok text ∧ Near text q := by
  cases x with
  | finite s m e =>
      cases value
      exact ⟨_, formatDouble_amount s m e, _, hundredths?_amountText _ _, signed_near s (double_near m e)⟩
  | infinite s => cases value
  | nan => cases value

theorem formatDecimal_near {d : Decimal} (value : d.value? = some q) :
    ∃ text, formatDecimal ",.2f" d = .ok text ∧ Near text q := by
  cases d with
  | finite s c e =>
      cases value
      exact ⟨_, formatDecimal_amount s c e, _, hundredths?_amountText _ _, signed_near s (decimal_near c e)⟩
  | infinite s => cases value
  | nan s signaling payload => cases value

/-- As a decimal number, an integer is written exactly. -/
theorem formatDecimal_ofInt (n : Int) :
    formatDecimal ",.2f" (.ofInt n) = .ok (amountText (n < 0) (n.natAbs * 100)) :=
  formatDecimal_amount _ _ _

/-- An integer that is written is written to the nearest hundredth of its binary number. -/
theorem formatInt_eq_ok {n : Int} {text : String} (written : formatInt ",.2f" n = .ok text) :
    ∃ k : Int, (Double.ofInt n).value? = some (k : ℚ) ∧ hundredths? text = some (100 * k) := by
  rw [formatInt_amount] at written
  split at written
  · next finite =>
      have value := Double.value?_ofInt n
      split at value
      · obtain ⟨text', same, near⟩ := formatDouble_near value
        cases same.symm.trans written
        exact ⟨_, value, near_int.1 near⟩
      · cases told : Double.ofInt n <;> simp [told, Double.value?, Double.isFinite] at value finite
  · cases written

/-- The integers that are written exactly are those that floating point holds. -/
theorem formatInt_near_iff (n : Int) :
    (∃ text, formatInt ",.2f" n = .ok text ∧ Near text n) ↔ Double.Holds n := by
  rw [Double.holds_iff]
  constructor
  · rintro ⟨text, written, near⟩
    obtain ⟨k, value, told⟩ := formatInt_eq_ok written
    rw [near_int, told, Option.some.injEq] at near
    have same : k = n := by omega
    rw [value, same]
  · intro value
    obtain ⟨text, written, near⟩ := formatDouble_near value
    refine ⟨text, ?_, near⟩
    rw [formatInt_amount, if_pos (Double.isFinite_of_value? value), written]

theorem formatInt_eq_iff (n : Int) :
    formatInt ",.2f" n = formatDecimal ",.2f" (.ofInt n) ↔ Double.Holds n := by
  rw [formatDecimal_ofInt]
  have hundredths : Double.signed (n < 0) (n.natAbs * 100) = 100 * n := by
    rw [Double.signed_mul, Double.signed_natAbs]
    omega
  constructor
  · intro written
    refine (formatInt_near_iff n).1 ⟨_, written, near_int.2 ?_⟩
    rw [hundredths?_amountText, hundredths]
  · intro holds
    have value := (Double.holds_iff n).1 holds
    have sign : (Double.ofInt n).isNegative = decide (n < 0) := Double.isNegative_ofRatio _ _ _
    rw [formatInt_amount, if_pos (Double.isFinite_of_value? value)]
    cases told : Double.ofInt n with
    | finite s m e =>
        rw [told] at value sign
        obtain rfl : s = decide (n < 0) := sign
        obtain ⟨text, written, near⟩ := formatDouble_near value
        rw [formatDouble_amount] at written
        cases written
        rw [near_int, hundredths?_amountText, Option.some.injEq, ← hundredths] at near
        rw [formatDouble_amount, Double.signed_injective near]
    | infinite s =>
        rw [told] at value
        cases value
    | nan =>
        rw [told] at value
        cases value

end Layout

namespace Formatting
open Layout

variable {v : Value} {x : Numeric} {q : ℚ} {key : String}

theorem formatNumber_amount (number : numberOf v = .ok x) (amount : key = "decimal" ∨ key = "currency") :
    formatNumber numberFormats v (.text key) = (writeNumber ",.2f" x).mapError formatFault := by
  have format : definition "number" numberFormats (.text key) = .ok (.text ",.2f") := by
    rcases amount with rfl | rfl
    · exact definition_named "number" rfl
    · exact definition_named "number" rfl
  rw [formatNumber, number, ok_bind, format, ok_bind]
  rfl

/-- Under the two formats of amounts, every finite number but some integers is written as digits, a
point and two digits that are at most half a hundredth away from it. An integer is so written, and then
exactly and as a decimal number is, if and only if floating point holds it. -/
theorem amounts_are_near (number : numberOf v = .ok x) (finite : x.value? = some q)
    (amount : key = "decimal" ∨ key = "currency") :
    ((∃ text, formatNumber numberFormats v (.text key) = .ok text ∧ Near text q) ↔
      ∀ n, v = .int n → Double.Holds n) ∧
    ∀ n, v = .int n → ∃ text, formatNumber numberFormats (.decimal (.ofInt n)) (.text key) = .ok text ∧
      text.toList.filter (· != ',') = Value.intChars n ++ ['.', '0', '0'] ∧
      (formatNumber numberFormats v (.text key) = .ok text ↔ Double.Holds n) := by
  have written := formatNumber_amount number amount
  constructor
  · unfold numberOf at number
    split at number
    · next n =>
        cases number
        cases finite
        simp only [written, mapError_eq_ok, writeNumber, formatInt_near_iff, Value.int.injEq, forall_eq']
    · cases number
      obtain ⟨text, made, near⟩ := formatDouble_near finite
      refine iff_of_true ⟨text, by rw [written, mapError_eq_ok, writeNumber, made], near⟩ ?_
      rintro n ⟨⟩
    · cases number
      obtain ⟨text, made, near⟩ := formatDecimal_near finite
      refine iff_of_true ⟨text, by rw [written, mapError_eq_ok, writeNumber, made], near⟩ ?_
      rintro n ⟨⟩
    · cases number
  · rintro n rfl
    cases number
    have decimal := formatNumber_amount (v := .decimal (.ofInt n)) rfl amount
    refine ⟨_, by rw [decimal, mapError_eq_ok, writeNumber, formatDecimal_ofInt], filter_amountText_whole n, ?_⟩
    rw [written, mapError_eq_ok, writeNumber, ← formatDecimal_ofInt, formatInt_eq_iff]

/-- A power of two is held, and another integer with more than 53 bits is not. -/
theorem amount_of_power :
    numberOf (.int (2 ^ 60)) = .ok (.int (2 ^ 60)) ∧
    (Numeric.int (2 ^ 60)).value? = some ((2 ^ 60 : Int) : ℚ) ∧
    (∃ text, formatNumber numberFormats (.int (2 ^ 60)) (.text "currency") = .ok text ∧
      Near text ((2 ^ 60 : Int) : ℚ)) ∧
    ∃ text, formatNumber numberFormats (.int (2 ^ 60)) (.text "decimal") = .ok text ∧
      text.toList.filter (· != ',') = Value.intChars (2 ^ 60) ++ ['.', '0', '0'] := by
  have holds : Double.Holds (2 ^ 60) := ⟨by decide, by decide +kernel⟩
  refine ⟨rfl, rfl, (amounts_are_near rfl rfl (.inr rfl)).1.2 ?_, ?_⟩
  · rintro n ⟨⟩
    exact holds
  · obtain ⟨text, -, digits, written⟩ := (amounts_are_near (v := .int (2 ^ 60)) rfl rfl (.inl rfl)).2 _ rfl
    exact ⟨text, written.2 holds, digits⟩

theorem amount_lost :
    formatNumber numberFormats (.int 9007199254740993) (.text "decimal") =
      .ok "9,007,199,254,740,992.00" ∧
    formatNumber numberFormats (.decimal (.ofInt 9007199254740993)) (.text "decimal") =
      .ok "9,007,199,254,740,993.00" ∧
    formatNumber numberFormats (.int (2 ^ 1024)) (.text "decimal") =
      .error (.overflow "int too large to convert to float") := by
  have wrong : Double.ofInt 9007199254740993 = .finite false 4503599627370496 1 := by decide +kernel
  have wrongText : amountText false 900719925474099200 = "9,007,199,254,740,992.00" := by decide
  have rightText : amountText false 900719925474099300 = "9,007,199,254,740,993.00" := by decide
  have large : Double.ofInt (2 ^ 1024) = .infinite false := by decide +kernel
  refine ⟨?_, ?_, ?_⟩
  · rw [formatNumber_amount rfl (.inl rfl), mapError_eq_ok, writeNumber, formatInt_amount, wrong,
      ← wrongText]
    rfl
  · rw [formatNumber_amount rfl (.inl rfl), mapError_eq_ok, writeNumber, formatDecimal_ofInt, ← rightText]
    rfl
  · rw [formatNumber_amount rfl (.inl rfl), writeNumber, formatInt_amount, large]
    rfl

end Formatting
end DocumentServer
