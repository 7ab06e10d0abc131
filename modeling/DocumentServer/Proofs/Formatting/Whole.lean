import DocumentServer.Formatting.Numbers
import DocumentServer.Proofs.Formatting.Formats
import DocumentServer.Proofs.Number.Layout
import DocumentServer.Proofs.Number.WholePart
import DocumentServer.Proofs.Text.Integer

/-!
Whole numbers in groups of three digits. A number of any kind loses its fraction without rounding, and the
text of what is left is the only one that its digits have in groups.
-/
namespace DocumentServer
open Number

namespace Formatting

variable {x : Numeric} {q : ℚ}

theorem wholeNumber_eq (value : x.value? = some q) : wholeNumber x = .ok (towardZero q) := by
  cases x with
  | int n =>
      cases value
      rw [towardZero_int]
      rfl
  | double x =>
      have part := Double.truncate?_of_value? value
      cases x with
      | finite s m e => exact congrArg (fun whole? => Except.ok (whole?.getD 0)) part
      | infinite s => cases value
      | nan => cases value
  | decimal d =>
      have part := Decimal.truncate?_of_value? value
      cases d with
      | finite s c e => exact congrArg (fun whole? => Except.ok (whole?.getD 0)) part
      | infinite s => cases value
      | nan s signaling payload => cases value

end Formatting

/-! ## Numerals in groups -/

namespace Layout
open Text

/-- The text of an integer in groups: a sign if it is negative, one to three digits without a zero in front
of others, and groups of three digits, each behind a comma. -/
structure Grouped (n : Int) (text : String) (front : List Char) (groups : List (List Char)) : Prop
    extends Groups 3 front groups where
  text_eq : text.toList = (if n < 0 then ['-'] else []) ++ (front ++ groups.flatMap (',' :: ·))
  digits : ∀ c ∈ front ++ groups.flatten, c.isDigit = true
  no_zero : front.head? = some '0' → front = ['0'] ∧ groups = []
  number : Nat.ofDigitChars 10 (front ++ groups.flatten) 0 = n.natAbs

variable {n : Int} {text text' : String} {front front' : List Char} {groups groups' : List (List Char)}

theorem Grouped.toDigits (grouped : Grouped n text front groups) :
    front ++ groups.flatten = Nat.toDigits 10 n.natAbs := by
  have some : front ≠ [] := List.ne_nil_of_length_pos grouped.front_pos
  rw [← grouped.number]
  refine eq_toDigits (List.append_ne_nil_of_left_ne_nil some _) grouped.digits fun zero => ?_
  rw [List.head?_append_of_ne_nil _ some] at zero
  obtain ⟨rfl, rfl⟩ := grouped.no_zero zero
  rfl

theorem Grouped.unique (grouped : Grouped n text front groups) (other : Grouped n text' front' groups') :
    text = text' := by
  obtain ⟨rfl, rfl⟩ := grouped.toGroups.unique other.toGroups (grouped.toDigits.trans other.toDigits.symm)
  exact String.toList_inj.1 (grouped.text_eq.trans other.text_eq.symm)

/-- The digits of an integer in groups of three. -/
def groupedText (n : Int) : String :=
  .ofList ((if n < 0 then ['-'] else []) ++ groupDigits 3 ',' (Nat.toDigits 10 n.natAbs))

theorem grouped_groupedText (n : Int) : ∃ front groups, Grouped n (groupedText n) front groups := by
  obtain ⟨front, groups, cut, told, grouped⟩ :=
    groupDigits_groups (by decide : 0 < 3) ',' (Nat.toDigits_ne_nil (b := 10) (n := n.natAbs))
  refine ⟨front, groups, cut, ?_, ?_, ?_, ?_⟩
  · rw [groupedText, String.toList_ofList, grouped]
  · rw [← told]
    exact all_isDigit_numeral n.natAbs
  · intro zero
    have some : front ≠ [] := List.ne_nil_of_length_pos cut.front_pos
    have nothing : n.natAbs = 0 := by
      refine eq_zero_of_head?_toDigits ?_
      rw [told, List.head?_append_of_ne_nil _ some, zero]
    rw [nothing] at told
    exact cut.unique ⟨Nat.le_refl 1, by decide, List.forall_mem_nil _⟩ told.symm
  · rw [← told, Nat.ofDigitChars_ten_toDigits]

/-- Without its commas the text is the plain numeral. -/
theorem filter_groupedText (n : Int) :
    .ofList ((groupedText n).toList.filter (· != ',')) = Value.intText n := by
  have plain : ',' ∉ Nat.toDigits 10 n.natAbs := by
    intro mem
    exact absurd (all_isDigit_numeral n.natAbs ',' mem) (by decide)
  rw [groupedText, String.toList_ofList, List.filter_append, filter_groupDigits 3 plain, Value.intText,
    Value.intChars]
  split <;> rfl

/-- The specification that the text `,d` stands for. -/
def integerSpec : Spec := { separator := some ',', kind := some 'd' }

theorem readSpec_integer (type : String) : readSpec type ",d" = .ok integerSpec := rfl

theorem layInteger_integer (n : Int) : layInteger integerSpec n =
    integerDigits 'd' n.natAbs >>= fun digits =>
      .ok (lay integerSpec 3 { negative := n < 0, whole := digits }) := rfl

theorem integerDigits_decimal {m : Nat} (fits : (Nat.toDigits 10 m).length ≤ maxNumeralDigits) :
    integerDigits 'd' m = .ok (Nat.toDigits 10 m) := by
  have few : ¬maxNumeralDigits < (Nat.toDigits (radixOf 'd') m).length := Nat.not_lt.2 fits
  simp only [integerDigits, few, decide_false, Bool.and_false, Bool.false_eq_true, if_false]
  rfl

theorem formatInt_integer (fits : (Nat.toDigits 10 n.natAbs).length ≤ maxNumeralDigits) :
    formatInt ",d" n = .ok (groupedText n) := by
  have known : integerKinds.contains 'd' = true := by decide
  have kind : integerSpec.kind = some 'd' := rfl
  rw [formatInt, readSpec_integer, ok_bind, kind]
  simp only [known, if_true, layInteger_integer, integerDigits_decimal fits, ok_bind]
  rw [lay_narrow rfl 3 Nat.toDigits_ne_nil, integerSpec, wholeText_grouped, groupedText]
  by_cases negative : n < 0
  · simp [negative, signChars]
    rfl
  · simp [negative, signChars]
    rfl

end Layout

namespace Formatting
open Layout

variable {v : Value} {x : Numeric} {q : ℚ}

theorem formatNumber_integer (number : numberOf v = .ok x) (value : x.value? = some q) :
    formatNumber numberFormats v (.text "integer") =
      (formatInt ",d" (towardZero q)).mapError formatFault := by
  have format : definition "number" numberFormats (.text "integer") = .ok (.text ",d") :=
    definition_named "number" rfl
  have whole : writeByDefinition ",d" x =
      Numeric.int <$> wholeNumber x >>= fun x => (writeNumber ",d" x).mapError formatFault := rfl
  rw [formatNumber, number, ok_bind, format, ok_bind]
  show writeByDefinition ",d" x = _
  rw [whole, wholeNumber_eq value]
  rfl

/-- Under the key `integer` every finite number whose whole part has at most 4300 digits is written as
that part in groups of three digits. There is no other such text, and without its commas it is the numeral
that is read as the whole part. -/
theorem integers_are_grouped (number : numberOf v = .ok x) (value : x.value? = some q)
    (fits : (Nat.toDigits 10 (towardZero q).natAbs).length ≤ 4300) :
    ∃ text, formatNumber numberFormats v (.text "integer") = .ok text ∧
      (∃ front groups, Grouped (towardZero q) text front groups) ∧
      (∀ other front groups, Grouped (towardZero q) other front groups → other = text) ∧
      .ofList (text.toList.filter (· != ',')) = Value.intText (towardZero q) ∧
      Text.integer? (.ofList (text.toList.filter (· != ','))) = some (towardZero q) := by
  obtain ⟨front, groups, grouped⟩ := grouped_groupedText (towardZero q)
  refine ⟨groupedText (towardZero q), ?_, ⟨front, groups, grouped⟩, ?_, filter_groupedText _, ?_⟩
  · rw [formatNumber_integer number value, formatInt_integer fits]
    rfl
  · exact fun other front' groups' same => same.unique grouped
  · rw [filter_groupedText, Text.integer?_intText fits]

/-- A half is cut off, and not rounded up to an eighth digit. -/
theorem half_cut_off :
    numberOf (.decimal (.finite true 99999995 (-1))) = .ok (.decimal (.finite true 99999995 (-1))) ∧
    (Numeric.decimal (.finite true 99999995 (-1))).value? = some (-19999999 / 2) ∧
    (Nat.toDigits 10 (towardZero (-19999999 / 2)).natAbs).length ≤ 4300 ∧
    formatNumber numberFormats (.decimal (.finite true 99999995 (-1))) (.text "integer") =
      .ok "-9,999,999" := by
  have value : (Numeric.decimal (.finite true 99999995 (-1))).value? = some (-19999999 / 2) := by
    norm_num [Numeric.value?, Decimal.value?, Double.signed]
  have whole : towardZero (-19999999 / 2) = -9999999 := by
    norm_num [towardZero]
  have fits : (Nat.toDigits 10 (towardZero (-19999999 / 2)).natAbs).length ≤ 4300 := by
    rw [whole]
    decide
  obtain ⟨text, written, -, only, -⟩ := integers_are_grouped
    (v := .decimal (.finite true 99999995 (-1))) rfl value fits
  have grouped : Grouped (towardZero (-19999999 / 2)) "-9,999,999" ['9']
      [['9', '9', '9'], ['9', '9', '9']] := by
    rw [whole]
    exact ⟨⟨by decide, by decide, by decide⟩, by decide, List.all_eq_true.1 (by decide), by decide, by decide⟩
  exact ⟨rfl, value, fits, by rw [written, only _ _ _ grouped]⟩

end Formatting
end DocumentServer
