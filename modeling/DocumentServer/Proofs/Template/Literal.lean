import DocumentServer.Proofs.Markup.StaticUrl
import DocumentServer.Template.Literal

/-!
Literals where references are rewritten. No number has a slash in it, so it is as long as before;
quoted text is as long as before if none of its references gets a dot.
-/
namespace DocumentServer.Template.Literal
open Markup

variable {before : Option Char} {s rest : List Char} {isDigit : Char → Bool} {c : Char}

/-! ## Digits -/

theorem groupedLength_digit (digit : isDigit c = true) (leading : Bool) (rest : List Char) :
    groupedLength isDigit leading (c :: rest) = 1 + groupedLength isDigit true rest := by
  rw [groupedLength.eq_def]
  simp [digit]

theorem groupedLength_joined (plain : isDigit '_' = false) (d : Char) (more : List Char) :
    groupedLength isDigit true ('_' :: d :: more) =
      if isDigit d then 2 + groupedLength isDigit true more else 0 := by
  rw [groupedLength.eq_def]
  simp [plain]

theorem groupedLength_other {leading : Bool} (plain : isDigit c = false)
    (alone : ¬(c == '_' && leading) = true) (rest : List Char) :
    groupedLength isDigit leading (c :: rest) = 0 := by
  rw [groupedLength.eq_def]
  simp [plain, alone]

theorem groupedLength_rewriteFrom (dot : isDigit '.' = false) (slash : isDigit '/' = false)
    (leading : Bool) (before : Option Char) (s : List Char) :
    groupedLength isDigit leading (rewriteFrom before s) = groupedLength isDigit leading s := by
  have other : ∀ {c}, isDigit c = true → c ≠ '/' := by
    rintro c digit rfl
    rw [slash] at digit
    cases digit
  fun_induction groupedLength isDigit leading s generalizing before with
  | case1 => rfl
  | case2 leading c rest digit ih =>
      rw [rewriteFrom_other (other digit), groupedLength_digit digit, ih]
  | case3 leading c plain joined d more digit ih =>
      obtain ⟨rfl, rfl⟩ : c = '_' ∧ leading = true := by simpa using joined
      rw [rewriteFrom_other (by decide), rewriteFrom_other (other digit),
        groupedLength_joined (by simpa using plain), if_pos digit, ih]
  | case4 leading c plain joined d more digit =>
      obtain ⟨rfl, rfl⟩ : c = '_' ∧ leading = true := by simpa using joined
      rw [rewriteFrom_other (by decide), rewriteFrom_cons]
      split
      · rw [groupedLength_joined (by simpa using plain), if_neg (by simp [dot])]
      · rw [groupedLength_joined (by simpa using plain), if_neg digit]
  | case5 leading c plain joined =>
      obtain ⟨rfl, rfl⟩ : c = '_' ∧ leading = true := by simpa using joined
      rw [rewriteFrom_other (by decide), groupedLength.eq_def]
      simp [plain, rewriteFrom]
  | case6 leading c rest plain alone =>
      rw [rewriteFrom_cons]
      split
      · exact groupedLength_other dot (by simp) _
      · exact groupedLength_other (by simpa using plain) alone _

theorem slashless_grouped (slash : isDigit '/' = false) (leading : Bool) (s : List Char) :
    '/' ∉ s.take (groupedLength isDigit leading s) := by
  have other : ∀ {c}, isDigit c = true → '/' ≠ c := by
    rintro c digit rfl
    rw [slash] at digit
    cases digit
  fun_induction groupedLength isDigit leading s with
  | case2 leading c rest digit ih =>
      rw [Nat.add_comm, List.take_succ_cons, List.mem_cons, not_or]
      exact ⟨other digit, ih⟩
  | case3 leading c plain joined d more digit ih =>
      obtain ⟨rfl, rfl⟩ : c = '_' ∧ leading = true := by simpa using joined
      rw [Nat.add_comm, List.take_succ_cons, List.take_succ_cons, List.mem_cons, List.mem_cons,
        not_or, not_or]
      exact ⟨by decide, other digit, ih⟩
  | _ => simp

theorem steady_grouped (dot : isDigit '.' = false) (slash : isDigit '/' = false) (leading : Bool) :
    Steady (groupedLength isDigit leading) :=
  ⟨groupedLength_rewriteFrom dot slash leading, slashless_grouped slash leading⟩

theorem steady_digits : Steady (groupedLength Char.isDigit false) :=
  steady_grouped (by decide) (by decide) false

/-! ## Fractions and exponents -/

theorem fractionLength_other (other : c ≠ '.') (rest : List Char) :
    fractionLength (c :: rest) = 0 := by
  simp [fractionLength, other]

theorem steady_fraction : Steady fractionLength := by
  constructor
  · intro before s
    cases s with
    | nil => rfl
    | cons c rest =>
        by_cases point : c = '.'
        · subst point
          rw [rewriteFrom_other (by decide), fractionLength, fractionLength, steady_digits.same]
        · rw [fractionLength_other point, rewriteFrom_cons]
          split
          · next dotted =>
              rw [slash_of_getsDot dotted, fractionLength,
                groupedLength_other (by decide) (by decide)]
              rfl
          · exact fractionLength_other point _
  · intro s
    cases s with
    | nil => simp
    | cons c rest =>
        by_cases point : c = '.'
        · subst point
          rw [fractionLength]
          split
          · simp
          · rw [Nat.add_comm, List.take_succ_cons, List.mem_cons, not_or]
            exact ⟨by decide, steady_digits.slashless rest⟩
        · rw [fractionLength_other point]
          simp

/-- The length of a sign. -/
def signOf : List Char → Nat
  | '+' :: _ => 1
  | '-' :: _ => 1
  | _ => 0

theorem signOf_other (plus : c ≠ '+') (minus : c ≠ '-') (rest : List Char) :
    signOf (c :: rest) = 0 := by
  simp [signOf, plus, minus]

theorem steady_sign : Steady signOf := by
  constructor
  · intro before s
    cases s with
    | nil => rfl
    | cons c rest =>
        by_cases plus : c = '+'
        · rw [plus, rewriteFrom_other (by decide)]
          rfl
        by_cases minus : c = '-'
        · rw [minus, rewriteFrom_other (by decide)]
          rfl
        rw [signOf_other plus minus, rewriteFrom_cons]
        split
        · exact signOf_other (by decide) (by decide) _
        · exact signOf_other plus minus _
  · intro s
    cases s with
    | nil => simp
    | cons c rest =>
        by_cases plus : c = '+'
        · simp [plus, signOf]
        by_cases minus : c = '-'
        · simp [minus, signOf]
        simp [signOf_other plus minus]

theorem exponentLength_cons (c : Char) (rest : List Char) :
    exponentLength (c :: rest) =
      if c == 'e' || c == 'E' then
        if groupedLength Char.isDigit false (rest.drop (signOf rest)) == 0 then 0
        else 1 + signOf rest + groupedLength Char.isDigit false (rest.drop (signOf rest))
      else 0 := rfl

theorem exponentLength_rewriteFrom (before : Option Char) (s : List Char) :
    exponentLength (rewriteFrom before s) = exponentLength s := by
  cases s with
  | nil => rfl
  | cons c rest =>
      rw [rewriteFrom_cons, exponentLength_cons c]
      split
      · next dotted =>
          rw [slash_of_getsDot dotted]
          rfl
      · rw [exponentLength_cons, steady_sign.same, steady_sign.drop, steady_digits.same]

theorem doubleLength_rewriteFrom (before : Option Char) (s : List Char) :
    doubleLength (rewriteFrom before s) = doubleLength s := by
  rw [doubleLength, doubleLength]
  simp only [steady_digits.same, ← List.drop_drop, steady_digits.drop, steady_fraction.same,
    steady_fraction.drop, exponentLength_rewriteFrom]

/-! ## Integers -/

theorem radixLength_other {mark : Char} (other : c ≠ '0') (rest : List Char) :
    radixLength mark isDigit (c :: rest) = 0 := by
  simp [radixLength, other]

/-- Nothing gets a dot behind a digit. -/
theorem radixLength_rewriteFrom (isDigit : Char → Bool) (dot : isDigit '.' = false)
    (slash : isDigit '/' = false) (mark : Char) (before : Option Char) (s : List Char) :
    radixLength mark isDigit (rewriteFrom before s) = radixLength mark isDigit s := by
  cases s with
  | nil => rfl
  | cons c rest =>
      by_cases zero : c = '0'
      · subst zero
        rw [rewriteFrom_other (by decide)]
        cases rest with
        | nil => rfl
        | cons d more =>
            have joined : getsDot (some '0') (d :: more) = false := by
              have continues : continuesPath '0' = true := by decide
              rw [getsDot, Option.any_some, continues, Bool.not_true, Bool.and_false]
            rw [rewriteFrom_plain joined, radixLength, radixLength,
              (steady_grouped dot slash true).same]
      · rw [radixLength_other zero, rewriteFrom_cons]
        split
        · exact radixLength_other (by decide) _
        · exact radixLength_other zero _

/-- The length of an integer without the mark of a base. -/
def decimalLength : List Char → Nat
  | '0' :: rest => groupedLength (· == '0') false ('0' :: rest)
  | c :: rest => if c.isDigit then groupedLength Char.isDigit false (c :: rest) else 0
  | [] => 0

theorem decimalLength_other (zero : c ≠ '0') (rest : List Char) :
    decimalLength (c :: rest) =
      if c.isDigit then groupedLength Char.isDigit false (c :: rest) else 0 := by
  simp [decimalLength]

theorem decimalLength_rewriteFrom (before : Option Char) (s : List Char) :
    decimalLength (rewriteFrom before s) = decimalLength s := by
  have zeros : Steady (groupedLength (· == '0') false) := steady_grouped (by decide) (by decide) _
  cases s with
  | nil => rfl
  | cons c rest =>
      by_cases zero : c = '0'
      · subst zero
        rw [decimalLength, ← zeros.same before, rewriteFrom_other (by decide), decimalLength]
      · rw [decimalLength_other zero, ← steady_digits.same before, rewriteFrom_cons]
        split
        · next dotted =>
            rw [slash_of_getsDot dotted]
            rfl
        · exact decimalLength_other zero _

theorem integerLength_eq (s : List Char) :
    integerLength s =
      if radixLength 'b' isBinary s != 0 then (radixLength 'b' isBinary s, 2)
      else if radixLength 'o' isOctal s != 0 then (radixLength 'o' isOctal s, 8)
      else if radixLength 'x' Text.isHexDigit s != 0 then (radixLength 'x' Text.isHexDigit s, 16)
      else (decimalLength s, 10) := by
  cases s with
  | nil => rfl
  | cons c rest =>
      by_cases zero : c = '0'
      · subst zero
        rfl
      · rw [decimalLength_other zero]
        unfold integerLength
        split <;> grind

theorem integerLength_rewriteFrom (before : Option Char) (s : List Char) :
    integerLength (rewriteFrom before s) = integerLength s := by
  simp only [integerLength_eq, decimalLength_rewriteFrom,
    radixLength_rewriteFrom isBinary (by decide) (by decide),
    radixLength_rewriteFrom isOctal (by decide) (by decide),
    radixLength_rewriteFrom Text.isHexDigit (by decide) (by decide)]

/-! ## Quoted text -/

theorem cons_of_take_succ {t : List Char} {n : Nat} {part : List Char}
    (same : t.take (n + 1) = c :: part) : ∃ more, t = c :: more ∧ more.take n = part := by
  cases t with
  | nil => cases same
  | cons d more =>
      rw [List.take_succ_cons, List.cons.injEq] at same
      exact ⟨more, by rw [same.1], same.2⟩

theorem quotedLength_plain {mark : Char} (plain : c ≠ '\\') (rest : List Char) :
    quotedLength mark (c :: rest) =
      if c == mark then some 1 else (quotedLength mark rest).map (· + 1) := by
  rw [quotedLength.eq_3]
  exact fun _ _ escape _ => plain escape

/-- The length of quoted text does not depend on what follows it. -/
theorem quotedLength_of_take {mark : Char} (plain : mark ≠ '\\') {n : Nat} {t : List Char}
    (found : quotedLength mark s = some n) (same : t.take n = s.take n) :
    quotedLength mark t = some n := by
  fun_induction quotedLength mark s generalizing n t with
  | case1 => cases found
  | case2 d rest ih =>
      obtain ⟨m, inner, rfl⟩ := Option.map_eq_some_iff.1 found
      obtain ⟨tail, rfl, inside⟩ := cons_of_take_succ same
      obtain ⟨more, rfl, behind⟩ := cons_of_take_succ inside
      rw [quotedLength, ih inner behind]
      rfl
  | case3 c rest single closes =>
      cases found
      obtain ⟨more, rfl, -⟩ := cons_of_take_succ same
      obtain rfl : c = mark := by simpa using closes
      rw [quotedLength_plain plain, if_pos closes]
  | case4 c rest single goes ih =>
      obtain ⟨m, inner, rfl⟩ := Option.map_eq_some_iff.1 found
      obtain ⟨more, rfl, behind⟩ := cons_of_take_succ same
      have letter : c ≠ '\\' := by
        rintro rfl
        cases rest with
        | nil => cases inner
        | cons d rest => exact single d rest rfl rfl
      rw [quotedLength_plain letter, if_neg goes, ih inner behind]
      rfl

end DocumentServer.Template.Literal
