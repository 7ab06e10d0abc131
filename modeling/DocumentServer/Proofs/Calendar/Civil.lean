import DocumentServer.Calendar.Date
import Mathlib.Tactic.ByContra

/-!
Year, month and day of a day number. Every day number has one valid civil date and every valid civil
date one day number, and both count in the same order.
-/
namespace DocumentServer.Calendar

/-! ## Years -/

def yearLength (year : Int) : Int := if isLeap year then 366 else 365

theorem isLeap_iff (year : Int) :
    isLeap year = true ↔ year % 4 = 0 ∧ (year % 100 ≠ 0 ∨ year % 400 = 0) := by
  simp [isLeap]

theorem daysBeforeYear_eq (year : Int) : daysBeforeYear year =
    (year - 1) * 365 + (year - 1) / 4 - (year - 1) / 100 + (year - 1) / 400 := rfl

theorem daysBeforeYear_succ (year : Int) :
    daysBeforeYear (year + 1) = daysBeforeYear year + yearLength year := by
  rw [daysBeforeYear_eq, daysBeforeYear_eq, yearLength]
  by_cases leap : isLeap year = true
  · rw [if_pos leap]
    rw [isLeap_iff] at leap
    omega
  · rw [if_neg leap]
    rw [isLeap_iff] at leap
    omega

theorem daysBeforeYear_mono {year later : Int} (le : year ≤ later) :
    daysBeforeYear year ≤ daysBeforeYear later := by
  rw [daysBeforeYear_eq, daysBeforeYear_eq]
  omega

/-- The guess from the mean length of a year is never too late, and at most one year too early. -/
theorem yearOfDay_spec (n : Int) :
    daysBeforeYear (yearOfDay n) < n ∧ n ≤ daysBeforeYear (yearOfDay n + 1) := by
  have below : daysBeforeYear ((n - 1) * 400 / 146097 + 1) < n := by
    rw [daysBeforeYear_eq]
    omega
  have above : n ≤ daysBeforeYear ((n - 1) * 400 / 146097 + 1 + 1 + 1) := by
    rw [daysBeforeYear_eq]
    omega
  simp only [yearOfDay, if_pos below]
  split
  · next later => exact ⟨later, above⟩
  · next notLater => exact ⟨below, Int.not_lt.1 notLater⟩

/-! ## Months -/

/-- The days of the first months. -/
def daysIn (lengths : List Nat) (months : Nat) : Nat := (lengths.take months).foldr (· + ·) 0

theorem daysIn_cons_succ (length : Nat) (rest : List Nat) (months : Nat) :
    daysIn (length :: rest) (months + 1) = length + daysIn rest months := rfl

theorem daysIn_mono (lengths : List Nat) {months more : Nat} (le : months ≤ more) :
    daysIn lengths months ≤ daysIn lengths more := by
  induction lengths generalizing months more with
  | nil => simp [daysIn]
  | cons length rest ih =>
      cases months with
      | zero => exact Nat.zero_le _
      | succ months =>
          obtain ⟨more, rfl⟩ := Nat.exists_eq_add_of_le' (show 1 ≤ more by omega)
          have := ih (show months ≤ more by omega)
          rw [daysIn_cons_succ, daysIn_cons_succ]
          omega

theorem daysIn_succ (lengths : List Nat) (months : Nat) :
    daysIn lengths (months + 1) = daysIn lengths months + lengths.getD months 0 := by
  induction lengths generalizing months with
  | nil => simp [daysIn]
  | cons length rest ih =>
      cases months with
      | zero => simp [daysIn]
      | succ months =>
          rw [daysIn_cons_succ, daysIn_cons_succ, ih, List.getD_cons_succ]
          omega

/-- The month that is found holds the day, counted from the months before it. -/
theorem monthOfDay_spec (lengths : List Nat) (first day : Nat) (least : 1 ≤ day)
    (within : day ≤ daysIn lengths lengths.length) :
    ∃ months, months < lengths.length ∧ (monthOfDay first lengths day).1 = first + months ∧
      1 ≤ (monthOfDay first lengths day).2 ∧
      (monthOfDay first lengths day).2 ≤ lengths.getD months 0 ∧
      daysIn lengths months + (monthOfDay first lengths day).2 = day := by
  induction lengths generalizing first day with
  | nil =>
      have : daysIn [] ([] : List Nat).length = 0 := rfl
      omega
  | cons length rest ih =>
      by_cases here : day ≤ length
      · rw [monthOfDay, if_pos here]
        exact ⟨0, Nat.succ_pos _, rfl, least, here, Nat.zero_add day⟩
      · rw [List.length_cons, daysIn_cons_succ] at within
        obtain ⟨months, inside, month, one, most, sum⟩ :=
          ih (first + 1) (day - length) (by omega) (by omega)
        rw [monthOfDay, if_neg here]
        refine ⟨months + 1, Nat.succ_lt_succ inside, by rw [month]; omega, one, most, ?_⟩
        rw [daysIn_cons_succ]
        omega

theorem length_monthLengths (leap : Bool) : (monthLengths leap).length = 12 := rfl

theorem daysIn_monthLengths (year : Int) :
    (daysIn (monthLengths (isLeap year)) 12 : Int) = yearLength year := by
  unfold yearLength
  cases isLeap year <;> rfl

theorem monthLength_le (year : Int) (month : Nat) : monthLength year month ≤ 31 := by
  have bound : ∀ leap, ∀ length ∈ monthLengths leap, length ≤ 31 := by decide
  rw [monthLength, List.getD_eq_getElem?_getD]
  cases found : (monthLengths (isLeap year))[month - 1]? with
  | none => exact Nat.zero_le 31
  | some length => exact bound _ length (List.mem_of_getElem? found)

theorem daysBeforeMonth_eq (year : Int) (month : Nat) :
    daysBeforeMonth year month = daysIn (monthLengths (isLeap year)) (month - 1) := rfl

/-! ## Civil dates -/

/-- A date of the calendar of any year. -/
structure Civil.Proper (c : Civil) : Prop where
  month_pos : 1 ≤ c.month
  month_le : c.month ≤ 12
  day_pos : 1 ≤ c.day
  day_le : c.day ≤ monthLength c.year c.month

theorem Civil.isValid_iff (c : Civil) :
    c.isValid = true ↔ 1 ≤ c.year ∧ c.year ≤ 9999 ∧ c.Proper := by
  simp only [isValid, Bool.and_eq_true, decide_eq_true_eq]
  constructor
  · rintro ⟨⟨⟨⟨⟨low, high⟩, month⟩, most⟩, day⟩, last⟩
    exact ⟨low, high, month, most, day, last⟩
  · rintro ⟨low, high, month, most, day, last⟩
    exact ⟨⟨⟨⟨⟨low, high⟩, month⟩, most⟩, day⟩, last⟩

namespace Civil.Proper

variable {c : Civil}

/-- The days of the months up to a month end where the next month begins. -/
theorem day_of_year_le (proper : c.Proper) :
    daysBeforeMonth c.year c.month + c.day ≤ daysBeforeMonth c.year (c.month + 1) := by
  obtain ⟨month, hm⟩ := Nat.exists_eq_add_of_le' proper.month_pos
  have last := proper.day_le
  rw [monthLength, hm, Nat.add_sub_cancel] at last
  rw [daysBeforeMonth_eq, daysBeforeMonth_eq, hm, Nat.add_sub_cancel, Nat.add_sub_cancel,
    daysIn_succ]
  omega

theorem day_of_year_le_yearLength (proper : c.Proper) :
    (daysBeforeMonth c.year c.month + c.day : Int) ≤ yearLength c.year := by
  have here := proper.day_of_year_le
  have rest := daysIn_mono (monthLengths (isLeap c.year)) proper.month_le
  rw [daysBeforeMonth_eq, daysBeforeMonth_eq, Nat.add_sub_cancel] at here
  rw [daysBeforeMonth_eq, ← daysIn_monthLengths]
  omega

/-- A civil date lies in its year. -/
theorem within_year (proper : c.Proper) :
    daysBeforeYear c.year < dayNumber c ∧ dayNumber c ≤ daysBeforeYear (c.year + 1) := by
  have day := proper.day_pos
  have last := proper.day_of_year_le_yearLength
  rw [daysBeforeYear_succ, dayNumber]
  omega

end Civil.Proper

theorem civilOfDay_eq (n : Int) : civilOfDay n =
    { year := yearOfDay n,
      month := (monthOfDay 1 (monthLengths (isLeap (yearOfDay n)))
        (n - daysBeforeYear (yearOfDay n)).toNat).1,
      day := (monthOfDay 1 (monthLengths (isLeap (yearOfDay n)))
        (n - daysBeforeYear (yearOfDay n)).toNat).2 } := rfl

/-- A day number is that of its civil date. -/
theorem civilOfDay_spec (n : Int) : (civilOfDay n).Proper ∧ dayNumber (civilOfDay n) = n := by
  obtain ⟨below, above⟩ := yearOfDay_spec n
  rw [daysBeforeYear_succ, ← daysIn_monthLengths] at above
  obtain ⟨months, inside, month, one, most, sum⟩ :=
    monthOfDay_spec (monthLengths (isLeap (yearOfDay n))) 1 (n - daysBeforeYear (yearOfDay n)).toNat
      (by omega) (by rw [length_monthLengths]; omega)
  rw [length_monthLengths] at inside
  have index : 1 + months - 1 = months := by omega
  rw [civilOfDay_eq, month]
  refine ⟨⟨Nat.le_add_right _ _, by simp only; omega, one, ?_⟩, ?_⟩
  · simp only [monthLength, index]
    exact most
  · simp only [dayNumber, daysBeforeMonth_eq, index]
    omega

/-- The order of civil dates: by year, then by month, then by day. -/
def Civil.Before (c e : Civil) : Prop :=
  c.year < e.year ∨ c.year = e.year ∧ (c.month < e.month ∨ c.month = e.month ∧ c.day < e.day)

variable {c e : Civil}

theorem Civil.Before.dayNumber_lt (before : c.Before e) (hc : c.Proper) (he : e.Proper) :
    dayNumber c < dayNumber e := by
  rcases before with year | ⟨year, month | ⟨month, day⟩⟩
  · have := daysBeforeYear_mono (show c.year + 1 ≤ e.year by omega)
    have := hc.within_year.2
    have := he.within_year.1
    omega
  · have here := hc.day_of_year_le
    have there := daysIn_mono (monthLengths (isLeap e.year)) (show c.month ≤ e.month - 1 by omega)
    have one := he.day_pos
    rw [daysBeforeMonth_eq _ (c.month + 1), Nat.add_sub_cancel, year] at here
    rw [dayNumber, dayNumber, year, daysBeforeMonth_eq e.year e.month]
    omega
  · rw [dayNumber, dayNumber, year, month]
    omega

theorem Civil.before_trichotomy (c e : Civil) : c.Before e ∨ c = e ∨ e.Before c := by
  rcases c with ⟨year, month, day⟩
  rcases e with ⟨year', month', day'⟩
  simp only [Before, Civil.mk.injEq]
  omega

/-- Civil dates and their day numbers are in the same order. -/
theorem dayNumber_lt_iff (hc : c.Proper) (he : e.Proper) :
    dayNumber c < dayNumber e ↔ c.Before e := by
  constructor
  · intro less
    rcases c.before_trichotomy e with before | same | after
    · exact before
    · subst same
      exact absurd less (Int.lt_irrefl _)
    · have := after.dayNumber_lt he hc
      omega
  · exact fun before => before.dayNumber_lt hc he

/-- A civil date is that of its day number. -/
theorem civilOfDay_dayNumber (proper : c.Proper) : civilOfDay (dayNumber c) = c := by
  obtain ⟨proper', same⟩ := civilOfDay_spec (dayNumber c)
  rcases (civilOfDay (dayNumber c)).before_trichotomy c with before | equal | after
  · have := before.dayNumber_lt proper' proper
    omega
  · exact equal
  · have := after.dayNumber_lt proper proper'
    omega

/-! ## Dates of the years 1 to 9999 -/

namespace Date

theorem ofDay?_eq_some {n : Int} {d : Date} : ofDay? n = some d ↔ (d.ordinal : Int) = n := by
  have least := d.one_le
  have most := d.le_last
  unfold ofDay?
  split
  · next inside =>
      rw [Option.some.injEq]
      constructor
      · rintro rfl
        show ((n.toNat : Nat) : Int) = n
        omega
      · intro told
        rcases d with ⟨ordinal, _, _⟩
        have : n.toNat = ordinal := by
          simp only at told
          omega
        simp [this]
  · next outside =>
      simp only [reduceCtorEq, false_iff]
      omega

theorem civil_proper (d : Date) : d.civil.Proper := (civilOfDay_spec d.ordinal).1

theorem dayNumber_civil (d : Date) : dayNumber d.civil = d.ordinal := (civilOfDay_spec d.ordinal).2

theorem civil_year (d : Date) : 1 ≤ d.civil.year ∧ d.civil.year ≤ 9999 := by
  have first := d.one_le
  have last := d.le_last
  obtain ⟨below, above⟩ := d.civil_proper.within_year
  rw [d.dayNumber_civil] at below above
  constructor
  · by_contra early
    have before := daysBeforeYear_mono (show d.civil.year + 1 ≤ 1 by omega)
    have : daysBeforeYear 1 = 0 := rfl
    omega
  · by_contra late
    have after := daysBeforeYear_mono (show 9999 + 1 ≤ d.civil.year by omega)
    have : daysBeforeYear (9999 + 1) = lastDay := by decide
    omega

theorem civil_isValid (d : Date) : d.civil.isValid = true :=
  (Civil.isValid_iff _).2 ⟨d.civil_year.1, d.civil_year.2, d.civil_proper⟩

/-- A date is read back from its civil date. -/
theorem ofCivil?_civil (d : Date) : ofCivil? d.civil = some d := by
  rw [ofCivil?, if_pos d.civil_isValid, d.dayNumber_civil, ofDay?_eq_some]

/-- Dates count in the order of their civil dates. -/
theorem ordinal_lt_iff (d e : Date) : d.ordinal < e.ordinal ↔ d.civil.Before e.civil := by
  rw [← dayNumber_lt_iff d.civil_proper e.civil_proper, d.dayNumber_civil, e.dayNumber_civil,
    Int.ofNat_lt]

end Date
end DocumentServer.Calendar
