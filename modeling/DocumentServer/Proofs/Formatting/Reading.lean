import DocumentServer.Proofs.Formatting.NormalForm

/-!
The two readers of ISO text: the one of the date filters, which tries a date alone first, and the one of
timestamps. They agree on every text but one kind. In a text of ten octets a date without hyphens is
read as a date alone although something follows it, which the reader of timestamps takes as a time.
-/
namespace DocumentServer
open Calendar

namespace Calendar.Iso
open Text

variable {a b c e f g h i j k : Char} {rest : List Char} {d : Date}

/-! ## Octets one by one -/

theorem four_octets {s : List Char} (four : s.length = 4) : ∃ a b c e, s = [a, b, c, e] := by
  obtain ⟨a, rest, rfl⟩ := List.exists_cons_of_length_pos (show 0 < s.length by omega)
  obtain ⟨b, c, e, rfl⟩ := List.length_eq_three.1 (Nat.succ.inj four)
  exact ⟨a, b, c, e, rfl⟩

theorem eight_octets {s : List Char} (eight : s.length = 8) :
    ∃ a b c e f g h i, s = [a, b, c, e, f, g, h, i] := by
  obtain ⟨a, b, c, e, first⟩ := four_octets (show (s.take 4).length = 4 by simp [eight])
  obtain ⟨f, g, h, i, last⟩ := four_octets (show (s.drop 4).length = 4 by simp [eight])
  refine ⟨a, b, c, e, f, g, h, i, ?_⟩
  rw [← List.take_append_drop 4 s, first, last]
  rfl

theorem ten_octets {s : List Char} (ten : s.length = 10) :
    ∃ a b c e f g h i j k, s = [a, b, c, e, f, g, h, i, j, k] := by
  obtain ⟨a, b, c, e, f, g, h, i, first⟩ := eight_octets (show (s.take 8).length = 8 by simp [ten])
  obtain ⟨j, k, last⟩ := List.length_eq_two.1 (show (s.drop 8).length = 2 by simp [ten])
  refine ⟨a, b, c, e, f, g, h, i, j, k, ?_⟩
  rw [← List.take_append_drop 8 s, first, last]
  rfl


theorem digits?_split (ds rest : List Char) : digits? ds.length (ds ++ rest) =
    if ds.all Char.isDigit then some (Nat.ofDigitChars 10 ds 0, rest) else none := by
  simp [digits?, ofDigitValues_map]

theorem digits?_one (a : Char) (rest : List Char) : digits? 1 (a :: rest) =
    if [a].all Char.isDigit then some (Nat.ofDigitChars 10 [a] 0, rest) else none :=
  digits?_split [a] rest

theorem digits?_two (a b : Char) (rest : List Char) : digits? 2 (a :: b :: rest) =
    if [a, b].all Char.isDigit then some (Nat.ofDigitChars 10 [a, b] 0, rest) else none :=
  digits?_split [a, b] rest

theorem digits?_four (a b c e : Char) (rest : List Char) : digits? 4 (a :: b :: c :: e :: rest) =
    if [a, b, c, e].all Char.isDigit then some (Nat.ofDigitChars 10 [a, b, c, e] 0, rest) else none :=
  digits?_split [a, b, c, e] rest

theorem digits?_short {count : Nat} {s : List Char} (short : s.length < count) :
    digits? count s = none := by
  have less : ((s.take count).length == count) = false := by
    rw [List.length_take, beq_eq_false_iff_ne]
    omega
  simp only [digits?, less, Bool.false_and, Bool.false_eq_true, if_false]

/-! ## Dates -/

/-- A date begins with the digits of its year. -/
theorem year_of_dateWithin? {length : Nat} (read : dateWithin? length (a :: b :: c :: e :: rest) = some d) :
    [a, b, c, e].all Char.isDigit = true := by
  rw [dateWithin?, digits?_four] at read
  split at read
  · next digits => exact digits
  · cases read

/-- A week stands behind its letter, and the day of the week only within the date. -/
theorem dateWithin?_week (length : Nat) (year : [a, b, c, e].all Char.isDigit = true)
    (g h : Char) (rest : List Char) :
    dateWithin? length (a :: b :: c :: e :: 'W' :: g :: h :: rest) =
      if [g, h].all Char.isDigit then
        if 7 < length then
          (digits? 1 rest).bind fun day => Date.ofWeek? (Nat.ofDigitChars 10 [a, b, c, e] 0)
            (Nat.ofDigitChars 10 [g, h] 0) day.1
        else Date.ofWeek? (Nat.ofDigitChars 10 [a, b, c, e] 0) (Nat.ofDigitChars 10 [g, h] 0) 1
      else none := by
  have taken : (a :: b :: c :: e :: 'W' :: g :: h :: rest).length - rest.length = 7 := by
    simp only [List.length_cons]
    omega
  have letter : ('W' == '-') = false := by decide
  simp only [dateWithin?, digits?_four, year, if_true, Option.bind_eq_bind, Option.bind_some,
    List.head?_cons, Option.some_beq_some, letter, Bool.false_eq_true, if_false, beq_self_eq_true,
    List.drop_succ_cons, List.drop_zero, digits?_two]
  split
  · simp only [Option.bind_some, taken]
  · rfl

theorem dateWithin?_hyphenWeek (length : Nat) (year : [a, b, c, e].all Char.isDigit = true)
    (g h : Char) (rest : List Char) :
    dateWithin? length (a :: b :: c :: e :: '-' :: 'W' :: g :: h :: rest) =
      if [g, h].all Char.isDigit then
        if 8 < length then
          (mark? '-' rest).bind fun rest => (digits? 1 rest).bind fun day =>
            Date.ofWeek? (Nat.ofDigitChars 10 [a, b, c, e] 0) (Nat.ofDigitChars 10 [g, h] 0) day.1
        else Date.ofWeek? (Nat.ofDigitChars 10 [a, b, c, e] 0) (Nat.ofDigitChars 10 [g, h] 0) 1
      else none := by
  have taken : (a :: b :: c :: e :: '-' :: 'W' :: g :: h :: rest).length - rest.length = 8 := by
    simp only [List.length_cons]
    omega
  simp only [dateWithin?, digits?_four, year, if_true, Option.bind_eq_bind, Option.bind_some,
    List.head?_cons, beq_self_eq_true, List.drop_succ_cons, List.drop_zero, digits?_two]
  split
  · simp only [Option.bind_some, taken]
  · rfl

/-- A date with hyphens in eight octets is a week. -/
theorem week_of_eight (read : dateWithin? 8 [a, b, c, e, '-', f, g, h] = some d) : f = 'W' := by
  by_contra other
  have year := year_of_dateWithin? read
  have letter : (f == 'W') = false := beq_false_of_ne other
  simp only [dateWithin?, digits?_four, year, if_true, Option.bind_eq_bind, Option.bind_some,
    List.head?_cons, Option.some_beq_some, letter, Bool.false_eq_true, if_false, beq_self_eq_true,
    List.drop_succ_cons, List.drop_zero, digits?_two] at read
  split at read
  · simp only [Option.bind_some, mark?] at read
    split at read
    · cases read
    · cases read
  · cases read

/-- The octet behind the week is the hyphen before the day, if it is within the date. -/
theorem hyphen_of_ten (read : dateWithin? 10 [a, b, c, e, '-', 'W', g, h, i, j] = some d) : i = '-' := by
  rw [dateWithin?_hyphenWeek _ (year_of_dateWithin? read)] at read
  by_contra other
  have mark : mark? '-' [i, j] = none := if_neg (by simpa using other)
  rw [mark] at read
  split at read <;> cases read

/-- The octet behind the week is the day, if it is within the date. -/
theorem day_of_week {length : Nat} (long : 7 < length)
    (read : dateWithin? length (a :: b :: c :: e :: 'W' :: g :: h :: i :: rest) = some d) :
    [g, h].all Char.isDigit = true ∧ i.isDigit = true ∧
      Date.ofWeek? (Nat.ofDigitChars 10 [a, b, c, e] 0) (Nat.ofDigitChars 10 [g, h] 0)
        (Nat.ofDigitChars 10 [i] 0) = some d := by
  rw [dateWithin?_week _ (year_of_dateWithin? read), digits?_one, if_pos long] at read
  split at read
  · next week =>
      split at read
      · next day => exact ⟨week, by simpa using day, read⟩
      · cases read
  · cases read

/-! ## Where the date ends -/

/-- Both readers find the end of the date where the text ends, if the text has no more than eight octets
or hyphens between its parts. -/
theorem separatorPosition?_of_date {s : List Char} (read : dateWithin? s.length s = some d)
    (size : s.length = 7 ∨ s.length = 8 ∨ s.length = 10 ∧ s.getD 4 '\x00' = '-') :
    separatorPosition? s = some s.length := by
  rcases size with seven | eight | ⟨ten, hyphen⟩
  · simp [separatorPosition?, seven]
  · obtain ⟨a, b, c, e, f, g, h, i, rfl⟩ := eight_octets eight
    by_cases hyphen : f = '-'
    · subst hyphen
      have letter := week_of_eight read
      simp [separatorPosition?, letter]
    · by_cases week : f = 'W'
      · subst week
        have day := (day_of_week (by simp) read).2.1
        simp [separatorPosition?, day]
      · simp [separatorPosition?, hyphen, week]
  · obtain ⟨a, b, c, e, f, g, h, i, j, k, rfl⟩ := ten_octets ten
    have same : f = '-' := hyphen
    subst same
    by_cases week : g = 'W'
    · subst week
      have mark := hyphen_of_ten read
      simp [separatorPosition?, mark]
    · simp [separatorPosition?, week]

/-- A time of day has two octets at least. -/
theorem time?_short {s : List Char} (short : s.length < 2) : time? s = none := by
  have clock : ∀ limit, clock? s limit = none := by
    intro limit
    rw [clock?, fields?, digits?_short short]
    rfl
  rw [time?, clock]
  rfl

/-- Two digits are an hour. -/
theorem time?_hour (digits : [a, b].all Char.isDigit = true) :
    time? [a, b] =
      (TimeOfDay.ofFields? (Nat.ofDigitChars 10 [a, b] 0) 0 0 0).map fun t => (t, none) := by
  have both : ∀ x ∈ [a, b], x.isDigit = true := List.all_eq_true.1 digits
  have first := not_zoneMark_of_isDigit (both a (by simp))
  have second := not_zoneMark_of_isDigit (both b (by simp))
  have clock : clock? [a, b] 2 =
      some { fields := [Nat.ofDigitChars 10 [a, b] 0], micro := 0, complete := true } := by
    simp [clock?, fields?, digits?_two, digits, front]
  have limit : ([a, b].takeWhile (!isZoneMark ·)).length = 2 := by simp [first, second]
  rw [time?, limit, clock]
  simp only [Option.bind_eq_bind, Option.bind_some, List.drop_of_length_le, List.length_cons,
    List.length_nil, Nat.le_refl, if_true, Clock.timeOfDay?, List.getD_cons_zero]
  exact (Option.map_eq_bind ..).symm

theorem midnight_of_hour {hour : Nat} (made : TimeOfDay.ofFields? hour 0 0 0 = some .midnight) :
    hour = 0 := by
  unfold TimeOfDay.ofFields? TimeOfDay.ofMicros? at made
  split at made
  · split at made
    · have micros := congrArg TimeOfDay.micros (Option.some.inj made)
      simp only [TimeOfDay.midnight, microsPerSecond] at micros
      omega
    · cases made
  · cases made

theorem one_of_ofWeek? {year : Int} {week day : Nat} (monday : Date.ofWeek? year week 1 = some d)
    (same : Date.ofWeek? year week day = some d) : day = 1 := by
  unfold Date.ofWeek? at monday same
  dsimp only at monday same
  split at monday
  · split at same
    · rw [Date.ofDay?_eq_some] at monday same
      omega
    · cases same
  · cases monday

/-! ## Texts that run over -/

/-- A text of ten octets without hyphens that is read as a date alone, unless it is the first day of a
week at midnight. Such a date has eight octets, and what follows them is not looked at. -/
structure Overrun (s : List Char) : Prop where
  ten : s.length = 10
  basic : s.getD 4 '\x00' ≠ '-'
  date : (dateWithin? 10 s).isSome = true
  notMidnight : ¬(s.getD 4 '\x00' = 'W' ∧ s.drop 7 = ['1', '0', '0'])

/-- The date ends where the text ends, or is in the basic form and has ten octets. -/
theorem date_of_readDate? {text : String} (read : readDate? text = some d) :
    dateWithin? (octetChars text).length (octetChars text) = some d ∧
      ((octetChars text).length = 7 ∨ (octetChars text).length = 8 ∨ (octetChars text).length = 10) := by
  unfold readDate? at read
  dsimp only at read
  split at read
  · next size =>
      simp only [Bool.or_eq_true, beq_iff_eq, or_assoc] at size
      exact ⟨read, size⟩
  · cases read

/-- The time that is read where the date ends at a given octet and the text does not. -/
theorem readDateTime?_at {text : String} {s rest : List Char} {separator : Char} {position : Nat}
    (octets : octetChars text = s) (ends : separatorPosition? s = some position)
    (behind : s.drop position = separator :: rest) :
    readDateTime? text = (dateWithin? position s).bind fun date =>
      (time? (rest.drop (octetsOfChar separator - 1))).map fun t =>
        ⟨date, t.1, t.2.map .ofOffset⟩ := by
  simp only [readDateTime?, octets, ends, Option.bind_eq_bind, Option.bind_some, behind]
  cases dateWithin? position s with
  | none => rfl
  | some date => cases time? (rest.drop (octetsOfChar separator - 1)) <;> rfl

/-- One octet is no time of day. -/
theorem readDateTime?_one {text : String} {s : List Char} {position : Nat} {x y : Char}
    (octets : octetChars text = s) (ends : separatorPosition? s = some position)
    (behind : s.drop position = [x, y]) : readDateTime? text = none := by
  have short : time? ([y].drop (octetsOfChar x - 1)) = none :=
    time?_short (by rw [List.length_drop, List.length_singleton]; omega)
  rw [readDateTime?_at octets ends behind, short]
  cases dateWithin? position s <;> rfl

theorem readDateTime?_end {text : String} (read : dateWithin? (octetChars text).length (octetChars text) = some d)
    (ends : separatorPosition? (octetChars text) = some (octetChars text).length) :
    readDateTime? text = some { date := d, time := .midnight, offset := none } := by
  simp only [readDateTime?, ends, read, Option.bind_eq_bind, Option.bind_some, List.drop_length]
  rfl

theorem octetsOfChar_digit {x : Char} (digit : x.isDigit = true) : octetsOfChar x = 1 := by
  have code : x.toNat ≤ 57 := by
    simp only [Char.isDigit, Bool.and_eq_true, decide_eq_true_eq] at digit
    exact digit.2
  simp only [octetsOfChar, if_pos (show x.toNat < 0x80 by omega)]

/-- The midnight with which a date begins. -/
def midnight (d : Date) : DateTime := { date := d, time := .midnight, offset := some .utc }

/-- Three digits behind the week are taken as the separator and the hour. -/
theorem readDateTime?_weekHour {text : String}
    (octets : octetChars text = [a, b, c, e, 'W', g, h, i, j, k])
    (read : dateWithin? 10 [a, b, c, e, 'W', g, h, i, j, k] = some d)
    (hour : [j, k].all Char.isDigit = true) :
    readDateTime? text =
      (Date.ofWeek? (Nat.ofDigitChars 10 [a, b, c, e] 0) (Nat.ofDigitChars 10 [g, h] 0) 1).bind
        fun date => (TimeOfDay.ofFields? (Nat.ofDigitChars 10 [j, k] 0) 0 0 0).map
          fun time => ⟨date, time, none⟩ := by
  obtain ⟨week, digit, _⟩ := day_of_week (by decide) read
  have ends : separatorPosition? [a, b, c, e, 'W', g, h, i, j, k] = some 7 := by
    have second : j.isDigit = true ∧ k.isDigit = true := by simpa using hour
    simp [separatorPosition?, digit, second]
  have monday := dateWithin?_week 7 (year_of_dateWithin? read) g h [i, j, k]
  rw [if_pos week, if_neg (Nat.lt_irrefl 7)] at monday
  rw [readDateTime?_at octets ends rfl, monday, octetsOfChar_digit digit, Nat.sub_self,
    List.drop_zero, time?_hour hour]
  simp only [Option.map_map]
  rfl

/-- The first day of the week and the hour are read, so only `100` stands for midnight of the date. -/
theorem midnight_weekHour {text : String}
    (octets : octetChars text = [a, b, c, e, 'W', g, h, i, j, k])
    (read : dateWithin? 10 [a, b, c, e, 'W', g, h, i, j, k] = some d)
    (hour : [j, k].all Char.isDigit = true) :
    (readDateTime? text).map DateTime.withOffset = some (midnight d) ↔
      [i, j, k] = ['1', '0', '0'] := by
  obtain ⟨_, digit, day⟩ := day_of_week (by decide) read
  rw [readDateTime?_weekHour octets read hour]
  constructor
  · intro same
    obtain ⟨t, found, same⟩ := Option.map_eq_some_iff.1 same
    obtain ⟨date, first, found⟩ := Option.bind_eq_some_iff.1 found
    obtain ⟨time, made, rfl⟩ := Option.map_eq_some_iff.1 found
    have today : date = d := congrArg DateTime.date same
    have night : time = .midnight := congrArg DateTime.time same
    subst today night
    have one : Nat.ofDigitChars 10 [i] 0 = Nat.ofDigitChars 10 ['1'] 0 := one_of_ofWeek? first day
    have zero : Nat.ofDigitChars 10 [j, k] 0 = Nat.ofDigitChars 10 ['0', '0'] 0 :=
      midnight_of_hour made
    have single : [i].all Char.isDigit = true := by simp [digit]
    obtain ⟨-, monday⟩ := digits_injective one single rfl rfl
    obtain ⟨-, night⟩ := digits_injective zero hour rfl rfl
    rw [List.singleton_inj] at monday
    rw [monday, night]
  · intro same
    simp only [List.cons.injEq, and_true] at same
    obtain ⟨rfl, rfl, rfl⟩ := same
    have one : Nat.ofDigitChars 10 ['1'] 0 = 1 := by decide
    rw [one] at day
    rw [day]
    rfl

/-- Where the last two octets are no hour, one of them is left for the time, which is too few. -/
theorem readDateTime?_weekRest {text : String}
    (octets : octetChars text = [a, b, c, e, 'W', g, h, i, j, k])
    (read : dateWithin? 10 [a, b, c, e, 'W', g, h, i, j, k] = some d)
    (noHour : ¬[j, k].all Char.isDigit = true) : readDateTime? text = none := by
  have digit := (day_of_week (by decide) read).2.1
  have ends : separatorPosition? [a, b, c, e, 'W', g, h, i, j, k] = some 8 := by
    by_cases next : j.isDigit = true
    · have last : k.isDigit = false := by simpa [next] using noHour
      simp [separatorPosition?, digit, next, last]
    · simp [separatorPosition?, digit, next]
  exact readDateTime?_one octets ends rfl

/-- In ten octets without hyphens, the reader of times finds midnight only on the first day of a week. -/
theorem readDateTime?_basic {text : String} (octets : octetChars text = [a, b, c, e, f, g, h, i, j, k])
    (basic : f ≠ '-') (read : dateWithin? 10 [a, b, c, e, f, g, h, i, j, k] = some d) :
    (readDateTime? text).map DateTime.withOffset = some (midnight d) ↔
      f = 'W' ∧ [i, j, k] = ['1', '0', '0'] := by
  by_cases week : f = 'W'
  · subst week
    rw [and_iff_right rfl]
    by_cases hour : [j, k].all Char.isDigit = true
    · exact midnight_weekHour octets read hour
    · rw [readDateTime?_weekRest octets read hour]
      refine iff_of_false nofun fun same => ?_
      simp only [List.cons.injEq, and_true] at same
      obtain ⟨rfl, rfl, rfl⟩ := same
      exact hour (by decide)
  · have ends : separatorPosition? [a, b, c, e, f, g, h, i, j, k] = some 8 := by
      simp [separatorPosition?, basic, week]
    rw [readDateTime?_one octets ends rfl]
    simp [week]

/-- Text that is read as a date alone is read as midnight of that date, unless it runs over. -/
theorem midnight_iff {text : String} (read : readDate? text = some d) :
    (readDateTime? text).map DateTime.withOffset = some (midnight d) ↔ ¬Overrun (octetChars text) := by
  obtain ⟨within, size⟩ := date_of_readDate? read
  by_cases overrunning : (octetChars text).length = 10 ∧ (octetChars text).getD 4 '\x00' ≠ '-'
  · obtain ⟨ten, basic⟩ := overrunning
    obtain ⟨a, b, c, e, f, g, h, i, j, k, octets⟩ := ten_octets ten
    rw [octets] at basic within
    rw [readDateTime?_basic octets basic within, octets]
    constructor
    · exact fun same overrun => overrun.notMidnight same
    · intro settled
      by_contra other
      exact settled ⟨rfl, basic, by simp [show dateWithin? 10 _ = some d from within], other⟩
  · have ends : separatorPosition? (octetChars text) = some (octetChars text).length :=
      separatorPosition?_of_date within (by
        rcases size with seven | eight | ten
        · exact .inl seven
        · exact .inr (.inl eight)
        · exact .inr (.inr ⟨ten, not_not.1 fun other => overrunning ⟨ten, other⟩⟩))
    rw [readDateTime?_end within ends]
    exact ⟨fun _ overrun => overrunning ⟨overrun.ten, overrun.basic⟩, fun _ => rfl⟩

end Calendar.Iso

namespace Formatting
open Iso

/-- The reader of the date filters and that of timestamps agree on a text: they both accept it or both
refuse it, a date alone is midnight of that date in universal time, and any other time is the same. -/
structure ReadersAgree (s : String) : Prop where
  accepted : (∃ m, momentOf (.text s) = .ok m) ↔ ∃ t, timeOf (.text s) = .ok t
  date : ∀ d, momentOf (.text s) = .ok (.date d) →
    ∃ t, timeOf (.text s) = .ok t ∧ t.withOffset = midnight d
  time : ∀ t, momentOf (.text s) = .ok (.dateTime t) → timeOf (.text s) = .ok t

theorem momentOf_date {s : String} {d : Date} (read : readDate? s = some d) :
    momentOf (.text s) = .ok (.date d) := by
  rw [momentOf_text, Moment.read?, read]

/-- What is no date alone does not run over one. -/
theorem not_overrun_of_noDate {s : String} (read : readDate? s = none) : ¬Overrun (octetChars s) := by
  intro overrun
  have date := overrun.date
  have same : readDate? s = dateWithin? 10 (octetChars s) := by
    simp [readDate?, overrun.ten]
  rw [← same, read] at date
  cases date

/-- Both readers take what is no date alone for a time. -/
theorem readersAgree_of_noDate {s : String} (read : readDate? s = none) : ReadersAgree s := by
  have moment : Moment.read? s = (readDateTime? s).map .dateTime := by
    simp only [Moment.read?, read]
  constructor <;> rw [momentOf_text, moment, timeOf_text] <;> cases readDateTime? s <;> simp

theorem readersAgree_of_date {s : String} {d : Date} (read : readDate? s = some d) :
    ReadersAgree s ↔ (readDateTime? s).map DateTime.withOffset = some (midnight d) := by
  constructor
  · intro agree
    obtain ⟨t, found, same⟩ := agree.date d (momentOf_date read)
    rw [timeOf_text] at found
    split at found
    · next told =>
        cases found
        rw [told, Option.map_some, same]
    · cases found
  · intro same
    obtain ⟨t, found, same⟩ := Option.map_eq_some_iff.1 same
    have time : timeOf (.text s) = .ok t := by rw [timeOf_text, found]
    constructor
    · exact iff_of_true ⟨_, momentOf_date read⟩ ⟨t, time⟩
    · intro other told
      rw [momentOf_date read] at told
      cases told
      exact ⟨t, time, same⟩
    · intro other told
      rw [momentOf_date read] at told
      cases told

/-- The readers agree on all texts but those that run over a date. -/
theorem readersAgree_iff (s : String) : ReadersAgree s ↔ ¬Overrun (octetChars s) := by
  cases read : readDate? s with
  | none => exact iff_of_true (readersAgree_of_noDate read) (not_overrun_of_noDate read)
  | some d => exact (readersAgree_of_date read).trans (midnight_iff read)

/-- What follows a date in the basic form is passed over by the date filters. The reader of timestamps
refuses it, or takes it as an hour of another day. -/
theorem overrun_passed_over :
    formatDate dateFormats (.text "20240105xx") (.text "iso") = .ok "2024-01-05" ∧
    formatTimestamp timestampFormats (.text "20240105xx") (.text "iso") =
      .error ⟨.filterValue, "'20240105xx' is not an ISO timestamp"⟩ ∧
    formatDate dateFormats (.text "2024W01523") (.text "iso") = .ok "2024-01-05" ∧
    formatTimestamp timestampFormats (.text "2024W01523") (.text "iso") =
      .ok "2024-01-01T23:00:00+00:00" := by
  have written : Iso.date (morning .utc).date = "2024-01-05" := by decide
  have friday : momentOf (.text "20240105xx") = .ok (.date (morning .utc).date) := rfl
  have refused : timeOf (.text "20240105xx") =
      .error ⟨.filterValue, "'20240105xx' is not an ISO timestamp"⟩ := rfl
  have weekday : momentOf (.text "2024W01523") = .ok (.date (morning .utc).date) := rfl
  have monday : timeOf (.text "2024W01523") =
      .ok { date := ⟨738886, by decide, by decide⟩, time := ⟨82800000000, by decide⟩, offset := none } :=
    rfl
  refine ⟨?_, ?_, ?_, ?_⟩
  · rw [formatDate_iso definition_iso_dateFormats friday, Moment.iso, written]
  · rw [formatTimestamp, refused]
    rfl
  · rw [formatDate_iso definition_iso_dateFormats weekday, Moment.iso, written]
  · rw [formatTimestamp_iso definition_iso_timestampFormats monday, Except.ok.injEq]
    decide

end Formatting
end DocumentServer
