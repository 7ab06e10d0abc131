import DocumentServer.Proofs.Calendar.Deadline
import DocumentServer.Proofs.Formatting.NormalForm
import DocumentServer.Proofs.Number.WholePart

/-!
Times that are given as whole seconds since 1970. No step on the way to the calendar rounds them, whatever
kind of number they come as. So they are written as what a clock shows that has ticked as often, and they
are counted back from it.
-/
namespace DocumentServer
open Calendar

namespace Calendar

variable {t : DateTime} {n : Int}

/-! ## Texts of readings -/

/-- The reading in ISO notation, in universal time. -/
def Reading.isoText (r : Reading) : String :=
  .ofList (padded 4 r.date.year.toNat ++ '-' :: padded 2 r.date.month ++ '-' :: padded 2 r.date.day ++
    'T' :: padded 2 r.hour ++ ':' :: padded 2 r.minute ++ ':' :: padded 2 r.second ++ "+00:00".toList)

/-- The reading up to the minute, with a year that is not padded. -/
def Reading.shortText (r : Reading) : String :=
  .ofList (Nat.toDigits 10 r.date.year.toNat ++ '-' :: padded 2 r.date.month ++ '-' :: padded 2 r.date.day ++
    ' ' :: padded 2 r.hour ++ ':' :: padded 2 r.minute)

theorem DateTime.Marks.isoText (marks : t.Marks n) : Iso.dateTime t = t.reading.isoText := by
  have hour : t.time.micros / microsPerSecond / 3600 = t.time.hour := by
    rw [Nat.div_div_eq_div_mul, Nat.mul_comm]
    rfl
  have minute : t.time.micros / microsPerSecond / 60 % 60 = t.time.minute := by
    rw [Nat.div_div_eq_div_mul, Nat.mul_comm]
    rfl
  have zone : Offset.utc.text [':'] = "+00:00".toList := by decide
  have whole : t.time.micros % microsPerSecond = 0 := marks.fraction
  rw [Iso.dateTime, Iso.dateTimeChars_eq, marks.utcOffset, Iso.zoneChars, zone, Iso.clockText_eq, hour, minute, whole]
  simp [Reading.isoText, reading, Iso.dateChars, Iso.fractionChars, TimeOfDay.second]

theorem shortText_reading (t : DateTime) : Pattern.format t "%Y-%m-%d %H:%M" = t.reading.shortText := by
  have pattern : ("%Y-%m-%d %H:%M").toList.takeWhile (· != '\x00') =
      ['%', 'Y', '-', '%', 'm', '-', '%', 'd', ' ', '%', 'H', ':', '%', 'M'] := by decide
  have year : Pattern.number t.date.civil.year = Nat.toDigits 10 t.date.civil.year.toNat := by
    have positive : ¬t.date.civil.year < 0 := by
      have := t.date.civil_year.1
      omega
    have size : t.date.civil.year.natAbs = t.date.civil.year.toNat := by omega
    rw [Pattern.number, if_neg positive, size]
  have written : Pattern.expand t ['%', 'Y', '-', '%', 'm', '-', '%', 'd', ' ', '%', 'H', ':', '%', 'M'] =
      Nat.toDigits 10 t.date.civil.year.toNat ++ '-' :: padded 2 t.date.civil.month ++
        '-' :: padded 2 t.date.civil.day ++ ' ' :: padded 2 t.time.hour ++
          ':' :: padded 2 t.time.minute := by
    simp [Pattern.expand, Pattern.directive?, year]
  have ascii : Iso.Ascii (Pattern.expand t
      ['%', 'Y', '-', '%', 'm', '-', '%', 'd', ' ', '%', 'H', ':', '%', 'M']) := by
    simp [written, Iso.ascii_of_digits (Text.all_isDigit_numeral _)]
  rw [Pattern.format, pattern, ascii.takeWhile, written]
  rfl

/-- The calendar has a time at each whole second of its years. -/
theorem ofLocalMicros?_seconds (least : -62135596800 ≤ n) (most : n ≤ 253402300799) :
    ∃ t, DateTime.ofLocalMicros? (n * microsPerSecond + DateTime.epochDay * microsPerDay) (some .utc) =
      some t := by
  refine Option.isSome_iff_exists.1 ((DateTime.ofLocalMicros?_isSome _).2 ?_)
  unfold microsPerDay microsPerSecond DateTime.epochDay lastDay
  omega

end Calendar

namespace Formatting
open Double

variable {v : Value} {x : Double} {n : Int} {t : DateTime}

/-! ## Seconds as a time -/

/-- Whole seconds have no microseconds beside them. -/
theorem micros_whole (value : x.value? = some (n : ℚ)) (small : n.natAbs < 2 ^ 53) :
    ((x.sub (.ofInt n)).mul (.ofInt microsPerSecond)).nearest? = some 0 := by
  have million : (microsPerSecond : Int).natAbs < 2 ^ 53 := by decide
  obtain ⟨s, nothing⟩ := sub_of_value? value (value?_ofInt_small small)
  obtain ⟨t, zero⟩ := finite_zero_mul s leastExponent (isFinite_of_value? (value?_ofInt_small million))
  rw [nothing, zero, nearest?_zero]

theorem timeOfSeconds_whole (value : x.value? = some (n : ℚ)) (least : -62135596800 ≤ n)
    (most : n ≤ 253402300799) : ∃ t, timeOfSeconds x = .ok t ∧ t.Marks n := by
  have small : n.natAbs < 2 ^ 53 := by omega
  have number : (x == .nan) = false := by
    rw [beq_eq_false_iff_ne]
    rintro rfl
    cases value
  have whole : x.truncate? = some n := by rw [truncate?_of_value? value, towardZero_int]
  have seconds : n * microsPerSecond / (microsPerSecond : Int) = n := Int.mul_ediv_cancel n (by decide)
  -- the calendar ends long before the clock of the platform does
  have platform : (decide (n < -secondLimit) || decide (secondLimit ≤ n)) = false := by
    have limit : secondLimit = 9223372036854775808 := by decide
    rw [limit, Bool.or_eq_false_iff, decide_eq_false_iff_not, decide_eq_false_iff_not]
    omega
  obtain ⟨t, made⟩ := ofLocalMicros?_seconds least most
  have marks := DateTime.marks_of_ofLocalMicros? made
  have date : civilOfDay (n / 86400 + DateTime.epochDay) = t.date.civil :=
    congrArg Reading.date marks.shows.eq_ofSeconds.symm
  have brokenDown : (decide (t.date.civil.year - 1900 < -yearLimit) ||
      decide (yearLimit ≤ t.date.civil.year - 1900)) = false := by
    have limit : yearLimit = 2147483648 := by decide
    have years := t.date.civil_year
    rw [limit, Bool.or_eq_false_iff, decide_eq_false_iff_not, decide_eq_false_iff_not]
    omega
  refine ⟨t, ?_, marks⟩
  unfold timeOfSeconds
  simp only [number, whole, micros_whole value small, Option.getD_some, Int.add_zero, seconds, platform, date,
    brokenDown, made, Bool.false_eq_true, if_false]
  rfl

/-- The seconds are counted back without rounding. -/
theorem unixSeconds_marks (marks : t.Marks n) (small : n.natAbs < 2 ^ 53) : unixSeconds t = n := by
  have sign : decide (n * (microsPerSecond : Int) < 0) = decide (n < 0) := by
    unfold microsPerSecond
    rw [decide_eq_decide]
    omega
  have micros : (n * (microsPerSecond : Int)).natAbs = n.natAbs * microsPerSecond := Int.natAbs_mul _ _
  have value := value?_ofRatio (n < 0) small (show 0 < microsPerSecond by decide)
  rw [signed_natAbs] at value
  rw [unixSeconds, marks.micros, sign, micros, truncate?_of_value? value, towardZero_int]
  rfl

/-- The value is a whole number: an integer, or a number of floating point or a decimal number without a
fraction. -/
inductive Denotes : Value → Int → Prop
  | int {v : Value} {n : Int} : v.int? = some n → Denotes v n
  | double {x : Double} {n : Int} : x.value? = some (n : ℚ) → Denotes (.double x) n
  | decimal {d : Decimal} {n : Int} : d.value? = some (n : ℚ) → Denotes (.decimal d) n

/-- In floating point it is the same number. -/
theorem Denotes.toDouble (denotes : Denotes v n) (small : n.natAbs < 2 ^ 53) :
    ∃ x, toDouble v = .ok (some x) ∧ x.value? = some (n : ℚ) := by
  cases denotes with
  | int integer =>
      have value := value?_ofInt_small small
      have finite := isFinite_of_value? value
      refine ⟨.ofInt n, ?_, value⟩
      cases v with
      | int k =>
          cases integer
          exact if_pos finite
      | bool b =>
          cases integer
          exact if_pos finite
      | _ => cases integer
  | double value => exact ⟨_, rfl, value⟩
  | @decimal d _ value =>
      cases d with
      | finite s c e => exact ⟨_, rfl, value?_ofDecimal small value⟩
      | infinite s => cases value
      | nan s signaling payload => cases value

theorem timeOf_number (number : toDouble v = .ok (some x)) : timeOf v = timeOfSeconds x := by
  rw [timeOf, number, ok_bind]

/-! ## What is written -/

theorem Denotes.timeOf (denotes : Denotes v n) (least : -62135596800 ≤ n) (most : n ≤ 253402300799) :
    ∃ t, timeOf v = .ok t ∧ t.Marks n := by
  obtain ⟨x, number, value⟩ := denotes.toDouble (by omega)
  rw [timeOf_number number]
  exact timeOfSeconds_whole value least most

theorem formatTimestamp_unix (reads : timeOf v = .ok t) :
    formatTimestamp timestampFormats v (.text "unix") = .ok (Value.intText (unixSeconds t.withOffset)) := by
  have default : definition "timestamp" timestampFormats (.text "unix") = .ok (.text "UNIX") :=
    definition_named "timestamp" rfl
  rw [formatTimestamp, reads, ok_bind, default, ok_bind]
  rfl

theorem formatTimestamp_short (reads : timeOf v = .ok t) :
    formatTimestamp timestampFormats v (.text "short") =
      .ok (Pattern.format t.withOffset "%Y-%m-%d %H:%M") := by
  have default : definition "timestamp" timestampFormats (.text "short") = .ok (.text "%Y-%m-%d %H:%M") :=
    definition_named "timestamp" rfl
  rw [formatTimestamp, reads, ok_bind, default, ok_bind]
  rfl

theorem withOffset_marks (marks : t.Marks n) : t.withOffset = t := by
  have utc := marks.utc
  rcases t with ⟨date, time, offset⟩
  cases utc
  rfl

/-- The text of a full second in universal time is read back as that time. -/
theorem timeOf_isoText (marks : t.Marks n) : timeOf (.text t.reading.isoText) = .ok t := by
  have utc := marks.utc
  rw [timeOf_text, ← marks.isoText, Iso.readDateTime?_dateTime]
  rcases t with ⟨date, time, offset⟩
  cases utc
  rfl

/-- A whole number of seconds since 1970, up to the end of the years that have four digits or less and
back to their beginning, is written under the key `unix` as its numeral, and under `iso` and `short` as what
the clock shows so many seconds after 1970 began, or before if the number is negative. The clock shows one
reading then, and its text is counted back to the same number. -/
theorem seconds_are_exact (denotes : Denotes v n) (least : -62135596800 ≤ n) (most : n ≤ 253402300799) :
    formatTimestamp timestampFormats v (.text "unix") = .ok (Value.intText n) ∧
    ∃ r : Reading, r.Shows n ∧ (∀ r' : Reading, r'.Shows n → r' = r) ∧
      1 ≤ r.date.year ∧ r.date.year ≤ 9999 ∧
      formatTimestamp timestampFormats v (.text "iso") = .ok r.isoText ∧
      formatTimestamp timestampFormats v (.text "short") = .ok r.shortText ∧
      formatTimestamp timestampFormats (.text r.isoText) (.text "unix") = .ok (Value.intText n) := by
  have small : n.natAbs < 2 ^ 53 := by omega
  obtain ⟨t, reads, marks⟩ := denotes.timeOf least most
  have same := withOffset_marks marks
  have counted := unixSeconds_marks marks small
  refine ⟨?_, t.reading, marks.shows, ?_, t.date.civil_year.1, t.date.civil_year.2, ?_, ?_, ?_⟩
  · rw [formatTimestamp_unix reads, same, counted]
  · intro r' shows
    rw [shows.eq_ofSeconds, marks.shows.eq_ofSeconds]
  · rw [formatTimestamp_iso definition_iso_timestampFormats reads, same, marks.isoText]
  · rw [formatTimestamp_short reads, same, shortText_reading]
  · rw [formatTimestamp_unix (timeOf_isoText marks), same, counted]

/-- The last second of 1969, as a decimal number with a zero behind the point. -/
theorem lastSecond_exact :
    Denotes (.decimal (.finite true 10 (-1))) (-1) ∧ (-62135596800 : Int) ≤ -1 ∧
    (-1 : Int) ≤ 253402300799 ∧
    formatTimestamp timestampFormats (.decimal (.finite true 10 (-1))) (.text "unix") = .ok "-1" ∧
    formatTimestamp timestampFormats (.decimal (.finite true 10 (-1))) (.text "iso") =
      .ok "1969-12-31T23:59:59+00:00" ∧
    formatTimestamp timestampFormats (.decimal (.finite true 10 (-1))) (.text "short") =
      .ok "1969-12-31 23:59" := by
  have denotes : Denotes (.decimal (.finite true 10 (-1))) (-1) :=
    .decimal (by norm_num [Decimal.value?, signed])
  have least : (-62135596800 : Int) ≤ -1 := by decide
  have most : (-1 : Int) ≤ 253402300799 := by decide
  have proper : Reading.Proper ⟨⟨1969, 12, 31⟩, 23, 59, 59⟩ :=
    ⟨⟨by decide, by decide, by decide, by decide⟩, by decide, by decide, by decide⟩
  have shows : Reading.Shows (-1) ⟨⟨1969, 12, 31⟩, 23, 59, 59⟩ := Reading.shows_iff.2 ⟨proper, by decide⟩
  obtain ⟨unix, r, -, only, -, -, iso, short, -⟩ := seconds_are_exact denotes least most
  rw [← only _ shows] at iso short
  exact ⟨denotes, least, most, unix, iso, short⟩

end Formatting
end DocumentServer
