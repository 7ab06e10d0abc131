import DocumentServer.Calendar.DateTime
import DocumentServer.Proofs.Calendar.Civil
import Mathlib.Data.Int.Basic

/-!
A clock in universal time. It ticks once a second, with a day of 86400 seconds, and its calendar goes from
each day to the next. Set to the beginning of 1970, it shows one reading for every number of seconds, before
that moment as well as after it.
-/
namespace DocumentServer.Calendar

variable {c : Civil}

/-! ## The next day -/

/-- The day after: the next one of the month, or the first of the next month, or the first of the year. -/
def Civil.next (c : Civil) : Civil :=
  if c.day < monthLength c.year c.month then { c with day := c.day + 1 }
  else if c.month < 12 then { c with month := c.month + 1, day := 1 }
  else { year := c.year + 1, month := 1, day := 1 }

theorem one_le_monthLength (year : Int) {month : Nat} (least : 1 ≤ month) (most : month ≤ 12) :
    1 ≤ monthLength year month := by
  have all : ∀ leap, ∀ index < 12, 1 ≤ (monthLengths leap).getD index 0 := by decide
  exact all (isLeap year) (month - 1) (by omega)

theorem daysBeforeMonth_succ (year : Int) {month : Nat} (least : 1 ≤ month) :
    daysBeforeMonth year (month + 1) = daysBeforeMonth year month + monthLength year month := by
  obtain ⟨index, rfl⟩ := Nat.exists_eq_add_of_le' least
  rw [daysBeforeMonth_eq, daysBeforeMonth_eq, monthLength, Nat.add_sub_cancel, Nat.add_sub_cancel, daysIn_succ]

/-- The day after has the next day number. -/
theorem Civil.Proper.next (proper : c.Proper) : c.next.Proper ∧ dayNumber c.next = dayNumber c + 1 := by
  obtain ⟨least, most, one, last⟩ := proper
  unfold Civil.next
  split
  · next inside =>
      refine ⟨⟨least, most, Nat.le_add_left 1 _, inside⟩, ?_⟩
      simp only [dayNumber]
      omega
  · next full =>
      have behind := daysBeforeMonth_succ c.year least
      split
      · next early =>
          have later : 1 ≤ c.month + 1 := Nat.le_add_left 1 _
          refine ⟨⟨later, early, Nat.le_refl 1, one_le_monthLength _ later early⟩, ?_⟩
          simp only [dayNumber, behind]
          omega
      · next late =>
          -- the months before the thirteenth are the whole year
          have december : c.month = 12 := by omega
          have year : (daysBeforeMonth c.year (c.month + 1) : Int) = yearLength c.year := by
            rw [december, daysBeforeMonth_eq, ← daysIn_monthLengths]
          have first : daysBeforeMonth (c.year + 1) 1 = 0 := rfl
          have within : 1 ≤ 12 := by decide
          refine ⟨⟨Nat.le_refl 1, within, Nat.le_refl 1, one_le_monthLength _ (Nat.le_refl 1) within⟩, ?_⟩
          simp only [dayNumber, first, daysBeforeYear_succ]
          omega

/-! ## The clock -/

/-- What a clock shows. -/
structure Reading where
  date : Civil
  hour : Nat
  minute : Nat
  second : Nat
  deriving DecidableEq

namespace Reading

/-- The beginning of 1970. -/
def epoch : Reading := ⟨⟨1970, 1, 1⟩, 0, 0, 0⟩

/-- The reading a second later. -/
def tick (r : Reading) : Reading :=
  if r.second < 59 then { r with second := r.second + 1 }
  else if r.minute < 59 then { r with minute := r.minute + 1, second := 0 }
  else if r.hour < 23 then { r with hour := r.hour + 1, minute := 0, second := 0 }
  else { date := r.date.next, hour := 0, minute := 0, second := 0 }

/-- A reading that a clock can show. -/
structure Proper (r : Reading) : Prop where
  date : r.date.Proper
  hour : r.hour < 24
  minute : r.minute < 60
  second : r.second < 60

/-- The reading some seconds after 1970 began; a negative number counts the seconds before. -/
inductive Shows : Int → Reading → Prop
  | epoch : Shows 0 .epoch
  | later {n r} : Shows n r → Shows (n + 1) r.tick
  | earlier {n r} : r.Proper → Shows (n + 1) r.tick → Shows n r

/-- The seconds since 1970 began, counted by the day number. -/
def seconds (r : Reading) : Int :=
  (dayNumber r.date - DateTime.epochDay) * 86400 + (r.hour * 3600 + r.minute * 60 + r.second : Nat)

variable {r r' : Reading} {n : Int}

theorem Proper.tick (proper : r.Proper) : r.tick.Proper ∧ r.tick.seconds = r.seconds + 1 := by
  obtain ⟨date, hour, minute, second⟩ := proper
  unfold Reading.tick
  split
  · refine ⟨⟨date, hour, minute, by simp only; omega⟩, ?_⟩
    simp only [seconds]
    omega
  · split
    · refine ⟨⟨date, hour, by simp only; omega, Nat.zero_lt_succ _⟩, ?_⟩
      simp only [seconds]
      omega
    · split
      · refine ⟨⟨date, by simp only; omega, Nat.zero_lt_succ _, Nat.zero_lt_succ _⟩, ?_⟩
        simp only [seconds]
        omega
      · obtain ⟨proper, next⟩ := date.next
        refine ⟨⟨proper, Nat.zero_lt_succ _, Nat.zero_lt_succ _, Nat.zero_lt_succ _⟩, ?_⟩
        simp only [seconds, next]
        omega

/-- Readings are told apart by their seconds. -/
theorem Proper.eq_of_seconds (proper : r.Proper) (other : r'.Proper) (same : r.seconds = r'.seconds) :
    r = r' := by
  obtain ⟨date, hour, minute, second⟩ := proper
  obtain ⟨date', hour', minute', second'⟩ := other
  rcases r with ⟨d, h, m, s⟩
  rcases r' with ⟨d', h', m', s'⟩
  simp only [seconds] at *
  have day : dayNumber d = dayNumber d' := by omega
  have civil := civilOfDay_dayNumber date
  rw [day, civilOfDay_dayNumber date'] at civil
  rw [Reading.mk.injEq]
  exact ⟨civil.symm, by omega, by omega, by omega⟩

/-- The reading of a number of seconds. -/
def ofSeconds (n : Int) : Reading :=
  { date := civilOfDay (n / 86400 + DateTime.epochDay)
    hour := (n % 86400).toNat / 3600
    minute := (n % 86400).toNat / 60 % 60
    second := (n % 86400).toNat % 60 }

theorem ofSeconds_spec (n : Int) : (ofSeconds n).Proper ∧ (ofSeconds n).seconds = n := by
  obtain ⟨proper, day⟩ := civilOfDay_spec (n / 86400 + DateTime.epochDay)
  refine ⟨⟨proper, ?_, ?_, ?_⟩, ?_⟩
  · simp only [ofSeconds]
    omega
  · exact Nat.mod_lt _ (by decide)
  · exact Nat.mod_lt _ (by decide)
  · simp only [seconds, ofSeconds, day]
    omega

theorem epoch_spec : epoch.Proper ∧ epoch.seconds = 0 :=
  ⟨⟨⟨by decide, by decide, by decide, by decide⟩, by decide, by decide, by decide⟩, by decide⟩

theorem Shows.spec (shows : Shows n r) : r.Proper ∧ r.seconds = n := by
  induction shows with
  | epoch => exact epoch_spec
  | later _ ih =>
      obtain ⟨proper, told⟩ := ih
      rw [← told]
      exact proper.tick
  | earlier proper _ ih =>
      have next := proper.tick.2
      rw [ih.2] at next
      exact ⟨proper, by omega⟩

/-- The clock shows the reading of each number of seconds: onwards by ticks, and backwards because the
reading before is the only one that ticks to it. -/
theorem shows_ofSeconds (n : Int) : Shows n (ofSeconds n) := by
  have step : ∀ n, (ofSeconds n).tick = ofSeconds (n + 1) := by
    -- both are proper and have the same seconds
    intro n
    obtain ⟨proper, told⟩ := (ofSeconds_spec n).1.tick
    obtain ⟨proper', told'⟩ := ofSeconds_spec (n + 1)
    refine proper.eq_of_seconds proper' ?_
    rw [told, told', (ofSeconds_spec n).2]
  induction n using Int.induction_on with
  | zero =>
      have zero : ofSeconds 0 = .epoch :=
        (ofSeconds_spec 0).1.eq_of_seconds epoch_spec.1 ((ofSeconds_spec 0).2.trans epoch_spec.2.symm)
      rw [zero]
      exact .epoch
  | succ n ih =>
      rw [← step]
      exact .later ih
  | pred n ih =>
      refine .earlier (ofSeconds_spec _).1 ?_
      rw [step, Int.sub_add_cancel]
      exact ih

theorem Proper.eq_ofSeconds (proper : r.Proper) : r = ofSeconds r.seconds :=
  proper.eq_of_seconds (ofSeconds_spec _).1 (ofSeconds_spec _).2.symm

/-- There is no other reading. -/
theorem Shows.eq_ofSeconds (shows : Shows n r) : r = ofSeconds n := by
  obtain ⟨proper, told⟩ := shows.spec
  rw [← told]
  exact proper.eq_ofSeconds

/-- The clock shows the proper reading with that number of seconds. -/
theorem shows_iff : Shows n r ↔ r.Proper ∧ r.seconds = n := by
  constructor
  · exact Shows.spec
  · rintro ⟨proper, rfl⟩
    have shows := shows_ofSeconds r.seconds
    rwa [← proper.eq_ofSeconds] at shows

/-- The leap day of a century year. -/
example : ofSeconds 951868799 = ⟨⟨2000, 2, 29⟩, 23, 59, 59⟩ := by decide

end Reading

/-! ## Times on the clock -/

theorem TimeOfDay.ofMicros?_eq_some {t : TimeOfDay} {n : Nat} : ofMicros? n = some t ↔ t.micros = n := by
  rcases t with ⟨micros, inside⟩
  unfold ofMicros?
  split
  · rw [Option.some.injEq, TimeOfDay.mk.injEq]
    exact eq_comm
  · simp only [reduceCtorEq, false_iff]
    omega

namespace DateTime

variable {t : DateTime} {n : Int} {offset : Option Zone}

theorem ofLocalMicros?_eq_some : ofLocalMicros? n offset = some t ↔ t.localMicros = n ∧ t.offset = offset := by
  simp only [ofLocalMicros?, Option.bind_eq_bind, Option.bind_eq_some_iff, Date.ofDay?_eq_some,
    TimeOfDay.ofMicros?_eq_some]
  constructor
  · rintro ⟨date, day, time, micros, same⟩
    cases same
    refine ⟨?_, rfl⟩
    simp only [localMicros, day, micros]
    unfold microsPerDay microsPerSecond
    omega
  · rintro ⟨told, rfl⟩
    have inside := t.time.lt_day
    unfold localMicros microsPerDay microsPerSecond at *
    exact ⟨t.date, by omega, t.time, by omega, rfl⟩

theorem epochMicros_utc (utc : t.offset = some .utc) :
    t.epochMicros = t.localMicros - epochDay * microsPerDay := by
  have none : ((t.utcOffset.map (·.micros)).getD 0) = 0 := by
    rw [utcOffset, utc]
    rfl
  rw [epochMicros, instant, none, Int.sub_zero]

/-- What a clock beside the time shows. -/
def reading (t : DateTime) : Reading := ⟨t.date.civil, t.time.hour, t.time.minute, t.time.second⟩

/-- In universal time the reading is that of the seconds since 1970 began. -/
theorem shows_reading (utc : t.offset = some .utc) : t.reading.Shows (t.epochMicros / microsPerSecond) := by
  have inside := t.time.lt_day
  rw [Reading.shows_iff]
  refine ⟨⟨t.date.civil_proper, ?_, ?_, ?_⟩, ?_⟩
  · simp only [reading, TimeOfDay.hour]
    unfold microsPerDay microsPerSecond at *
    omega
  · exact Nat.mod_lt _ (by decide)
  · exact Nat.mod_lt _ (by decide)
  · simp only [Reading.seconds, reading, t.date.dayNumber_civil, epochMicros_utc utc, localMicros,
      TimeOfDay.hour, TimeOfDay.minute, TimeOfDay.second]
    unfold microsPerDay microsPerSecond at *
    omega

/-- The time, in universal time, at which a whole number of seconds since 1970 has passed. -/
structure Marks (t : DateTime) (n : Int) : Prop where
  utc : t.offset = some .utc
  micros : t.epochMicros = n * microsPerSecond

theorem Marks.utcOffset (marks : t.Marks n) : t.utcOffset = some .utc := by
  rw [DateTime.utcOffset, marks.utc]
  rfl

theorem Marks.shows (marks : t.Marks n) : t.reading.Shows n := by
  have shows := shows_reading marks.utc
  rwa [marks.micros, Int.mul_ediv_cancel _ (by decide)] at shows

/-- It is on the full second. -/
theorem Marks.fraction (marks : t.Marks n) : t.time.fraction = 0 := by
  have micros := marks.micros
  rw [epochMicros_utc marks.utc, localMicros] at micros
  unfold TimeOfDay.fraction microsPerDay microsPerSecond at *
  omega

theorem marks_of_ofLocalMicros?
    (made : ofLocalMicros? (n * microsPerSecond + epochDay * microsPerDay) (some .utc) = some t) :
    t.Marks n := by
  obtain ⟨told, utc⟩ := ofLocalMicros?_eq_some.1 made
  refine ⟨utc, ?_⟩
  rw [epochMicros_utc utc, told, Int.add_sub_cancel]

end DateTime
end DocumentServer.Calendar
