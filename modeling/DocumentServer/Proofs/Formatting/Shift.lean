import DocumentServer.Formatting.Dates
import DocumentServer.Proofs.Calendar.Civil
import DocumentServer.Proofs.Calendar.Deadline
import DocumentServer.Proofs.Fault

/-!
Shifting by whole days and weeks. The day number moves by exactly the number of days, and nothing else
of the moment changes; so shifts add up, can be undone and keep their order. The zone is kept, and with
it the offset from universal time unless the zone is a region, which may have changed it in between.
-/
namespace DocumentServer
open Calendar Formatting

namespace Calendar

/-- The date of a moment. -/
def Moment.day : Moment → Date
  | .date d => d
  | .dateTime t => t.date

/-- The same time of day and zone, if any, on another date. -/
def Moment.onDay : Moment → Date → Moment
  | .date _, d => .date d
  | .dateTime t, d => .dateTime { t with date := d }

/-- The order of moments of one kind. Times with one zone are ordered as local times, and times with
two zones as instants. -/
def Moment.Before : Moment → Moment → Prop
  | .date d, .date e => d.civil.Before e.civil
  | .dateTime t, .dateTime u =>
    if t.offset = u.offset then t.localMicros < u.localMicros else t.instant < u.instant
  | _, _ => False

/-- A zone that has one offset for good. -/
def Zone.IsFixed : Zone → Prop
  | .fixed .. => True
  | .region .. => False

/-- A moment without a zone, or with a zone that has one offset for good. -/
def Moment.IsFixed (m : Moment) : Prop := ∀ t zone, m = .dateTime t → t.offset = some zone → zone.IsFixed

def Moment.utcOffset : Moment → Option Offset
  | .date _ => none
  | .dateTime t => t.utcOffset

/-- Microseconds from the beginning of day 0 in universal time. A date begins at midnight. -/
def Moment.instant : Moment → Int
  | .date d => d.ordinal * microsPerDay
  | .dateTime t => t.instant

/-- A number of whole days. -/
def Duration.ofDays (n : Int) : Duration := ⟨n * microsPerDay⟩

theorem Duration.days_ofDays (n : Int) : (ofDays n).days = n :=
  Int.mul_ediv_cancel n (by decide)

/-- Whole days move the date and keep the time of day. -/
theorem DateTime.add?_ofDays (t : DateTime) (n : Int) :
    t.add? (.ofDays n) = (Date.ofDay? (t.date.ordinal + n)).map fun d => { t with date := d } := by
  have inside := t.time.lt_day
  have moved : t.localMicros + (Duration.ofDays n).micros =
      (t.date.ordinal + n) * microsPerDay + t.time.micros := by
    simp only [localMicros, Duration.ofDays]
    ring
  have day : (t.localMicros + (Duration.ofDays n).micros) / microsPerDay = t.date.ordinal + n := by
    rw [moved]
    unfold microsPerDay microsPerSecond at *
    omega
  have rest : ((t.localMicros + (Duration.ofDays n).micros) % microsPerDay).toNat = t.time.micros := by
    rw [moved]
    unfold microsPerDay microsPerSecond at *
    omega
  have time : TimeOfDay.ofMicros? t.time.micros = some t.time := dif_pos inside
  rw [add?, ofLocalMicros?, day, rest, time]
  cases Date.ofDay? (t.date.ordinal + n) <;> rfl

namespace Moment

theorem add?_ofDays (m : Moment) (n : Int) :
    m.add? (.ofDays n) = (Date.ofDay? (m.day.ordinal + n)).map m.onDay := by
  cases m with
  | date d =>
      rw [add?, Duration.days_ofDays, Date.addDays?]
      rfl
  | dateTime t =>
      rw [add?, DateTime.add?_ofDays, Option.map_map]
      rfl

theorem onDay_day (m : Moment) : m.onDay m.day = m := by
  cases m <;> rfl

theorem day_onDay (m : Moment) (d : Date) : (m.onDay d).day = d := by
  cases m <;> rfl

theorem onDay_onDay (m : Moment) (d e : Date) : (m.onDay d).onDay e = m.onDay e := by
  cases m <;> rfl

/-- On an earlier day the same time is earlier. -/
theorem before_onDay (m : Moment) {d e : Date} (less : d.ordinal < e.ordinal) :
    (m.onDay d).Before (m.onDay e) := by
  cases m with
  | date _ => exact (Date.ordinal_lt_iff d e).1 less
  | dateTime t =>
      rw [onDay, onDay, Before, if_pos rfl]
      simp only [DateTime.localMicros]
      unfold microsPerDay microsPerSecond
      omega

/-- A fixed zone has its offset on every day. -/
theorem utcOffset_onDay {m : Moment} (fixed : m.IsFixed) (d : Date) :
    (m.onDay d).utcOffset = m.utcOffset := by
  cases m with
  | date _ => rfl
  | dateTime t =>
      rcases t with ⟨date, time, _ | zone⟩
      · simp [onDay, utcOffset, DateTime.utcOffset]
      · cases zone with
        | fixed offset label => simp [onDay, utcOffset, DateTime.utcOffset, Zone.offsetAt]
        | region key first changes => exact (fixed _ _ rfl rfl).elim

/-- With a fixed zone the same time on an earlier day is earlier in universal time as well. -/
theorem instant_onDay_lt {m : Moment} (fixed : m.IsFixed) {d e : Date} (less : d.ordinal < e.ordinal) :
    (m.onDay d).instant < (m.onDay e).instant := by
  have same := (utcOffset_onDay fixed d).trans (utcOffset_onDay fixed e).symm
  cases m with
  | date _ =>
      simp only [onDay, instant]
      unfold microsPerDay microsPerSecond
      omega
  | dateTime t =>
      simp only [onDay, utcOffset] at same
      simp only [onDay, instant, DateTime.instant, same, DateTime.localMicros]
      unfold microsPerDay microsPerSecond
      omega

end Moment
end Calendar

namespace Formatting

/-! ## Durations of whole days -/

theorem MicrosSum.add_int (whole : Int) (rest : Double) (name : String) (unit : Nat) (n : Int) :
    MicrosSum.add { whole, rest } name unit (.int n) = .ok { whole := whole + n * unit, rest } := rfl

/-- Whole units leave nothing to round. -/
theorem MicrosSum.round_whole (whole : Int) : MicrosSum.round { whole, rest := .zero } = whole := by
  have below : (Double.zero.mul (.ofInt 2)).ordering? (.ofInt 1) = some .lt := by decide +kernel
  have above : (Double.zero.mul (.ofInt 2)).ordering? (.ofInt (-1)) = some .gt := by decide +kernel
  have none : Double.zero.nearest? = some 0 := by decide +kernel
  simp [round, below, above, none]

theorem checkedDuration_ofDays {n : Int} (inside : -Duration.maxDays ≤ n ∧ n ≤ Duration.maxDays) :
    checkedDuration (n * microsPerDay) = .ok (.ofDays n) := by
  have held : (Duration.ofDays n).isInRange = true := by
    simp only [Duration.isInRange, Duration.days_ofDays, Bool.and_eq_true, decide_eq_true_eq]
    exact inside
  exact if_pos held

theorem of_checkedDuration {micros : Int} {d : Duration} (made : checkedDuration micros = .ok d) :
    d = ⟨micros⟩ := by
  dsimp only [checkedDuration] at made
  split at made
  · cases made
    rfl
  · split at made <;> cases made

/-- Weeks count as seven days each. -/
theorem shiftDuration_int (days weeks : Int) :
    shiftDuration (.int days) (.int weeks) = checkedDuration ((days + 7 * weeks) * microsPerDay) := by
  have sum : 0 + days * microsPerDay + weeks * (7 * microsPerDay : Nat) =
      (days + 7 * weeks) * microsPerDay := by
    push_cast
    ring
  rw [shiftDuration, MicrosSum.add_int, ok_bind, MicrosSum.add_int, ok_bind,
    MicrosSum.round_whole, sum]

/-! ## Shifts by whole days -/

variable {v : Value} {m shifted : Moment}

theorem momentOf_momentValue (m : Moment) : momentOf (momentValue m) = .ok m := by
  cases m <;> rfl

/-- Weeks are days, whether the shift succeeds or not. -/
theorem dateOffset_weeks (v : Value) (days weeks : Int) :
    dateOffset v (.int days) (.int weeks) = dateOffset v (.int (days + 7 * weeks)) (.int 0) := by
  have same : days + 7 * weeks + 7 * 0 = days + 7 * weeks := by omega
  rw [dateOffset, dateOffset, shiftDuration_int, shiftDuration_int, same]

/-- A shift succeeds exactly if there is a date that many days away. -/
theorem dateOffset_eq_ok (reads : momentOf v = .ok m) (days : Int) :
    dateOffset v (.int days) (.int 0) = .ok shifted ↔
      ∃ d : Date, (d.ordinal : Int) = m.day.ordinal + days ∧ m.onDay d = shifted := by
  have moved : dateOffset v (.int days) (.int 0) = .ok shifted ↔
      ∃ duration, checkedDuration (days * microsPerDay) = .ok duration ∧
        m.add? duration = some shifted := by
    rw [dateOffset, reads, ok_bind, shiftDuration_int, bind_eq_ok]
    have same : days + 7 * 0 = days := by omega
    rw [same]
    refine exists_congr fun duration => and_congr_right fun _ => ?_
    cases m.add? duration <;> simp [pure, Except.pure, throw, throwThe, MonadExceptOf.throw]
  rw [moved]
  constructor
  · rintro ⟨duration, made, added⟩
    cases of_checkedDuration made
    obtain ⟨d, day, rfl⟩ := Option.map_eq_some_iff.1 ((m.add?_ofDays days).symm.trans added)
    exact ⟨d, Date.ofDay?_eq_some.1 day, rfl⟩
  · rintro ⟨d, day, rfl⟩
    -- A distance between two dates is never too long for a duration.
    have inside : -Duration.maxDays ≤ days ∧ days ≤ Duration.maxDays := by
      have := d.one_le
      have := d.le_last
      have := m.day.one_le
      have := m.day.le_last
      unfold Duration.maxDays
      unfold lastDay at *
      omega
    refine ⟨.ofDays days, checkedDuration_ofDays inside, ?_⟩
    rw [m.add?_ofDays, Date.ofDay?_eq_some.2 day, Option.map_some]

/-- What a shift gives is shifted on from there. -/
theorem dateOffset_twice (reads : momentOf v = .ok m) {a : Int}
    (moved : dateOffset v (.int a) (.int 0) = .ok shifted) (b : Int) {twice : Moment} :
    dateOffset (momentValue shifted) (.int b) (.int 0) = .ok twice ↔
      dateOffset v (.int (a + b)) (.int 0) = .ok twice := by
  obtain ⟨d, day, rfl⟩ := (dateOffset_eq_ok reads a).1 moved
  rw [dateOffset_eq_ok (momentOf_momentValue _), dateOffset_eq_ok reads, Moment.day_onDay, day]
  simp only [Moment.onDay_onDay, Int.add_assoc]

/-- Three hours behind universal time. -/
def threeBehind : Offset := ⟨-10800000000, by decide⟩

/-- Half an hour before the leap day of 2024 begins, three hours behind universal time. -/
def leapNight : DateTime :=
  { date := ⟨738944, by decide, by decide⟩, time := ⟨84600000000, by decide⟩,
    offset := some (.ofOffset threeBehind) }

/-- Noon in Kathmandu on the last day of 1985. -/
def lastNoon : DateTime :=
  { date := ⟨725006, by decide, by decide⟩, time := ⟨43200000000, by decide⟩, offset := some .kathmandu }

/-- Noon in Kathmandu on the first day of 1986. -/
def firstNoon : DateTime := { lastNoon with date := ⟨725007, by decide, by decide⟩ }

end Formatting
end DocumentServer
