import DocumentServer.Calendar.DateTime
import DocumentServer.Proofs.Number.Double

/-!
Deadlines: which durations a time of the calendar can be moved on by, and what their length is in
milliseconds.
-/
namespace DocumentServer.Calendar

theorem Date.ofDay?_isSome {n : Int} : (Date.ofDay? n).isSome ↔ 1 ≤ n ∧ n ≤ lastDay := by
  unfold Date.ofDay?
  split
  · next inside =>
      simp only [Option.isSome_some, true_iff]
      omega
  · next outside =>
      simp only [Option.isSome_none, Bool.false_eq_true, false_iff]
      omega

namespace DateTime

/-- There is a time of day in every microsecond of a day. -/
theorem ofLocalMicros?_isSome {n : Int} (offset : Option Zone) :
    (ofLocalMicros? n offset).isSome ↔ microsPerDay ≤ n ∧ n < (lastDay + 1) * microsPerDay := by
  have day := @Date.ofDay?_isSome (n / microsPerDay)
  have inside : (n % microsPerDay).toNat < microsPerDay := by
    unfold microsPerDay microsPerSecond
    omega
  have timed : TimeOfDay.ofMicros? (n % microsPerDay).toNat = some ⟨_, inside⟩ := dif_pos inside
  have same : (ofLocalMicros? n offset).isSome ↔ (Date.ofDay? (n / microsPerDay)).isSome := by
    unfold ofLocalMicros?
    cases Date.ofDay? (n / microsPerDay) with
    | none => rfl
    | some date => simp [timed]
  rw [same, day]
  unfold microsPerDay microsPerSecond lastDay
  omega

theorem microsPerDay_le_localMicros (t : DateTime) : (microsPerDay : Int) ≤ t.localMicros := by
  have first := t.date.one_le
  unfold localMicros microsPerDay microsPerSecond
  omega

/-- A time can be moved on until the end of the calendar. -/
theorem add?_isSome {t : DateTime} {d : Duration} (forward : 0 ≤ d.micros) :
    (t.add? d).isSome ↔ t.localMicros + d.micros < (lastDay + 1) * microsPerDay := by
  have first := t.microsPerDay_le_localMicros
  rw [add?, ofLocalMicros?_isSome]
  omega

end DateTime

namespace Duration

/-- A number of seconds is a duration as long as it makes no more than the greatest number of days. -/
theorem isInRange_ofSeconds {n : Int} (positive : 0 < n) :
    (ofSeconds n).isInRange = true ↔ n < (maxDays + 1) * 86400 := by
  have told : (ofSeconds n).isInRange = true ↔
      -maxDays ≤ n * microsPerSecond / microsPerDay ∧
        n * microsPerSecond / microsPerDay ≤ maxDays := by
    simp only [isInRange, Bool.and_eq_true, decide_eq_true_eq]
    rfl
  rw [told]
  unfold maxDays microsPerDay microsPerSecond
  omega

/-- The milliseconds of whole seconds are not rounded, as long as they are below `2 ^ 53`. -/
theorem millis_ofSeconds {n : Nat} (positive : 0 < n) (small : n * 1000 < 2 ^ 53) :
    (ofSeconds n).millis = 1000 * n := by
  have seconds : (ofSeconds n).totalSeconds = Double.whole false n := by
    have fits : n < 2 ^ 53 := by omega
    have product : (n : Int) * microsPerSecond = (n * microsPerSecond : Nat) := by push_cast; rfl
    have sign : decide (((n * microsPerSecond : Nat) : Int) < 0) = false := by
      rw [decide_eq_false_iff_not]
      omega
    rw [totalSeconds, ofSeconds, product, sign, Int.natAbs_natCast]
    exact Double.ofRatio_whole false positive fits (show 0 < microsPerSecond by decide)
  have thousand : Double.ofInt 1000 = Double.whole false 1000 :=
    Double.ofInt_whole (by decide) (by decide)
  rw [millis, seconds, thousand, Double.mul_whole _ _ positive (by decide) small,
    Double.truncate?_whole _ (by omega) small]
  simp only [bne_self_eq_false, Double.signed, Option.getD_some, Bool.false_eq_true, if_false]
  push_cast
  ring

/-- No deadline is so far away that the milliseconds up to it are rounded. -/
theorem millis_of_deadline {t : DateTime} {seconds : Int} (positive : 0 < seconds)
    (early : t.localMicros + seconds * microsPerSecond < (lastDay + 1) * microsPerDay) :
    (ofSeconds seconds).millis = 1000 * seconds := by
  have first := t.microsPerDay_le_localMicros
  obtain ⟨n, rfl⟩ := Int.eq_ofNat_of_zero_le positive.le
  have small : n * 1000 < 2 ^ 53 := by
    simp only [microsPerDay, microsPerSecond, lastDay] at early first
    omega
  exact millis_ofSeconds (by omega) small

end Duration
end DocumentServer.Calendar
