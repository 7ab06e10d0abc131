import DocumentServer.Number.Double

/-!
Durations: whole numbers of microseconds, of at most 999999999 days either way.
-/
namespace DocumentServer.Calendar

def microsPerSecond : Nat := 1000000

def microsPerDay : Nat := 86400 * microsPerSecond

/-- A number written with at least `width` digits. -/
def padded (width n : Nat) : List Char := (Nat.toDigits 10 n).leftpad width '0'

structure Duration where
  micros : Int
  deriving DecidableEq

namespace Duration

/-- The greatest number of whole days. -/
def maxDays : Int := 999999999

def days (d : Duration) : Int := d.micros / microsPerDay

/-- Microseconds beyond the whole days. -/
def microsOfDay (d : Duration) : Nat := (d.micros % microsPerDay).toNat

def ofSeconds (n : Int) : Duration := ⟨n * microsPerSecond⟩

/-- The seconds in floating point. -/
def totalSeconds (d : Duration) : Double :=
  .ofRatio (d.micros < 0) d.micros.natAbs microsPerSecond

/-- The whole milliseconds, towards zero. They are counted from the seconds in floating point, which
are finite for every duration in range. -/
def millis (d : Duration) : Int := ((d.totalSeconds.mul (.ofInt 1000)).truncate?).getD 0

def isInRange (d : Duration) : Bool := -maxDays ≤ d.days && d.days ≤ maxDays

/-- Hours, minutes and seconds, with the microseconds where there are any. -/
def clockText (hourWidth micros : Nat) : List Char :=
  let seconds := micros / microsPerSecond
  let fraction := micros % microsPerSecond
  padded hourWidth (seconds / 3600) ++ ':' :: padded 2 (seconds / 60 % 60) ++ ':' ::
    padded 2 (seconds % 60) ++ if fraction == 0 then [] else '.' :: padded 6 fraction

/-- The days, if any, before the time within the day. -/
def render (d : Duration) : String :=
  let clock := String.ofList (clockText 1 d.microsOfDay)
  if d.days == 0 then clock
  else
    let unit := if d.days.natAbs == 1 then "day" else "days"
    s!"{d.days} {unit}, {clock}"

end Duration
end DocumentServer.Calendar
