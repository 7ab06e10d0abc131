import DocumentServer.Calendar.Date
import DocumentServer.Calendar.Zone

/-!
Dates with a time of day, alone or with an offset from universal time that a zone tells.
-/
namespace DocumentServer.Calendar

/-- Microseconds since midnight. -/
structure TimeOfDay where
  micros : Nat
  lt_day : micros < microsPerDay
  deriving DecidableEq

namespace TimeOfDay

def midnight : TimeOfDay := ⟨0, by decide⟩

def hour (t : TimeOfDay) : Nat := t.micros / (3600 * microsPerSecond)

def minute (t : TimeOfDay) : Nat := t.micros / (60 * microsPerSecond) % 60

def second (t : TimeOfDay) : Nat := t.micros / microsPerSecond % 60

def fraction (t : TimeOfDay) : Nat := t.micros % microsPerSecond

def ofMicros? (n : Nat) : Option TimeOfDay :=
  if h : n < microsPerDay then some ⟨n, h⟩ else none

def ofFields? (hour minute second micro : Nat) : Option TimeOfDay :=
  if hour < 24 && minute < 60 && second < 60 && micro < microsPerSecond then
    ofMicros? (((hour * 60 + minute) * 60 + second) * microsPerSecond + micro)
  else none

end TimeOfDay

structure DateTime where
  date : Date
  time : TimeOfDay
  /-- What tells the offset from universal time, if anything does. -/
  offset : Option Zone
  deriving DecidableEq

namespace DateTime

/-- Microseconds from the beginning of day 0 to the local time. -/
def localMicros (t : DateTime) : Int := t.date.ordinal * microsPerDay + t.time.micros

def ofLocalMicros? (n : Int) (offset : Option Zone) : Option DateTime := do
  let date ← Date.ofDay? (n / microsPerDay)
  let time ← TimeOfDay.ofMicros? (n % microsPerDay).toNat
  return { date, time, offset }

/-- The offset from universal time. -/
def utcOffset (t : DateTime) : Option Offset := t.offset.map (·.offsetAt t.localMicros)

/-- The name of the offset, empty where there is none. -/
def zoneName (t : DateTime) : List Char := (t.offset.map (·.nameAt t.localMicros)).getD []

/-- Microseconds from the beginning of day 0 in universal time. -/
def instant (t : DateTime) : Int := t.localMicros - (t.utcOffset.map (·.micros)).getD 0

/-- The local time later by a duration. -/
def add? (t : DateTime) (d : Duration) : Option DateTime :=
  ofLocalMicros? (t.localMicros + d.micros) t.offset

/-- Takes a time without offset as universal time. -/
def withOffset (t : DateTime) : DateTime :=
  { t with offset := some (t.offset.getD .utc) }

/-- The day number of the first of January 1970. -/
def epochDay : Int := 719163

/-- Microseconds since the beginning of 1970 in universal time. -/
def epochMicros (t : DateTime) : Int := t.instant - epochDay * microsPerDay

end DateTime
end DocumentServer.Calendar
