import DocumentServer.Formatting.Formats
import DocumentServer.Formatting.Shift

/-!
The date and timestamp filters. Text is read as an ISO date or time; a number is a time in seconds
since 1970; a time without an offset is taken as universal time where a timestamp is written.
-/
namespace DocumentServer.Formatting
open Calendar

/-- The moment that a value denotes. -/
def momentOf (value : Value) : Except Fault Moment :=
  match value with
  | .date d => .ok (.date d)
  | .dateTime t => .ok (.dateTime t)
  | value => match value.text? with
    | some s => match Moment.read? s with
      | some m => .ok m
      | none => .error ⟨.filterValue, s!"'{s}' is not an ISO date"⟩
    | none => .error ⟨.filterValue, "date filters require a date, datetime or ISO string"⟩

def momentValue : Moment → Value
  | .date d => .date d
  | .dateTime t => .dateTime t

/-- Shifts a date by days and weeks. -/
def dateOffset (value days weeks : Value) : Except Fault Moment := do
  let moment ← momentOf value
  let duration ← shiftDuration days weeks
  match moment.add? duration with
  | some m => return m
  | none => throw (.overflow "date value out of range")

def formatDate (formats : Formats) (value key : Value) : Except Fault String := do
  let moment ← momentOf value
  match ← definition "date" formats key with
  | .text "ISO" => return moment.iso
  | d => return moment.format d.render

/-- The seconds that fit the clock of the platform. -/
def secondLimit : Int := Nat.pow 2 63

/-- The years that fit a broken-down time. -/
def yearLimit : Int := Nat.pow 2 31

/-- The universal time some seconds after 1970 began, to the nearest microsecond. A year that is
out of range is told in 32 bits. -/
def timeOfSeconds (x : Double) : Except Fault DateTime := do
  let outOfRange : Fault := .overflow "timestamp out of range for platform time_t"
  if x == .nan then throw (.wrongValue "Invalid value NaN (not a number)")
  let some whole := x.truncate? | throw outOfRange
  let fraction := x.sub (.ofInt whole)
  let micros := ((fraction.mul (.ofInt microsPerSecond)).nearest?).getD 0
  let total := whole * microsPerSecond + micros
  let seconds := total / microsPerSecond
  if seconds < -secondLimit || secondLimit ≤ seconds then throw outOfRange
  let year := (civilOfDay (seconds / 86400 + DateTime.epochDay)).year
  if year - 1900 < -yearLimit || yearLimit ≤ year - 1900 then
    throw ⟨.system, "[Errno 75] Value too large for defined data type"⟩
  match DateTime.ofLocalMicros? (total + DateTime.epochDay * microsPerDay) (some .utc) with
  | some t => return t
  | none =>
    let shown := Int.bmod year (Nat.pow 2 32)
    throw (.wrongValue s!"year {shown} is out of range")

/-- A number as a binary number. -/
def toDouble (value : Value) : Except Fault (Option Double) :=
  match value with
  | .double x => .ok (some x)
  | .decimal d => match d.toDouble? with
    | some x => .ok (some x)
    | none => .error (.wrongValue "cannot convert signaling NaN to float")
  | value => match value.int? with
    | none => .ok none
    | some n =>
      let x := Double.ofInt n
      if x.isFinite then .ok (some x)
      else .error (.overflow "int too large to convert to float")

def timeOf (value : Value) : Except Fault DateTime := do
  if let some x ← toDouble value then return ← timeOfSeconds x
  let notTime : Fault := ⟨.filterValue, "timestamp_format requires a datetime"⟩
  match value with
  | .dateTime t => return t
  | value => match value.text? with
    | some s => match Iso.readDateTime? s with
      | some t => return t
      | none => throw ⟨.filterValue, s!"'{s}' is not an ISO timestamp"⟩
    | none => throw notTime

/-- Whole seconds since 1970, towards zero, of the nearest binary number. -/
def unixSeconds (t : DateTime) : Int :=
  let micros := t.epochMicros
  ((Double.ofRatio (micros < 0) micros.natAbs microsPerSecond).truncate?).getD 0

def formatTimestamp (formats : Formats) (value key : Value) : Except Fault String := do
  let time ← timeOf value
  let d ← definition "timestamp" formats key
  let time := time.withOffset
  checkKey d
  match d.text? with
  | some "ISO" => return Iso.dateTime time
  | some "UNIX" => return Value.intText (unixSeconds time)
  | some "RFC2822" => return Pattern.mail time
  | some pattern => return Pattern.format time pattern
  | none => throw (.wrongType s!"strftime() argument 1 must be str, not {d.typeName}")

end DocumentServer.Formatting
