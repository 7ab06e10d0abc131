import DocumentServer.Calendar.Moment
import DocumentServer.Fault
import DocumentServer.Value.Basic

/-!
Shifting a date by days and weeks. Both may be fractions; what is left of a microsecond goes to the
nearest, and a half to the even one.
-/
namespace DocumentServer.Formatting
open Calendar

/-- Whole microseconds and the fraction of one that is still to be rounded. -/
structure MicrosSum where
  whole : Int
  rest : Double

def wrongShiftType (name : String) (value : Value) : Fault :=
  .wrongType s!"unsupported type for timedelta {name} component: {value.typeName}"

/-- The integer part of a number, towards zero, or why there is none. -/
def wholePart (x : Double) : Except Fault Int :=
  match x with
  | .nan => .error (.wrongValue "cannot convert float NaN to integer")
  | .infinite _ => .error (.overflow "cannot convert float infinity to integer")
  | x => .ok (x.truncate?.getD 0)

/-- Adds a count of units, each a number of microseconds. -/
def MicrosSum.add (sum : MicrosSum) (name : String) (unit : Nat) (value : Value) :
    Except Fault MicrosSum :=
  match value with
  | .double x => do
    let whole ← wholePart x
    let fraction := x.sub (.ofInt whole)
    let micros := (Double.ofInt unit).mul fraction
    let below ← wholePart micros
    return { whole := sum.whole + whole * unit + below,
             rest := sum.rest.add (micros.sub (.ofInt below)) }
  | value => match value.int? with
    | some n => .ok { sum with whole := sum.whole + n * unit }
    | none => .error (wrongShiftType name value)

/-- The nearest integer to the sum, ties to even. -/
def MicrosSum.round (sum : MicrosSum) : Int :=
  let twice := sum.rest.mul (.ofInt 2)
  let isHalf := twice.ordering? (.ofInt 1) == some .eq || twice.ordering? (.ofInt (-1)) == some .eq
  if isHalf then
    if sum.whole % 2 == 0 then sum.whole
    else if sum.rest.isNegative then sum.whole - 1 else sum.whole + 1
  else sum.whole + sum.rest.nearest?.getD 0

/-- A duration, refused when it has too many days. -/
def checkedDuration (micros : Int) : Except Fault Duration :=
  let d : Duration := ⟨micros⟩
  if d.isInRange then .ok d
  else if d.days < -(Nat.pow 2 31 : Int) || (Nat.pow 2 31 : Int) ≤ d.days then
    .error (.overflow "Python int too large to convert to C int")
  else .error (.overflow s!"days={d.days}; must have magnitude <= {Duration.maxDays}")

def shiftDuration (days weeks : Value) : Except Fault Duration := do
  let sum ← MicrosSum.add { whole := 0, rest := .zero } "days" microsPerDay days
  let sum ← sum.add "weeks" (7 * microsPerDay) weeks
  checkedDuration sum.round

end DocumentServer.Formatting
