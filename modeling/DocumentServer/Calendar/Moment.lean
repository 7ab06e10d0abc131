import DocumentServer.Calendar.Iso
import DocumentServer.Calendar.Pattern

/-!
A moment is a date, or a date with a time of day.
-/
namespace DocumentServer.Calendar

inductive Moment where
  | date (d : Date)
  | dateTime (t : DateTime)
  deriving DecidableEq

namespace Moment

def iso : Moment → String
  | .date d => Iso.date d
  | .dateTime t => Iso.dateTime t

/-- Text that is a date alone stays a date. -/
def read? (text : String) : Option Moment :=
  match Iso.readDate? text with
  | some d => some (.date d)
  | none => (Iso.readDateTime? text).map .dateTime

def format (m : Moment) (pattern : String) : String :=
  match m with
  | .date d => Pattern.formatDate d pattern
  | .dateTime t => Pattern.format t pattern

/-- The moment later by a duration. A date moves by the whole days alone. -/
def add? (m : Moment) (duration : Duration) : Option Moment :=
  match m with
  | .date d => (d.addDays? duration.days).map .date
  | .dateTime t => (t.add? duration).map .dateTime

end Moment
end DocumentServer.Calendar
