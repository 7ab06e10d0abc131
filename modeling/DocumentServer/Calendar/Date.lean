/-!
Dates of the Gregorian calendar, extended to every year from 1 to 9999. A date is the number of its
day; year, month and day of the month are read off that number.
-/
namespace DocumentServer.Calendar

/-- The last day of the year 9999. -/
def lastDay : Nat := 3652059

/-- Day 1 is the first of January of the year 1. -/
structure Date where
  ordinal : Nat
  one_le : 1 ≤ ordinal
  le_last : ordinal ≤ lastDay
  deriving DecidableEq

structure Civil where
  year : Int
  month : Nat
  day : Nat
  deriving DecidableEq

def isLeap (year : Int) : Bool := year % 4 == 0 && (year % 100 != 0 || year % 400 == 0)

/-- Days before the first of January of a year, counted from the year 1. -/
def daysBeforeYear (year : Int) : Int :=
  let y := year - 1
  y * 365 + y / 4 - y / 100 + y / 400

def monthLengths (leap : Bool) : List Nat :=
  [31, if leap then 29 else 28, 31, 30, 31, 30, 31, 31, 30, 31, 30, 31]

def monthLength (year : Int) (month : Nat) : Nat := (monthLengths (isLeap year)).getD (month - 1) 0

def daysBeforeMonth (year : Int) (month : Nat) : Nat :=
  ((monthLengths (isLeap year)).take (month - 1)).foldr (· + ·) 0

/-- The day number of a civil date. -/
def dayNumber (c : Civil) : Int := daysBeforeYear c.year + daysBeforeMonth c.year c.month + c.day

/-- The year that holds a day. The quotient by the mean length of a year is at most one off. -/
def yearOfDay (n : Int) : Int :=
  let guess := (n - 1) * 400 / 146097 + 1
  if daysBeforeYear (guess + 1) < n then guess + 1
  else if daysBeforeYear guess < n then guess
  else guess - 1

/-- The month and day of the month of a day of the year, given the lengths of the months left. -/
def monthOfDay : Nat → List Nat → Nat → Nat × Nat
  | month, [], day => (month, day)
  | month, length :: rest, day =>
    if day ≤ length then (month, day) else monthOfDay (month + 1) rest (day - length)

/-- The civil date of a day number, also outside the range of `Date`. -/
def civilOfDay (n : Int) : Civil :=
  let year := yearOfDay n
  let (month, day) := monthOfDay 1 (monthLengths (isLeap year)) (n - daysBeforeYear year).toNat
  { year, month, day }

def Civil.isValid (c : Civil) : Bool :=
  1 ≤ c.year && c.year ≤ 9999 && 1 ≤ c.month && c.month ≤ 12 && 1 ≤ c.day
    && c.day ≤ monthLength c.year c.month

namespace Date

def ofDay? (n : Int) : Option Date :=
  if h : 1 ≤ n.toNat ∧ n.toNat ≤ lastDay then some ⟨n.toNat, h.1, h.2⟩ else none

def ofCivil? (c : Civil) : Option Date := if c.isValid then ofDay? (dayNumber c) else none

def civil (d : Date) : Civil := civilOfDay d.ordinal

/-- The date some days later, or earlier for a negative number. -/
def addDays? (d : Date) (days : Int) : Option Date := ofDay? (d.ordinal + days)

/-- Days since Monday. -/
def weekday (d : Date) : Nat := (d.ordinal + 6) % 7

def dayOfYear (d : Date) : Nat := d.ordinal - (daysBeforeYear d.civil.year).toNat

end Date

/-- Days since Monday of any day number. -/
def weekdayOfDay (n : Int) : Int := (n + 6) % 7

/-- The Monday of the week that holds the first Thursday of a year. -/
def firstWeekMonday (year : Int) : Int :=
  let first := daysBeforeYear year + 1
  let weekday := weekdayOfDay first
  first - weekday + if weekday > 3 then 7 else 0

/-- The week-based year and week of a date. -/
def Date.week (d : Date) : Int × Nat :=
  let year := d.civil.year
  let weeksFrom (y : Int) : Int := ((d.ordinal : Int) - firstWeekMonday y) / 7
  if (d.ordinal : Int) < firstWeekMonday year then (year - 1, (weeksFrom (year - 1) + 1).toNat)
  else if firstWeekMonday (year + 1) ≤ d.ordinal then (year + 1, 1)
  else (year, (weeksFrom year + 1).toNat)

/-- The date of a week-based year, week and day of the week. -/
def Date.ofWeek? (year : Int) (week day : Nat) : Option Date :=
  let weeks := (firstWeekMonday (year + 1) - firstWeekMonday year) / 7
  if 1 ≤ year && year ≤ 9999 && 1 ≤ week && week ≤ weeks && 1 ≤ day && day ≤ 7 then
    ofDay? (firstWeekMonday year + 7 * (week - 1 : Int) + (day - 1 : Int))
  else none

end DocumentServer.Calendar
