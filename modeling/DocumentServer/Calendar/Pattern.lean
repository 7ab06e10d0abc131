import DocumentServer.Calendar.DateTime
import DocumentServer.Calendar.Iso

/-!
Dates and times written by a pattern, in which each directive is a per cent sign and a letter. The
names are English. Years are written without leading zeros.
-/
namespace DocumentServer.Calendar.Pattern

def weekdayNames : List String :=
  ["Monday", "Tuesday", "Wednesday", "Thursday", "Friday", "Saturday", "Sunday"]

def monthNames : List String :=
  ["January", "February", "March", "April", "May", "June", "July", "August", "September",
    "October", "November", "December"]

def weekdayName (d : Date) : List Char := (weekdayNames.getD d.weekday "").toList

def monthName (d : Date) : List Char := (monthNames.getD (d.civil.month - 1) "").toList

/-- The hour on a clock face of twelve hours. -/
def clockHour (t : TimeOfDay) : Nat := if t.hour % 12 == 0 then 12 else t.hour % 12

/-- The number of the week of the year, when weeks begin on the given day since Monday. Days before
the first such day are in week zero. -/
def weekOfYear (firstDay : Nat) (d : Date) : Nat :=
  (d.dayOfYear - 1 + 7 - (d.weekday + 7 - firstDay) % 7) / 7

def number (n : Int) : List Char :=
  if n < 0 then '-' :: Nat.toDigits 10 n.natAbs else Nat.toDigits 10 n.natAbs

/-- The number with a blank in place of a leading zero. -/
def blankPadded (n : Nat) : List Char := (Nat.toDigits 10 n).leftpad 2 ' '

/-- The text of a directive, or `none` for a letter that is no directive. -/
def directive? (t : DateTime) (letter : Char) : Option (List Char) :=
  let c := t.date.civil
  let day := padded 2 c.day
  let month := padded 2 c.month
  let shortYear := padded 2 (c.year % 100).toNat
  let hour := padded 2 t.time.hour
  let minute := padded 2 t.time.minute
  let second := padded 2 t.time.second
  let halfDay := if t.time.hour < 12 then ['A', 'M'] else ['P', 'M']
  let clock := hour ++ ':' :: minute ++ ':' :: second
  match letter with
  | 'a' => some ((weekdayName t.date).take 3)
  | 'A' => some (weekdayName t.date)
  | 'b' => some ((monthName t.date).take 3)
  | 'h' => some ((monthName t.date).take 3)
  | 'B' => some (monthName t.date)
  | 'd' => some day
  | 'e' => some (blankPadded c.day)
  | 'm' => some month
  | 'y' => some shortYear
  | 'Y' => some (number c.year)
  | 'C' => some (number (c.year / 100))
  | 'H' => some hour
  | 'k' => some (blankPadded t.time.hour)
  | 'I' => some (padded 2 (clockHour t.time))
  | 'l' => some (blankPadded (clockHour t.time))
  | 'M' => some minute
  | 'S' => some second
  | 'f' => some (padded 6 t.time.fraction)
  | 'p' => some halfDay
  | 'P' => some (halfDay.map Char.toLower)
  | 'j' => some (padded 3 t.date.dayOfYear)
  | 'U' => some (padded 2 (weekOfYear 6 t.date))
  | 'W' => some (padded 2 (weekOfYear 0 t.date))
  | 'w' => some (Nat.toDigits 10 ((t.date.weekday + 1) % 7))
  | 'u' => some (Nat.toDigits 10 (t.date.weekday + 1))
  | 'G' => some (number t.date.week.1)
  | 'g' => some (padded 2 (t.date.week.1 % 100).toNat)
  | 'V' => some (padded 2 t.date.week.2)
  | 'z' => some ((t.utcOffset.map (·.text [])).getD [])
  | 'Z' => some t.zoneName
  | 'D' => some (month ++ '/' :: day ++ '/' :: shortYear)
  | 'x' => some (month ++ '/' :: day ++ '/' :: shortYear)
  | 'F' => some (number c.year ++ '-' :: month ++ '-' :: day)
  | 'T' => some clock
  | 'X' => some clock
  | 'R' => some (hour ++ ':' :: minute)
  | 'r' => some (padded 2 (clockHour t.time) ++ ':' :: minute ++ ':' :: second ++ ' ' :: halfDay)
  | 'c' =>
    some ((weekdayName t.date).take 3 ++ ' ' :: (monthName t.date).take 3 ++ ' ' ::
      blankPadded c.day ++ ' ' :: clock ++ ' ' :: number c.year)
  | 'n' => some ['\n']
  | 't' => some ['\t']
  | '%' => some ['%']
  | _ => none

/-- A letter that is no directive, and a per cent sign at the end, stand for themselves. -/
def expand (t : DateTime) : List Char → List Char
  | [] => []
  | '%' :: letter :: rest => (directive? t letter).getD ['%', letter] ++ expand t rest
  | c :: rest => c :: expand t rest

/-- A null character ends the pattern, and also what is written where a zone has one in its name. -/
def format (t : DateTime) (pattern : String) : String :=
  let written := expand t (pattern.toList.takeWhile (· != '\x00'))
  .ofList (written.takeWhile (· != '\x00'))

/-- A date is written as its midnight, without an offset. -/
def formatDate (d : Date) (pattern : String) : String :=
  format { date := d, time := .midnight, offset := none } pattern

/-- The date, time and offset of a mail header. -/
def mail (t : DateTime) : String :=
  let c := t.date.civil
  let clock := padded 2 t.time.hour ++ ':' :: padded 2 t.time.minute ++ ':' :: padded 2 t.time.second
  .ofList ((weekdayName t.date).take 3 ++ ',' :: ' ' :: padded 2 c.day ++ ' ' ::
    (monthName t.date).take 3 ++ ' ' :: padded 4 c.year.toNat ++ ' ' :: clock ++ ' ' ::
    (t.utcOffset.map (·.text [])).getD ['-', '0', '0', '0', '0'])

end DocumentServer.Calendar.Pattern
