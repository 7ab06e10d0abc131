import DocumentServer.Calendar.DateTime
import DocumentServer.Text.Utf8

/-!
Dates and times in ISO 8601 notation. Output is always the extended form. Input may be in the basic
or the extended form, by month or by week, with any character between date and time.

The reader works on the octets of the text, so that a separator of several octets is passed over
as one and the position of the separator is found from the first octets alone.
-/
namespace DocumentServer.Calendar.Iso

def dateChars (c : Civil) : List Char :=
  padded 4 c.year.toNat ++ '-' :: padded 2 c.month ++ '-' :: padded 2 c.day

def date (d : Date) : String := .ofList (dateChars d.civil)

def dateTimeChars (t : DateTime) : List Char :=
  dateChars t.date.civil ++ 'T' :: Duration.clockText 2 t.time.micros
    ++ match t.utcOffset with
      | none => []
      | some o => o.text [':']

def dateTime (t : DateTime) : String := .ofList (dateTimeChars t)

/-- The octets of a text, each as one character. -/
def octetChars (s : String) : List Char := (Text.encodeUtf8 s).map fun b => Char.ofNat b.toNat

/-- Reads a fixed number of the digits `0` to `9`. -/
def digits? : Nat → List Char → Option (Nat × List Char)
  | count, s =>
    let ds := s.take count
    if ds.length == count && ds.all Char.isDigit then
      some (Text.ofDigitValues (ds.map fun c => c.toNat - 48), s.drop count)
    else none

/-- Reads one given character. -/
def mark? (c : Char) : List Char → Option (List Char)
  | d :: rest => if d == c then some rest else none
  | [] => none

/-- Reads a date at the beginning of a text of which the first `length` octets are the date. What
follows the last field is not looked at. -/
def dateWithin? (length : Nat) (s : List Char) : Option Date := do
  let (year, rest) ← digits? 4 s
  let separated := rest.head? == some '-'
  let rest := if separated then rest.drop 1 else rest
  if rest.head? == some 'W' then
    let (week, rest) ← digits? 2 (rest.drop 1)
    let taken := s.length - rest.length
    if taken < length then
      let rest ← if separated then mark? '-' rest else some rest
      let (day, _) ← digits? 1 rest
      Date.ofWeek? year week day
    else Date.ofWeek? year week 1
  else
    let (month, rest) ← digits? 2 rest
    let rest ← if separated then mark? '-' rest else some rest
    let (day, _) ← digits? 2 rest
    Date.ofCivil? { year, month, day }

/-- Reads a date alone: seven, eight or ten octets. -/
def readDate? (text : String) : Option Date :=
  let s := octetChars text
  if s.length == 7 || s.length == 8 || s.length == 10 then dateWithin? s.length s else none

/-- The fields of a clock reading, and whether it ended with the text. -/
structure Clock where
  fields : List Nat
  micro : Nat
  complete : Bool

/-- The octet at the front; behind the end of the text stands a null character. -/
def front (s : List Char) : Char := s.headD '\x00'

/-- Reads the digits of a fraction: at most six count, the digits behind them are passed over. -/
def fraction? (s : List Char) (limit : Nat) : Option Clock := do
  let count := min limit 6
  let (n, rest) ← digits? count s
  let rest := rest.dropWhile Char.isDigit
  return { fields := [], micro := n * Nat.pow 10 (6 - count), complete := front rest == '\x00' }

/-- Reads up to `count` two-digit fields within the first `limit` octets. The octet behind the first
field decides whether colons separate them. The octet behind the last one is not looked at, except
to tell whether the text has ended. -/
def fields? : Nat → Option Bool → List Char → Nat → Option Clock
  | 0, _, s, limit => fraction? s limit
  | count + 1, separated?, s, limit => do
    let (field, rest) ← digits? 2 s
    let c := front rest
    let separated := separated?.getD (c == ':')
    let withField (clock : Clock) : Clock := { clock with fields := field :: clock.fields }
    if limit ≤ 3 then return { fields := [field], micro := 0, complete := c == '\x00' }
    else if separated && c == ':' then
      return withField (← fields? count separated (rest.drop 1) (limit - 3))
    else if c == '.' || c == ',' then return withField (← fraction? (rest.drop 1) (limit - 3))
    else if separated then none
    else return withField (← fields? count separated rest (limit - 2))

def clock? (s : List Char) (limit : Nat) : Option Clock := fields? 3 none s limit

def Clock.seconds (c : Clock) : Nat :=
  (c.fields.getD 0 0 * 60 + c.fields.getD 1 0) * 60 + c.fields.getD 2 0

def Clock.timeOfDay? (c : Clock) : Option TimeOfDay :=
  TimeOfDay.ofFields? (c.fields.getD 0 0) (c.fields.getD 1 0) (c.fields.getD 2 0) c.micro

/-- Reads an offset after its sign. Without whole seconds it is universal time. -/
def offset? (negative : Bool) (s : List Char) : Option Offset := do
  let clock ← clock? s s.length
  if !clock.complete then none
  else if clock.seconds == 0 then some .utc
  else
    let n : Int := clock.seconds * microsPerSecond + clock.micro
    Offset.ofMicros? (if negative then -n else n)

def isZoneMark (c : Char) : Bool := c == '+' || c == '-' || c == 'Z'

/-- Reads a time of day with an optional offset. -/
def time? (s : List Char) : Option (TimeOfDay × Option Offset) := do
  let limit := (s.takeWhile (!isZoneMark ·)).length
  let clock ← clock? s limit
  let offset ← match s.drop limit with
    | [] => if clock.complete then some none else none
    | 'Z' :: rest => if front rest == '\x00' then some (some Offset.utc) else none
    | sign :: rest => (offset? (sign == '-') rest).map some
  return (← clock.timeOfDay?, offset)

/-- Where the date ends, judged by its first octets. In a basic week date the parity of the run of
digits decides whether the day of the week is given. -/
def separatorPosition? (s : List Char) : Option Nat :=
  let octet (i : Nat) : Char := s.getD i '\x00'
  if s.length == 7 then some 7
  else if octet 4 == '-' then
    if octet 5 == 'W' then
      if s.length < 8 then none
      else if s.length > 8 && octet 8 == '-' then
        if s.length == 9 then none
        else if s.length > 10 && (octet 10).isDigit then some 8
        else some 10
      else some 8
    else some 10
  else if octet 4 == 'W' then
    let digitsEnd := 7 + ((s.drop 7).takeWhile Char.isDigit).length
    if digitsEnd < 9 then some digitsEnd
    else if digitsEnd % 2 == 0 then some 7
    else some 8
  else some 8

/-- The number of octets of the character that begins with a given octet. -/
def octetsOfChar (first : Char) : Nat :=
  let n := first.toNat
  if n < 0x80 then 1
  else if n / 16 == 14 then 3
  else if n / 16 == 15 then 4
  else 2

/-- Reads a date with an optional time of day and offset; the time is midnight if it is missing. -/
def readDateTime? (text : String) : Option DateTime := do
  let s := octetChars text
  let position ← separatorPosition? s
  let date ← dateWithin? position s
  match s.drop position with
  | [] => return { date, time := .midnight, offset := none }
  | separator :: rest =>
    let (time, offset) ← time? (rest.drop (octetsOfChar separator - 1))
    return { date, time, offset := offset.map Zone.ofOffset }

end DocumentServer.Calendar.Iso
