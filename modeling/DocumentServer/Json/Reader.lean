import DocumentServer.Json.Basic
import DocumentServer.Text.Digit

/-!
Reading JSON. Beside the standard, `NaN` and the two infinities are numbers, and of a repeated
member the last value counts. An error tells the position, counted in characters.
-/
namespace DocumentServer.Json

inductive ReadError where
  /-- The text is not JSON from a position on. -/
  | malformed (message : String) (position : Nat)
  /-- An integer has too many digits. -/
  | hugeInteger (digits : Nat)
  /-- Too many collections lie inside of each other. -/
  | tooDeep
  deriving DecidableEq

namespace ReadError

/-- The line of a position and the place in the line, both counted from one. -/
def lineAndColumn (source : List Char) (position : Nat) : Nat × Nat :=
  let before := source.take position
  (before.count '\n' + 1, (before.reverse.takeWhile (· != '\n')).length + 1)

/-- What is wrong with a text, and where. -/
def message (source : String) : ReadError → String
  | .malformed message position =>
    let (line, column) := lineAndColumn source.toList position
    s!"{message}: line {line} column {column} (char {position})"
  | .hugeInteger digits =>
    "Exceeds the limit (4300 digits) for integer string conversion: value has "
      ++ s!"{digits} digits; use sys.set_int_max_str_digits() to increase the limit"
  | .tooDeep => "maximum recursion depth exceeded while decoding a JSON array from a unicode string"

end ReadError

/-- A place in a text: what is left of it, and how much has been read. -/
structure Cursor where
  position : Nat
  rest : List Char

namespace Cursor

def advance (c : Cursor) (count : Nat) : Cursor :=
  { position := c.position + count, rest := c.rest.drop count }

def fail {α : Type} (c : Cursor) (message : String) : Except ReadError α :=
  .error (.malformed message c.position)

def isSpace (c : Char) : Bool := c == ' ' || c == '\t' || c == '\n' || c == '\r'

def skipSpace (c : Cursor) : Cursor := c.advance (c.rest.takeWhile isSpace).length

/-- The cursor behind a given word, if it stands there. -/
def skipWord? (word : String) (c : Cursor) : Option Cursor :=
  if word.toList.isPrefixOf c.rest then some (c.advance word.length) else none

end Cursor

def maxIntegerDigits : Nat := 4300

/-- The parts of a numeral: integer digits, digits behind the point, exponent. -/
def readNumber (c : Cursor) : Except ReadError (Json × Cursor) := do
  let negative := c.rest.head? == some '-'
  let body := if negative then c.rest.drop 1 else c.rest
  let digits := body.takeWhile Char.isDigit
  let whole := if digits.head? == some '0' then ['0'] else digits
  if whole.isEmpty then c.fail "Expecting value"
  let rest := body.drop whole.length
  let fraction := match rest with
    | '.' :: tail => tail.takeWhile Char.isDigit
    | _ => []
  let rest := if fraction.isEmpty then rest else rest.drop (fraction.length + 1)
  let (exponentLength, exponent) : Nat × Option Int := match rest with
    | mark :: tail =>
      if mark == 'e' || mark == 'E' then
        let sign := tail.takeWhile (fun d => d == '+' || d == '-') |>.take 1
        let digits := (tail.drop sign.length).takeWhile Char.isDigit
        match Text.asciiNumber? digits with
        | some n => (1 + sign.length + digits.length, some (if sign == ['-'] then -(n : Int) else n))
        | none => (0, none)
      else (0, none)
    | [] => (0, none)
  let rest := rest.drop exponentLength
  let cursor : Cursor := { position := c.position + (c.rest.length - rest.length), rest }
  if fraction.isEmpty && exponent.isNone then
    if maxIntegerDigits < whole.length then throw (ReadError.hugeInteger whole.length)
    let n := (Text.asciiNumber? whole).getD 0
    return (.int (if negative then -(n : Int) else n), cursor)
  else
    let coefficient := (Text.asciiNumber? (whole ++ fraction)).getD 0
    return (.double (.ofDecimal negative coefficient (exponent.getD 0 - fraction.length)), cursor)

def escapes : List (Char × Char) :=
  [('"', '"'), ('\\', '\\'), ('/', '/'), ('b', '\x08'), ('f', '\x0c'), ('n', '\n'), ('r', '\r'),
    ('t', '\t')]

/-- The number of four hexadecimal digits. -/
def unit16? (s : List Char) : Option Nat :=
  match (s.take 4).mapM Text.hexValue? with
  | some [a, b, c, d] => some (((a * 16 + b) * 16 + c) * 16 + d)
  | _ => none

def isHighUnit (n : Nat) : Bool := 0xD800 ≤ n && n ≤ 0xDBFF

def isLowUnit (n : Nat) : Bool := 0xDC00 ≤ n && n ≤ 0xDFFF

/-- The character of one or two units behind `\u`, and how many characters they take. At least one more
character has to follow. A unit that is half a character stands as a replacement character. -/
def escapedChar (start : Nat) (s : List Char) : Except ReadError (Char × Nat) := do
  let some first := if s.length ≤ 4 then none else unit16? s
    | throw (ReadError.malformed "Invalid \\uXXXX escape" (start + 1))
  let second := s.drop 4
  if isHighUnit first && 6 < second.length && second.take 2 == ['\\', 'u'] then
    let some low := unit16? (second.drop 2)
      | throw (ReadError.malformed "Invalid \\uXXXX escape" (start + 7))
    if isLowUnit low then
      return (Char.ofNat (0x10000 + (first - 0xD800) * 0x400 + (low - 0xDC00)), 10)
  let plain := if isHighUnit first || isLowUnit first then 0xFFFD else first
  return (Char.ofNat plain, 4)

/-- The characters of a text up to its closing mark. The fuel is at least the length. -/
def readTextFrom (opening : Nat) (fuel : Nat) (c : Cursor) : Except ReadError (List Char × Cursor) :=
  let unterminated := Except.error (ReadError.malformed "Unterminated string starting at" opening)
  match fuel, c.rest with
  | 0, _ => unterminated
  | _, [] => unterminated
  | _, '"' :: rest => .ok ([], { position := c.position + 1, rest })
  | fuel + 1, '\\' :: 'u' :: rest => do
    let (char, size) ← escapedChar c.position rest
    let (chars, last) ← readTextFrom opening fuel (c.advance (size + 2))
    return (char :: chars, last)
  | _, ['\\'] => unterminated
  | fuel + 1, '\\' :: letter :: _ =>
    match Association.get? letter escapes with
    | some char => do
      let (chars, last) ← readTextFrom opening fuel (c.advance 2)
      return (char :: chars, last)
    | none => c.fail "Invalid \\escape"
  | fuel + 1, char :: _ =>
    if char.toNat < 0x20 then c.fail "Invalid control character at"
    else do
      let (chars, last) ← readTextFrom opening fuel (c.advance 1)
      return (char :: chars, last)

/-- A text behind its opening mark. -/
def readText (c : Cursor) : Except ReadError (String × Cursor) := do
  let (chars, last) ← readTextFrom c.position (c.rest.length + 1) (c.advance 1)
  return (.ofList chars, last)

def words : List (String × Json) :=
  [("null", .null), ("true", .bool true), ("false", .bool false), ("NaN", .double .nan),
    ("Infinity", .double (.infinite false)), ("-Infinity", .double (.infinite true))]

/-- A word with a fixed meaning, or else a number. -/
def readScalar (c : Cursor) : Except ReadError (Json × Cursor) :=
  match words.findSome? fun word => (c.skipWord? word.1).map (word.2, ·) with
  | some result => .ok result
  | none => readNumber c

/-- How deep collections may lie inside of each other. -/
def maxDepth : Nat := 960

/-- Goes into a collection, if it does not lie too deep. -/
def deeper : Nat → Except ReadError Nat
  | 0 => .error .tooDeep
  | depth + 1 => .ok depth

mutual

/-- The fuel bounds the number of values still to be read, the depth how deep they may lie. -/
def readValue : Nat → Nat → Cursor → Except ReadError (Json × Cursor)
  | 0, _, c => c.fail "Expecting value"
  | fuel + 1, depth, c =>
    match c.rest with
    | '"' :: _ => (readText c).map fun (s, last) => (.text s, last)
    | '[' :: _ => do
      let depth ← deeper depth
      let inside := (c.advance 1).skipSpace
      match inside.rest with
      | ']' :: _ => return (.array [], inside.advance 1)
      | _ => (readElements fuel depth inside).map fun (items, last) => (.array items, last)
    | '{' :: _ => do
      let depth ← deeper depth
      let inside := (c.advance 1).skipSpace
      match inside.rest with
      | '}' :: _ => return (.object [], inside.advance 1)
      | _ => (readMembers fuel depth [] inside).map fun (entries, last) => (.object entries, last)
    | _ => readScalar c

def readElements : Nat → Nat → Cursor → Except ReadError (List Json × Cursor)
  | 0, _, c => c.fail "Expecting value"
  | fuel + 1, depth, c => do
    let (item, last) ← readValue fuel depth c
    let last := last.skipSpace
    match last.rest with
    | ']' :: _ => return ([item], last.advance 1)
    | ',' :: _ => do
      let (items, last) ← readElements fuel depth (last.advance 1).skipSpace
      return (item :: items, last)
    | _ => last.fail "Expecting ',' delimiter"

def readMembers : Nat → Nat → List (String × Json) → Cursor →
    Except ReadError (List (String × Json) × Cursor)
  | 0, _, _, c => c.fail "Expecting value"
  | fuel + 1, depth, read, c => do
    if c.rest.head? != some '"' then c.fail "Expecting property name enclosed in double quotes"
    let (key, last) ← readText c
    let last := last.skipSpace
    if last.rest.head? != some ':' then last.fail "Expecting ':' delimiter"
    let (item, last) ← readValue fuel depth (last.advance 1).skipSpace
    let last := last.skipSpace
    let read := Association.put key item read
    match last.rest with
    | '}' :: _ => return (read, last.advance 1)
    | ',' :: _ => readMembers fuel depth read (last.advance 1).skipSpace
    | _ => last.fail "Expecting ',' delimiter"

end

/-- Reads all characters as one value. -/
def readChars (chars : List Char) : Except ReadError Json := do
  let start : Cursor := { position := 0, rest := chars }
  let (result, last) ← readValue (2 * chars.length + 2) maxDepth start.skipSpace
  let last := last.skipSpace
  if last.rest.isEmpty then return result else last.fail "Extra data"

def byteOrderMark : Char := '\ufeff'

/-- Reads a whole text as one value. A text has no byte order mark. -/
def read (source : String) : Except ReadError Json :=
  let chars := source.toList
  if chars.head? == some byteOrderMark then
    .error (.malformed "Unexpected UTF-8 BOM (decode using utf-8-sig)" 0)
  else readChars chars

/-- Reads characters that may begin with a byte order mark. -/
def readMarked (chars : List Char) : Except ReadError Json :=
  readChars (if chars.head? == some byteOrderMark then chars.drop 1 else chars)

end DocumentServer.Json
