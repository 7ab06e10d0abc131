import DocumentServer.Template.Token
import DocumentServer.Text.Digit
import DocumentServer.Text.Word

/-!
Literals of the template language: numbers and quoted text, measured at the front of a text.
-/
namespace DocumentServer.Template.Literal

/-- Digits of a class with single low lines between them: the length of the longest such run. The
flag tells whether a low line may come first. -/
def groupedLength (isDigit : Char → Bool) (leading : Bool) : List Char → Nat
  | [] => 0
  | c :: rest =>
    if isDigit c then 1 + groupedLength isDigit true rest
    else if c == '_' && leading then
      match rest with
      | d :: more => if isDigit d then 2 + groupedLength isDigit true more else 0
      | [] => 0
    else 0

/-- The length of an exponent: its mark, possibly a sign, and digits. -/
def exponentLength : List Char → Nat
  | mark :: rest =>
    if mark == 'e' || mark == 'E' then
      let sign := match rest with
        | '+' :: _ => 1
        | '-' :: _ => 1
        | _ => 0
      let digits := groupedLength Char.isDigit false (rest.drop sign)
      if digits == 0 then 0 else 1 + sign + digits
    else 0
  | [] => 0

/-- The length of a point with digits behind it. -/
def fractionLength : List Char → Nat
  | '.' :: rest =>
    let digits := groupedLength Char.isDigit false rest
    if digits == 0 then 0 else 1 + digits
  | _ => 0

/-- The length of a number with a fraction or an exponent; zero if there is none. -/
def doubleLength (s : List Char) : Nat :=
  let whole := groupedLength Char.isDigit false s
  if whole == 0 then 0
  else
    let fraction := fractionLength (s.drop whole)
    let exponent := exponentLength (s.drop (whole + fraction))
    if fraction == 0 && exponent == 0 then 0 else whole + fraction + exponent

def digitNumber (s : List Char) : Nat := Text.ofDigitValues (s.map fun c => c.toNat - 48)

/-- The number that a literal with a fraction or an exponent denotes. -/
def doubleValue (literal : List Char) : Double :=
  let s := literal.filter (· != '_')
  let isMark (c : Char) : Bool := c == 'e' || c == 'E'
  let body := s.takeWhile (!isMark ·)
  let power := (s.dropWhile (!isMark ·)).drop 1
  let whole := body.takeWhile (· != '.')
  let fraction := (body.dropWhile (· != '.')).drop 1
  let exponent : Int := match power with
    | '-' :: digits => -(digitNumber digits : Int)
    | '+' :: digits => digitNumber digits
    | digits => digitNumber digits
  .ofDecimal false (digitNumber (whole ++ fraction)) (exponent - fraction.length)

/-- The length of the digits behind the mark of a base, with the mark; zero if there are none. -/
def radixLength (mark : Char) (isDigit : Char → Bool) : List Char → Nat
  | '0' :: c :: rest =>
    if c.toLower == mark then
      let digits := groupedLength isDigit true rest
      if digits == 0 then 0 else 2 + digits
    else 0
  | _ => 0

def isOctal (c : Char) : Bool := '0' ≤ c && c ≤ '7'

def isBinary (c : Char) : Bool := c == '0' || c == '1'

/-- The length of an integer literal and the base it is in. -/
def integerLength (s : List Char) : Nat × Nat :=
  let binary := radixLength 'b' isBinary s
  let octal := radixLength 'o' isOctal s
  let hex := radixLength 'x' Text.isHexDigit s
  if binary != 0 then (binary, 2)
  else if octal != 0 then (octal, 8)
  else if hex != 0 then (hex, 16)
  else match s with
    | '0' :: _ => (groupedLength (· == '0') false s, 10)
    | c :: _ => if c.isDigit then (groupedLength Char.isDigit false s, 10) else (0, 10)
    | [] => (0, 10)

def integerValue (base : Nat) (literal : List Char) : Nat :=
  let digits := if base == 10 then literal else literal.drop 2
  (digits.filterMap Text.hexValue?).foldl (fun n d => n * base + d) 0

/-- The length of quoted text with its marks; a backslash takes the next character with it. -/
def quotedLength (mark : Char) : List Char → Option Nat
  | [] => none
  | '\\' :: _ :: rest => (quotedLength mark rest).map (· + 2)
  | c :: rest => if c == mark then some 1 else (quotedLength mark rest).map (· + 1)

def plainEscapes : List (Char × Char) :=
  [('\\', '\\'), ('\'', '\''), ('"', '"'), ('a', '\x07'), ('b', '\x08'), ('f', '\x0c'),
    ('n', '\n'), ('r', '\r'), ('t', '\t'), ('v', '\x0b')]

/-- A character by its number; halves of characters are replaced. -/
def charOfNumber (n : Nat) : Char := if 0xD800 ≤ n && n ≤ 0xDFFF then Char.ofNat 0xFFFD else Char.ofNat n

/-- The digits of a numbered escape. -/
def escapeDigits (letter : Char) : Option (Nat × String) :=
  if letter == 'x' then some (2, "truncated \\xXX escape")
  else if letter == 'u' then some (4, "truncated \\uXXXX escape")
  else if letter == 'U' then some (8, "truncated \\UXXXXXXXX escape")
  else none

/-- Replaces the escapes of a text. A backslash before any other letter stays. -/
def unescape : Nat → List Char → Except Fault (List Char)
  | 0, _ => .ok []
  | _, [] => .ok []
  | fuel + 1, '\\' :: letter :: rest =>
    match escapeDigits letter with
    | some (count, message) =>
      let digits := (rest.take count).takeWhile Text.isHexDigit
      if digits.length < count then .error (syntaxFault message)
      else
        let n := (digits.filterMap Text.hexValue?).foldl (fun n d => n * 16 + d) 0
        if 0x110000 ≤ n then .error (syntaxFault "illegal Unicode character")
        else (unescape fuel (rest.drop count)).map (charOfNumber n :: ·)
    | none =>
      if letter == '\n' then unescape fuel rest
      else if isOctal letter then
        let digits := ((letter :: rest).take 3).takeWhile isOctal
        (unescape fuel ((letter :: rest).drop digits.length)).map
          (charOfNumber (digits.foldl (fun n d => n * 8 + (d.toNat - 48)) 0) :: ·)
      else if letter == 'N' then .error (syntaxFault "malformed \\N character escape")
      else match plainEscapes.find? (·.1 == letter) with
        | some (_, c) => (unescape fuel rest).map (c :: ·)
        | none =>
          if letter.toNat < 0x80 then (unescape fuel rest).map ('\\' :: letter :: ·)
          else (unescape fuel rest).map (Text.escapeUnprintable letter ++ ·)
  | fuel + 1, c :: rest => (unescape fuel rest).map (c :: ·)

end DocumentServer.Template.Literal
