import DocumentServer.Number.Double
import DocumentServer.Text.Blank
import DocumentServer.Text.Digit
import DocumentServer.Text.Letter

/-!
Decimal floating point numbers: a coefficient times a power of ten. The exponent is part of the
value, so `1.50` keeps its last zero. Arithmetic keeps 28 significant digits.
-/
namespace DocumentServer

inductive Decimal where
  | finite (negative : Bool) (coefficient : Nat) (exponent : Int)
  | infinite (negative : Bool)
  | nan (negative signaling : Bool) (payload : Nat)
  deriving DecidableEq, Inhabited

namespace Decimal
open Number

def precision : Nat := 28

def isNegative : Decimal → Bool
  | .finite s _ _ => s
  | .infinite s => s
  | .nan s _ _ => s

def isZero : Decimal → Bool
  | .finite _ c _ => c == 0
  | _ => false

/-- Reads a run of decimal digits of any script. -/
def digits? (s : List Char) : Option (List Nat) := s.mapM Text.digitValue?

/-- Splits at the exponent mark, and reads the exponent behind it. -/
def splitExponent? (s : List Char) : Option (List Char × Int) :=
  let isMark (c : Char) : Bool := c == 'e' || c == 'E'
  match s.dropWhile (!isMark ·) with
  | [] => some (s, 0)
  | _ :: rest =>
    let (negative, digits) := match rest with
      | '-' :: tail => (true, tail)
      | '+' :: tail => (false, tail)
      | tail => (false, tail)
    match digits? digits with
    | some (d :: ds) =>
      let n := Text.ofDigitValues (d :: ds)
      some (s.takeWhile (!isMark ·), if negative then -(n : Int) else n)
    | _ => none

def finiteOfChars? (negative : Bool) (s : List Char) : Option Decimal := do
  let (body, exponent) ← splitExponent? s
  let whole ← digits? (body.takeWhile (· != '.'))
  let part ← digits? ((body.dropWhile (· != '.')).drop 1)
  if whole.isEmpty && part.isEmpty then none
  else some (.finite negative (Text.ofDigitValues (whole ++ part)) (exponent - part.length))

/-- Reads a not-a-number, with the digits of its payload behind its name. -/
def nanOfChars? (negative : Bool) (s : List Char) : Option Decimal :=
  let payload? (signaling : Bool) (name : String) : Option Decimal :=
    if name.toList.isPrefixOf s then
      (digits? (s.drop name.length)).map fun digits =>
        .nan negative signaling (Text.ofDigitValues digits)
    else none
  payload? false "nan" <|> payload? true "snan"

/-- Reads a signed numeral, an infinity or a not-a-number. -/
def ofString? (text : String) : Option Decimal :=
  let s := (Text.trimBlank text.toList).filter (· != '_')
  let (negative, body) := match s with
    | '-' :: rest => (true, rest)
    | '+' :: rest => (false, rest)
    | rest => (false, rest)
  let word := Text.lowerChars body
  if word == "inf".toList || word == "infinity".toList then some (.infinite negative)
  else nanOfChars? negative word <|> finiteOfChars? negative body

def ofInt (n : Int) : Decimal := .finite (n < 0) n.natAbs 0

/-- The exact value of a binary number. -/
def ofDouble : Double → Decimal
  | .nan => .nan false false 0
  | .infinite s => .infinite s
  | .finite s m e =>
    if 0 ≤ e then .finite s (m * Nat.pow 2 e.toNat) 0
    else .finite s (m * Nat.pow 5 (-e).toNat) e

/-- Moves to a given exponent, rounding away the digits below it, ties to even. -/
def rescale (exponent : Int) (coefficient : Nat) (current : Int) : Nat :=
  if exponent ≤ current then coefficient * Nat.pow 10 (current - exponent).toNat
  else roundQuotient coefficient (Nat.pow 10 (exponent - current).toNat)

/-- Keeps at most `count` significant digits, ties to even. -/
def roundDigits (count coefficient : Nat) (exponent : Int) : Nat × Int :=
  let size := digitCount coefficient
  if size ≤ count then (coefficient, exponent)
  else
    let shift := size - count
    let c := roundQuotient coefficient (Nat.pow 10 shift)
    if digitCount c > count then (c / 10, exponent + shift + 1) else (c, exponent + shift)

def round (negative : Bool) (coefficient : Nat) (exponent : Int) : Decimal :=
  let (c, e) := roundDigits precision coefficient exponent
  .finite negative c e

/-- A number with its exponent written behind an `E` where it is positive or the number is small. -/
def render : Decimal → String
  | .infinite s => if s then "-Infinity" else "Infinity"
  | .nan s signaling payload =>
    (if s then "-" else "") ++ (if signaling then "sNaN" else "NaN")
      ++ (if payload == 0 then "" else String.ofList (Nat.toDigits 10 payload))
  | .finite s c e =>
    let digits := Nat.toDigits 10 c
    let left : Int := e + digits.length
    let point : Int := if e ≤ 0 && left > -6 then left else 1
    let body :=
      if point ≤ 0 then ['0', '.'] ++ List.replicate (-point).toNat '0' ++ digits
      else if point ≥ digits.length then digits ++ List.replicate (point - digits.length).toNat '0'
      else digits.take point.toNat ++ '.' :: digits.drop point.toNat
    let tail :=
      if left == point then []
      else
        let shift := left - point
        ['E', if shift < 0 then '-' else '+'] ++ Nat.toDigits 10 shift.natAbs
    .ofList ((if s then ['-'] else []) ++ body ++ tail)

/-- The integer part, towards zero, of a finite number. -/
def truncate? : Decimal → Option Int
  | .finite s c e =>
    let (num, den) := scaled 10 c e
    some (Double.signed s (num / den))
  | _ => none

/-- The nearest binary number; a signaling not-a-number has none. -/
def toDouble? : Decimal → Option Double
  | .finite s c e => some (Double.ofDecimal s c e)
  | .infinite s => some (.infinite s)
  | .nan _ signaling _ => if signaling then none else some .nan

def neg : Decimal → Decimal
  | .finite s c e => round (if c == 0 then false else !s) c e
  | .infinite s => .infinite (!s)
  | .nan s signaling payload => .nan s signaling payload

def unitsAt (low : Int) (negative : Bool) (c : Nat) (e : Int) : Int :=
  Double.signed negative (c * Nat.pow 10 (e - low).toNat)

def add : Decimal → Decimal → Decimal
  | .nan s _ p, _ => .nan s false p
  | _, .nan s _ p => .nan s false p
  | .infinite s, .infinite t => if s == t then .infinite s else .nan false false 0
  | .infinite s, _ => .infinite s
  | _, .infinite t => .infinite t
  | .finite s c e, .finite t d f =>
    let low := min e f
    let n := unitsAt low s c e + unitsAt low t d f
    round (if n == 0 then s && t else n < 0) n.natAbs low

def sub (x y : Decimal) : Decimal :=
  match y with
  | .finite t d f => add x (.finite (!t) d f)
  | y => add x y.neg

def mul : Decimal → Decimal → Decimal
  | .nan s _ p, _ => .nan s false p
  | _, .nan s _ p => .nan s false p
  | .infinite s, y => .infinite (s != y.isNegative)
  | x, .infinite t => .infinite (x.isNegative != t)
  | .finite s c e, .finite t d f => round (s != t) (c * d) (e + f)

/-- Removes zeros at the end while the exponent is below `ideal`. -/
def dropZeros (ideal : Int) : Nat → Nat → Int → Nat × Int
  | 0, c, e => (c, e)
  | fuel + 1, c, e =>
    if e < ideal && c % 10 == 0 then dropZeros ideal fuel (c / 10) (e + 1) else (c, e)

/-- Division by a number other than zero. An exact quotient takes the exponent nearest to the
difference of the exponents. -/
def div : Decimal → Decimal → Decimal
  | .nan s _ p, _ => .nan s false p
  | _, .nan s _ p => .nan s false p
  | .infinite s, y => .infinite (s != y.isNegative)
  | x, .infinite t => .finite (x.isNegative != t) 0 0
  | .finite s c e, .finite t d f =>
    let ideal := e - f
    if c == 0 then .finite (s != t) 0 ideal
    else
      let shift := precision + 1 + digitCount d - digitCount c
      let q := c * Nat.pow 10 shift / d
      let exact := c * Nat.pow 10 shift % d == 0
      if exact then
        let (q, e') := dropZeros ideal (digitCount q) q (ideal - shift)
        round (s != t) q e'
      else
        let sticky := if q % 5 == 0 then q + 1 else q
        round (s != t) sticky (ideal - shift)

def ordering? : Decimal → Decimal → Option Ordering
  | .nan .., _ => none
  | _, .nan .. => none
  | .infinite s, .infinite t => some (if s == t then .eq else if s then .lt else .gt)
  | .infinite s, _ => some (if s then .lt else .gt)
  | _, .infinite t => some (if t then .gt else .lt)
  | .finite s c e, .finite t d f =>
    let low := min e f
    some (compare (unitsAt low s c e) (unitsAt low t d f))

end Decimal
end DocumentServer
