import DocumentServer.Number.Ratio

/-!
Binary floating point numbers with 53 significant bits. Every finite number is an exact dyadic
fraction; each operation takes the exact result and rounds it once, to nearest with ties to even.
-/
namespace DocumentServer

/-- `finite negative m e` is `m * 2 ^ e` with a sign; zero keeps its sign. -/
inductive Double where
  | finite (negative : Bool) (mantissa : Nat) (exponent : Int)
  | infinite (negative : Bool)
  | nan
  deriving DecidableEq, Inhabited

namespace Double
open Number

def leastExponent : Int := -1074

def greatestExponent : Int := 971

def zero : Double := .finite false 0 leastExponent

/-- How often `2 ^ e` goes into `num / den`, as a quotient. -/
def unitsOf (num den : Nat) (e : Int) : Nat × Nat :=
  if 0 ≤ e then (num, den * Nat.pow 2 e.toNat) else (num * Nat.pow 2 (-e).toNat, den)

/-- The exponent of `num / den`. A mantissa has at most 53 bits, and fewer only at the least exponent. -/
def exponentOf (num den : Nat) : Int :=
  let guess : Int := (num.log2 : Int) - (den.log2 : Int) - 53
  let units := unitsOf num den guess
  max leastExponent (if units.1 < units.2 * Nat.pow 2 53 then guess else guess + 1)

/-- `mantissa * 2 ^ exponent`, infinite beyond the greatest exponent. -/
def ofMantissa (negative : Bool) (mantissa : Nat) (exponent : Int) : Double :=
  if exponent > greatestExponent then .infinite negative
  else .finite negative mantissa exponent

/-- The nearest number to `num / den`. A mantissa that is rounded up to 54 bits is halved. -/
def ofRatio (negative : Bool) (num den : Nat) : Double :=
  if num == 0 then .finite negative 0 leastExponent
  else
    let exponent := exponentOf num den
    let units := unitsOf num den exponent
    let mantissa := roundQuotient units.1 units.2
    if mantissa == Nat.pow 2 53 then ofMantissa negative (Nat.pow 2 52) (exponent + 1)
    else ofMantissa negative mantissa exponent

/-- The nearest number to `coefficient * 10 ^ exponent`. -/
def ofDecimal (negative : Bool) (coefficient : Nat) (exponent : Int) : Double :=
  let magnitude : Int := digitCount coefficient + exponent
  if coefficient == 0 || magnitude < -330 then .finite negative 0 leastExponent
  else if magnitude > 310 then .infinite negative
  else
    let (num, den) := scaled 10 coefficient exponent
    ofRatio negative num den

def ofInt (n : Int) : Double := ofRatio (n < 0) n.natAbs 1

/-- The magnitude of a finite number as a quotient. -/
def ratio (mantissa : Nat) (exponent : Int) : Nat × Nat := scaled 2 mantissa exponent

def isZero : Double → Bool
  | .finite _ m _ => m == 0
  | _ => false

def isNegative : Double → Bool
  | .finite s _ _ => s
  | .infinite s => s
  | .nan => false

def isFinite : Double → Bool
  | .finite .. => true
  | _ => false

def neg : Double → Double
  | .finite s m e => .finite (!s) m e
  | .infinite s => .infinite (!s)
  | .nan => .nan

def abs : Double → Double
  | .finite _ m e => .finite false m e
  | .infinite _ => .infinite false
  | .nan => .nan

def signed (negative : Bool) (m : Nat) : Int := if negative then -(m : Int) else m

/-- A finite number as an integer times a power of two that is no greater than `2 ^ low`. -/
def unitsAt (low : Int) (negative : Bool) (m : Nat) (e : Int) : Int :=
  signed negative (m * Nat.pow 2 (e - low).toNat)

/-- `n * 2 ^ e`, rounded; a zero result takes the given sign. -/
def ofUnits (zeroSign : Bool) (n : Int) (e : Int) : Double :=
  if n == 0 then .finite zeroSign 0 leastExponent
  else
    let (num, den) := ratio n.natAbs e
    ofRatio (n < 0) num den

def add : Double → Double → Double
  | .nan, _ => .nan
  | _, .nan => .nan
  | .infinite s, .infinite t => if s == t then .infinite s else .nan
  | .infinite s, _ => .infinite s
  | _, .infinite t => .infinite t
  | .finite s m e, .finite t n f =>
    let low := min e f
    ofUnits (s && t) (unitsAt low s m e + unitsAt low t n f) low

def sub (x y : Double) : Double := add x y.neg

def mul : Double → Double → Double
  | .nan, _ => .nan
  | _, .nan => .nan
  | .infinite s, y => if y.isZero then .nan else .infinite (s != y.isNegative)
  | x, .infinite t => if x.isZero then .nan else .infinite (x.isNegative != t)
  | .finite s m e, .finite t n f =>
    let (num, den) := ratio (m * n) (e + f)
    ofRatio (s != t) num den

/-- Division by a number other than zero. -/
def div : Double → Double → Double
  | .nan, _ => .nan
  | _, .nan => .nan
  | .infinite _, .infinite _ => .nan
  | .infinite s, y => .infinite (s != y.isNegative)
  | x, .infinite t => .finite (x.isNegative != t) 0 leastExponent
  | .finite s m e, .finite t n f =>
    let (num, den) := ratio m (e - f)
    ofRatio (s != t) num (den * n)

/-- The remainder that takes the sign of the divisor, for a divisor other than zero. -/
def mod : Double → Double → Double
  | .nan, _ => .nan
  | _, .nan => .nan
  | .infinite _, _ => .nan
  | .finite s m e, .infinite t =>
    if m == 0 then .finite t 0 leastExponent
    else if s == t then .finite s m e else .infinite t
  | .finite s m e, .finite t n f =>
    let low := min e f
    let divisor := unitsAt low t n f
    let dividend := unitsAt low s m e
    let exact := dividend.tmod divisor
    if exact == 0 then .finite t 0 leastExponent
    else if (exact < 0) == (divisor < 0) then ofUnits t exact low
    else add (ofUnits t exact low) (.finite t n f)

def ordering? : Double → Double → Option Ordering
  | .nan, _ => none
  | _, .nan => none
  | .infinite s, .infinite t => some (if s == t then .eq else if s then .lt else .gt)
  | .infinite s, _ => some (if s then .lt else .gt)
  | _, .infinite t => some (if t then .gt else .lt)
  | .finite s m e, .finite t n f =>
    let low := min e f
    some (compare (unitsAt low s m e) (unitsAt low t n f))

/-- The integer part, towards zero, of a finite number. -/
def truncate? : Double → Option Int
  | .finite s m e =>
    let (num, den) := ratio m e
    some (signed s (num / den))
  | _ => none

/-- The greatest integer not above a finite number. -/
def floor? : Double → Option Int
  | .finite s m e =>
    let (num, den) := ratio m e
    some (Int.fdiv (signed s num) den)
  | _ => none

/-- The integer nearest to a finite number, ties to even. -/
def nearest? : Double → Option Int
  | .finite s m e =>
    let (num, den) := ratio m e
    some (signed s (roundQuotient num den))
  | _ => none

/-- The floor of a quotient, for a divisor other than zero. -/
def floorDiv (x y : Double) : Double :=
  match x, y with
  | .finite _ _ _, .finite _ _ _ =>
    let quotient := div (sub x (mod x y)) y
    if quotient.isZero then .finite (x.isNegative != y.isNegative) 0 leastExponent
    else match quotient.floor? with
      | none => quotient
      | some below =>
        let whole := ofInt below
        match ordering? (sub quotient whole) (.finite false 1 (-1)) with
        | some .gt => add whole (ofInt 1)
        | _ => whole
  | .finite .., .infinite t =>
    if x.isZero then .finite (x.isNegative != t) 0 leastExponent
    else if x.isNegative == t then .finite false 0 leastExponent else ofInt (-1)
  | _, _ => .nan

end Double
end DocumentServer
