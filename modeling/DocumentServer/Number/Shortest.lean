import DocumentServer.Number.Double

/-!
Decimal digits of a binary number: the fewest digits that read back as the number, and a fixed
number of digits of its exact value.
-/
namespace DocumentServer.Double
open Number

/-- `0.d₁d₂… * 10 ^ point`, as the integer `d₁d₂…` and the point. -/
structure Expansion where
  digits : List Char
  point : Int

/-- The digits of `coefficient * 10 ^ exponent` without zeros at the end. -/
def Expansion.ofCoefficient (coefficient : Nat) (exponent : Int) : Expansion :=
  let digits := Nat.toDigits 10 coefficient
  let kept := (digits.reverse.dropWhile (· == '0')).reverse
  { digits := if kept.isEmpty then ['0'] else kept, point := exponent + digits.length }

/-- The better of the two grid points around `m * 2 ^ e` on the grid of `count` significant digits,
if one of them reads back. -/
def gridPoint? (m : Nat) (e : Int) (point : Int) (count : Nat) : Option (Nat × Int) :=
  let (num, den) := ratio m e
  let exponent := point - count
  let (up, down) := scaled 10 1 exponent
  let below := num * down / (den * up)
  let readsBack (c : Nat) : Bool := ofDecimal false c exponent == .finite false m e
  let nearest := roundQuotient (num * down) (den * up)
  let other := if nearest == below then below + 1 else below
  if readsBack nearest then some (nearest, exponent)
  else if readsBack other then some (other, exponent)
  else none

/-- The shortest expansion that reads back as the positive number `m * 2 ^ e`; seventeen digits
always do. -/
def shortest (m : Nat) (e : Int) : Expansion :=
  let (num, den) := ratio m e
  let point := decimalPoint num den
  match (List.range 17).findSome? fun i => gridPoint? m e point (i + 1) with
  | some (c, exponent) => .ofCoefficient c exponent
  | none => .ofCoefficient m 0

/-- How a number is written: `point` digits before the decimal point, or with an exponent. -/
def positional (x : Expansion) (leastFraction : Nat) : List Char :=
  let n := x.digits.length
  let fill (count : Nat) (tail : List Char) : List Char := tail ++ List.replicate (count - tail.length) '0'
  if x.point ≤ 0 then
    ['0', '.'] ++ fill leastFraction (List.replicate (-x.point).toNat '0' ++ x.digits)
  else
    let p := x.point.toNat
    let whole := x.digits.take p ++ List.replicate (p - n) '0'
    let tail := fill leastFraction (x.digits.drop p)
    if tail.isEmpty then whole else whole ++ '.' :: tail

/-- An exponent with its sign and at least two digits. -/
def exponentText (mark : Char) (e : Int) : List Char :=
  mark :: (if e < 0 then '-' else '+') :: (Nat.toDigits 10 e.natAbs).leftpad 2 '0'

def scientific (mark : Char) (x : Expansion) : List Char :=
  match x.digits with
  | [] => []
  | d :: rest => d :: (if rest.isEmpty then [] else '.' :: rest) ++ exponentText mark (x.point - 1)

/-- Numbers from `0.0001` up to `10 ^ 16` are written positionally with at least one digit after
the point; others with an exponent. -/
def render : Double → String
  | .nan => "nan"
  | .infinite s => if s then "-inf" else "inf"
  | .finite s m e =>
    let body :=
      if m == 0 then ['0', '.', '0']
      else
        let x := shortest m e
        if -4 < x.point && x.point ≤ 16 then positional x 1 else scientific 'e' x
    .ofList (if s then '-' :: body else body)

end DocumentServer.Double
