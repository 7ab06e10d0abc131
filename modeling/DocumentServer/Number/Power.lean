import DocumentServer.Number.Double

/-!
Powers of binary numbers. The result is computed with many more bits than it keeps, from squares
and square roots, and rounded once.
-/
namespace DocumentServer.Number

/-- A positive number `mantissa * 2 ^ exponent` with a bounded number of bits. -/
structure Wide where
  mantissa : Nat
  exponent : Int

namespace Wide

def bits : Nat := 320

/-- Drops the bits beyond the bound. -/
def trim (x : Wide) : Wide :=
  let excess := x.mantissa.log2 + 1 - bits
  { mantissa := x.mantissa >>> excess, exponent := x.exponent + excess }

def mul (x y : Wide) : Wide :=
  trim { mantissa := x.mantissa * y.mantissa, exponent := x.exponent + y.exponent }

def one : Wide := { mantissa := 1, exponent := 0 }

def inverse (x : Wide) : Wide :=
  let size := 2 * bits
  { mantissa := Nat.pow 2 size / x.mantissa, exponent := -size - x.exponent }

/-- Newton's steps from above towards the integer square root. -/
def rootStep (n : Nat) : Nat → Nat → Nat
  | 0, guess => guess
  | fuel + 1, guess =>
    let next := (guess + n / guess) / 2
    if next < guess then rootStep n fuel next else guess

def integerRoot (n : Nat) : Nat := if n == 0 then 0 else rootStep n bits (Nat.pow 2 (n.log2 / 2 + 1))

def sqrt (x : Wide) : Wide :=
  let wanted := 2 * bits - (x.mantissa.log2 + 1)
  let shift := if (x.exponent - wanted) % 2 == 0 then wanted else wanted + 1
  trim { mantissa := integerRoot (x.mantissa <<< shift), exponent := (x.exponent - shift) / 2 }

/-- A power with a natural number, by squaring. -/
def pow (x : Wide) : Nat → Nat → Wide
  | 0, _ => one
  | fuel + 1, n =>
    if n == 0 then one
    else
      let half := pow x fuel (n / 2)
      let square := half.mul half
      if n % 2 == 1 then square.mul x else square

/-- The power with a fraction, given as its binary digits behind the point. -/
def powDigits (root : Wide) : List Bool → Wide
  | [] => one
  | digit :: rest =>
    let next := root.sqrt
    let tail := powDigits next rest
    if digit then next.mul tail else tail

/-- The binary digits of `n / 2 ^ count`, for `n` below `2 ^ count`. -/
def fractionDigits (n count : Nat) : List Bool :=
  (List.range count).map fun i => n.testBit (count - 1 - i)

end Wide
end DocumentServer.Number

namespace DocumentServer.Double
open Number

inductive PowerError where
  | zeroToNegative
  | tooLarge
  /-- A negative number to a power that is not an integer. -/
  | notReal

def isInteger : Double → Bool
  | .finite _ m e => if 0 ≤ e then true else m % Nat.pow 2 (-e).toNat == 0
  | _ => false

def isOddInteger (x : Double) : Bool := x.isInteger && (x.truncate?.getD 0) % 2 != 0

def one : Double := ofInt 1

/-- Beyond this exponent every power other than of one is infinite or zero. -/
def isHugeExponent (m : Nat) (e : Int) : Bool := (m.log2 : Int) + e > 70

def positivePower (base : Wide) (negativeExponent : Bool) (m : Nat) (e : Int) : Double :=
  let count := if 0 ≤ e then 0 else (-e).toNat
  let whole := if 0 ≤ e then m * Nat.pow 2 e.toNat else m / Nat.pow 2 count
  let digits := (Wide.fractionDigits (m % Nat.pow 2 count) count).take Wide.bits
  let result := (base.pow (whole.log2 + 2) whole).mul (base.powDigits digits)
  let result := if negativeExponent then result.inverse else result
  let (num, den) := scaled 2 result.mantissa result.exponent
  ofRatio false num den

/-- The power of a positive finite number other than one. -/
def powerOfPositive (m : Nat) (e : Int) (exponent : Double) : Except PowerError Double :=
  match exponent with
  | .finite s n f =>
    let isLarge := (ordering? (.finite false m e) one) == some .gt
    if isHugeExponent n f then
      if isLarge != s then .error .tooLarge else .ok (.finite false 0 leastExponent)
    else
      let result := positivePower { mantissa := m, exponent := e } s n f
      if result.isFinite then .ok result else .error .tooLarge
  | _ => .ok .nan

def infinitePower (x : Double) (growing : Bool) : Double :=
  match ordering? x.abs one with
  | some .eq => one
  | some .gt => if growing then .infinite false else zero
  | _ => if growing then zero else .infinite false

def power (x y : Double) : Except PowerError Double :=
  if y.isZero then .ok one
  else match x, y with
    | .nan, _ => .ok .nan
    | x, .nan => .ok (if x.ordering? one == some .eq then one else .nan)
    | x, .infinite s => .ok (infinitePower x (!s))
    | .infinite s, y =>
      let negative := s && y.isOddInteger
      .ok (if y.isNegative then .finite negative 0 leastExponent else .infinite negative)
    | .finite s m e, y =>
      if m == 0 then
        if y.isNegative then .error .zeroToNegative
        else .ok (.finite (s && y.isOddInteger) 0 leastExponent)
      else if s && !y.isInteger then .error .notReal
      else do
        let magnitude ← if ordering? (.finite false m e) one == some .eq then pure one
          else powerOfPositive m e y
        return if s && y.isOddInteger then magnitude.neg else magnitude

end DocumentServer.Double
