/-!
Rounding of quotients of natural numbers. A quotient that lies half way between two integers goes
to the even one.
-/
namespace DocumentServer.Number

/-- The integer nearest to `num / den`, ties to even. -/
def roundQuotient (num den : Nat) : Nat :=
  let q := num / den
  let twice := 2 * (num % den)
  if twice < den then q
  else if den < twice then q + 1
  else if q % 2 == 0 then q else q + 1

/-- `a * base ^ e` as a quotient of natural numbers, for an exponent of either sign. -/
def scaled (base a : Nat) (e : Int) : Nat × Nat :=
  if 0 ≤ e then (a * Nat.pow base e.toNat, 1) else (a, Nat.pow base (-e).toNat)

/-- The number of decimal digits, with one digit for zero. -/
def digitCount (n : Nat) : Nat := (Nat.toDigits 10 n).length

/-- The integer `k` with `10 ^ (k - 1) ≤ num / den < 10 ^ k`, for a positive quotient. -/
def decimalPoint (num den : Nat) : Int :=
  let guess : Int := (digitCount num : Int) - (digitCount den : Int)
  let (scaleUp, scaleDown) := scaled 10 1 guess
  if num * scaleDown < den * scaleUp then guess else guess + 1

end DocumentServer.Number
