import DocumentServer.Fault
import DocumentServer.Markup.Escape
import DocumentServer.Number.Power
import DocumentServer.Value.Equality

/-!
Arithmetic on values. Numbers of one kind stay of that kind; an integer joins any other kind.
Adding joins text, lists and tuples, and multiplying repeats them. Markup joined with text escapes
the text.
-/
namespace DocumentServer.Value
open Markup

def unsupported (sign : String) (x y : Value) : Fault :=
  .wrongType s!"unsupported operand type(s) for {sign}: '{x.typeName}' and '{y.typeName}'"

/-- Missing values take part in no operation. -/
def missing? (x y : Value) : Option Fault :=
  match x, y with
  | .missing m, _ => some (.undefinedValue m.message)
  | _, .missing m => some (.undefinedValue m.message)
  | _, _ => Option.none

def tooLargeForDouble : Fault := .overflow "int too large to convert to float"

def doubleOfInt (n : Int) : Except Fault Double :=
  let x := Double.ofInt n
  if x.isFinite then .ok x else .error tooLargeForDouble

/-- Two numbers brought to one kind. -/
inductive NumberPair where
  | ints (m n : Int)
  | doubles (x y : Double)
  | decimals (a b : Decimal)

/-- No pair for values that are not numbers, nor for a decimal and a binary number. -/
def numberPair? (x y : Value) : Except Fault (Option NumberPair) :=
  match Numeric.ofValue? x, Numeric.ofValue? y with
  | some (.int m), some (.int n) => .ok (some (.ints m n))
  | some (.double a), some (.double b) => .ok (some (.doubles a b))
  | some (.int m), some (.double b) => (doubleOfInt m).map fun a => some (.doubles a b)
  | some (.double a), some (.int n) => (doubleOfInt n).map fun b => some (.doubles a b)
  | some (.decimal a), some (.decimal b) => .ok (some (.decimals a b))
  | some (.int m), some (.decimal b) => .ok (some (.decimals (.ofInt m) b))
  | some (.decimal a), some (.int n) => .ok (some (.decimals a (.ofInt n)))
  | _, _ => .ok Option.none

def divisionByZero (message : String) : Fault := ⟨.divisionByZero, message⟩

def undefinedDecimal : Fault := ⟨.decimalOperation, "[<class 'decimal.DivisionUndefined'>]"⟩

def invalidDecimal : Fault := ⟨.decimalOperation, "[<class 'decimal.InvalidOperation'>]"⟩

def zeroDecimalDivisor (a : Decimal) : Fault :=
  if a.isZero then undefinedDecimal
  else ⟨.decimalDivision, "[<class 'decimal.DivisionByZero'>]"⟩

/-! ## Joining and repeating -/

def cannotJoin (kind : String) (y : Value) : Fault :=
  .wrongType s!"can only concatenate {kind} (not \"{y.typeName}\") to {kind}"

/-- Text with text; markup takes part as it is, and makes the result markup. -/
def joinTexts (x y : Value) : Value :=
  match x, y with
  | .text s, .text t => .text (s ++ t)
  | x, y => .markup (escape x ++ escape y)

def addOthers (x y : Value) : Except Fault Value :=
  match x, y with
  | .list xs, .list ys => .ok (.list (xs ++ ys))
  | .tuple xs, .tuple ys => .ok (.tuple (xs ++ ys))
  | .list _, y => .error (cannotJoin "list" y)
  | .tuple _, y => .error (cannotJoin "tuple" y)
  | x, y => match x.text?, y.text? with
    | some _, some _ => .ok (joinTexts x y)
    | _, _ => match x with
      | .text _ => .error (cannotJoin "str" y)
      | x => .error (unsupported "+" x y)

def add (x y : Value) : Except Fault Value := do
  if let some fault := missing? x y then throw fault
  match ← numberPair? x y with
  | some (.ints m n) => return .int (m + n)
  | some (.doubles a b) => return .double (a.add b)
  | some (.decimals a b) => return .decimal (a.add b)
  | Option.none => addOthers x y

def subtract (x y : Value) : Except Fault Value := do
  if let some fault := missing? x y then throw fault
  match ← numberPair? x y with
  | some (.ints m n) => return .int (m - n)
  | some (.doubles a b) => return .double (a.sub b)
  | some (.decimals a b) => return .decimal (a.sub b)
  | Option.none => throw (unsupported "-" x y)

/-- A sequence repeated; a count below one gives an empty one. -/
def repeat? (x : Value) (count : Int) : Option Value :=
  let n := count.toNat
  let copies (s : String) : String := .ofList (List.replicate n s.toList).flatten
  match x with
  | .text s => some (.text (copies s))
  | .markup s => some (.markup (copies s))
  | .list items => some (.list (List.replicate n items).flatten)
  | .tuple items => some (.tuple (List.replicate n items).flatten)
  | _ => Option.none

def cannotRepeat (y : Value) : Fault :=
  .wrongType s!"can't multiply sequence by non-int of type '{y.typeName}'"

def repeatOthers (x y : Value) : Except Fault Value :=
  match repeat? x 1, repeat? y 1 with
  | some _, _ => match y.int? with
    | some n => .ok ((repeat? x n).getD .none)
    | Option.none => .error (cannotRepeat y)
  | Option.none, some _ => match x.int? with
    | some n => .ok ((repeat? y n).getD .none)
    | Option.none => .error (cannotRepeat x)
  | _, _ => .error (unsupported "*" x y)

def multiply (x y : Value) : Except Fault Value := do
  if let some fault := missing? x y then throw fault
  match ← numberPair? x y with
  | some (.ints m n) => return .int (m * n)
  | some (.doubles a b) => return .double (a.mul b)
  | some (.decimals a b) => return .decimal (a.mul b)
  | Option.none => repeatOthers x y

/-! ## Division -/

def divideInts (m n : Int) : Except Fault Value :=
  if n == 0 then .error (divisionByZero "division by zero")
  else
    let q := Double.ofRatio ((m < 0) != (n < 0)) m.natAbs n.natAbs
    if q.isFinite then .ok (.double q)
    else .error (.overflow "integer division result too large for a float")

def divide (x y : Value) : Except Fault Value := do
  if let some fault := missing? x y then throw fault
  match ← numberPair? x y with
  | some (.ints m n) => divideInts m n
  | some (.doubles a b) =>
    if b.isZero then throw (divisionByZero "float division by zero")
    return .double (a.div b)
  | some (.decimals a b) =>
    if b.isZero then throw (zeroDecimalDivisor a)
    return .decimal (a.div b)
  | Option.none => throw (unsupported "/" x y)

/-- The quotient towards zero and the remainder with the sign of the dividend, as integers at a
common exponent. -/
def decimalParts (a b : Decimal) : Int × Int × Int :=
  match a, b with
  | .finite s c e, .finite t d f =>
    let low := min e f
    let m := Decimal.unitsAt low s c e
    let n := Decimal.unitsAt low t d f
    (m.tdiv n, m.tmod n, low)
  | _, _ => (0, 0, 0)

def floorDivide (x y : Value) : Except Fault Value := do
  if let some fault := missing? x y then throw fault
  match ← numberPair? x y with
  | some (.ints m n) =>
    if n == 0 then throw (divisionByZero "integer division or modulo by zero")
    return .int (m.fdiv n)
  | some (.doubles a b) =>
    if b.isZero then throw (divisionByZero "float floor division by zero")
    return .double (a.floorDiv b)
  | some (.decimals a b) =>
    if b.isZero then throw (zeroDecimalDivisor a)
    let (q, _, _) := decimalParts a b
    return .decimal (.finite (a.isNegative != b.isNegative) q.natAbs 0)
  | Option.none => throw (unsupported "//" x y)

def modulo (x y : Value) : Except Fault Value := do
  if let some fault := missing? x y then throw fault
  match ← numberPair? x y with
  | some (.ints m n) =>
    if n == 0 then throw (divisionByZero "integer modulo by zero")
    return .int (m.fmod n)
  | some (.doubles a b) =>
    if b.isZero then throw (divisionByZero "float modulo")
    return .double (a.mod b)
  | some (.decimals a b) =>
    if b.isZero then throw (if a.isZero then undefinedDecimal else invalidDecimal)
    let (_, r, low) := decimalParts a b
    return .decimal (.round a.isNegative r.natAbs low)
  | Option.none => throw (unsupported "%" x y)

/-! ## Powers and signs -/

def zeroToNegative : Fault := divisionByZero "0.0 cannot be raised to a negative power"

def powerOfDoubles (a b : Double) : Except Fault Value :=
  match a.power b with
  | .ok x => .ok (.double x)
  | .error .zeroToNegative => .error zeroToNegative
  | .error .tooLarge => .error (.overflow "(34, 'Numerical result out of range')")
  | .error .notReal => .error (.wrongValue "math domain error")

def powerOfInts (m n : Int) : Except Fault Value :=
  if 0 ≤ n then .ok (.int (Int.pow m n.toNat))
  else if m == 0 then .error zeroToNegative
  else do powerOfDoubles (← doubleOfInt m) (← doubleOfInt n)

/-- A power of a decimal number with an integer. -/
def powerOfDecimals (a b : Decimal) : Except Fault Value :=
  match a, b.truncate? with
  | .finite s c e, some n =>
    let k := n.natAbs
    let negative := s && k % 2 == 1
    let whole := Decimal.round negative (Nat.pow c k) (e * k)
    if 0 ≤ n then .ok (.decimal whole)
    else if c == 0 then .error invalidDecimal
    else .ok (.decimal ((Decimal.ofInt 1).div whole))
  | a, _ => .ok (.decimal a)

def power (x y : Value) : Except Fault Value := do
  if let some fault := missing? x y then throw fault
  match ← numberPair? x y with
  | some (.ints m n) => powerOfInts m n
  | some (.doubles a b) => powerOfDoubles a b
  | some (.decimals a b) => powerOfDecimals a b
  | Option.none => throw (unsupported "** or pow()" x y)

def cannotSign (sign : String) (x : Value) : Fault :=
  .wrongType s!"bad operand type for unary {sign}: '{x.typeName}'"

def negate (x : Value) : Except Fault Value :=
  match x, Numeric.ofValue? x with
  | .missing m, _ => .error (.undefinedValue m.message)
  | _, some (.int n) => .ok (.int (-n))
  | _, some (.double a) => .ok (.double a.neg)
  | _, some (.decimal a) => .ok (.decimal a.neg)
  | x, Option.none => .error (cannotSign "-" x)

def positive (x : Value) : Except Fault Value :=
  match x, Numeric.ofValue? x with
  | .missing m, _ => .error (.undefinedValue m.message)
  | _, some (.int n) => .ok (.int n)
  | _, some (.double a) => .ok (.double a)
  | _, some (.decimal a) => .ok (.decimal (a.add (.ofInt 0)))
  | x, Option.none => .error (cannotSign "+" x)

end DocumentServer.Value
