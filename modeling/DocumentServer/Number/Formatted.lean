import DocumentServer.Number.Decimal
import DocumentServer.Number.Layout
import DocumentServer.Number.Shortest

/-!
Numbers written by a layout specification: integers, binary numbers and decimal numbers. Binary
numbers are rounded from their exact value.
-/
namespace DocumentServer.Layout
open Number

inductive FormatError where
  | spec (text type : String) (error : SpecError)
  | unknownKind (kind : Char) (type : String)
  | invalidDecimalSpec
  | precisionTooBig
  | integerPrecision
  | integerZeroCoercion
  | characterSign
  | characterAlternate
  | characterRange
  | characterNumber
  | integerDigits
  | integerAsDouble

/-- The numbers whose numeral is written out have at most this many digits. -/
def maxNumeralDigits : Nat := 4300

def largePrecision : Nat := Nat.pow 2 31

/-- A rounded magnitude `num / den` with a fixed number of digits behind the point. -/
def fixedPoint (places num den : Nat) : List Char × List Char :=
  let digits := Nat.toDigits 10 (roundQuotient (num * Nat.pow 10 places) den)
  let digits := digits.leftpad (places + 1) '0'
  (digits.take (digits.length - places), digits.drop (digits.length - places))

/-- The `count` leading digits of a positive magnitude, rounded, with their decimal point. -/
def leadingDigits (count num den : Nat) : Double.Expansion :=
  let point := decimalPoint num den
  let (up, down) := scaled 10 1 (point - count)
  let c := roundQuotient (num * down) (den * up)
  let digits := Nat.toDigits 10 c
  if digits.length > count then { digits := digits.take count, point := point + 1 }
  else { digits, point }

/-- The tail behind the whole digits: a point only where digits follow, unless it is always
shown. -/
def pointTail (always : Bool) (fraction : List Char) : List Char :=
  if fraction.isEmpty && !always then [] else '.' :: fraction

def expansionOrZero (count m : Nat) (e : Int) : Double.Expansion :=
  if m == 0 then { digits := List.replicate count '0', point := 1 }
  else
    let (num, den) := Double.ratio m e
    leadingDigits count num den

def dropTrailingZeros (digits : List Char) : List Char :=
  (digits.reverse.dropWhile (· == '0')).reverse

/-- General notation: positional while the exponent is small beside the precision. -/
def generalParts (alternate pointZero : Bool) (mark : Char) (greatest : Int)
    (x : Double.Expansion) : List Char × List Char :=
  let digits := if alternate then x.digits else dropTrailingZeros x.digits
  let digits := if digits.isEmpty then ['0'] else digits
  if -4 < x.point && x.point ≤ greatest then
    let p := x.point
    if p ≤ 0 then (['0'], '.' :: (List.replicate (-p).toNat '0' ++ digits))
    else
      let whole := digits.take p.toNat ++ List.replicate (p.toNat - digits.length) '0'
      let fraction := digits.drop p.toNat
      (whole, if fraction.isEmpty && pointZero then ['.', '0'] else pointTail alternate fraction)
  else
    (digits.take 1, pointTail alternate (digits.drop 1) ++ Double.exponentText mark (x.point - 1))

/-- Whole digits and tail of a finite magnitude in one of the notations of binary numbers. -/
def doubleParts (spec : Spec) (m : Nat) (e : Int) : List Char × List Char :=
  let count := spec.precision.getD 6
  let (num, den) := Double.ratio m e
  match spec.kind with
  | some 'f' | some 'F' | some '%' =>
    let (whole, fraction) := fixedPoint count num den
    (whole, pointTail spec.alternate fraction)
  | some 'e' | some 'E' =>
    let x := expansionOrZero (count + 1) m e
    let mark := spec.kind.getD 'e'
    (x.digits.take 1,
      pointTail spec.alternate (x.digits.drop 1) ++ Double.exponentText mark (x.point - 1))
  | none =>
    match spec.precision with
    | none =>
      let x := if m == 0 then { digits := ['0'], point := 1 } else Double.shortest m e
      generalParts spec.alternate true 'e' 16 x
    | some p =>
      let count := max p 1
      generalParts spec.alternate true 'e' (count - 1) (expansionOrZero count m e)
  | some kind =>
    let count := max count 1
    generalParts spec.alternate false (if kind == 'G' then 'E' else 'e') count
      (expansionOrZero count m e)

def hundred : Double := .ofInt 100

def doubleKinds : List Char := ['e', 'E', 'f', 'F', 'g', 'G', 'n', '%']

/-- A binary number by a specification that fits it. -/
def layDouble (spec : Spec) (x : Double) : List Char :=
  let percent := spec.kind == some '%'
  let x := if percent then x.mul hundred else x
  let suffix := if percent then ['%'] else []
  let upper := spec.kind == some 'F' || spec.kind == some 'E' || spec.kind == some 'G'
  match x with
  | .nan =>
    lay spec 3 { negative := false, whole := [],
                 tail := (if upper then ['N', 'A', 'N'] else ['n', 'a', 'n']) ++ suffix }
  | .infinite s =>
    lay spec 3 { negative := s, whole := [],
                 tail := (if upper then ['I', 'N', 'F'] else ['i', 'n', 'f']) ++ suffix }
  | .finite s m e =>
    let (whole, tail) := doubleParts spec m e
    let isNought := (whole ++ tail.takeWhile (fun c => c == '.' || c.isDigit)).all
      (fun c => c == '0' || c == '.')
    lay spec 3 { negative := s && !(spec.coerceZero && isNought), whole, tail := tail ++ suffix }

def readSpec (type text : String) : Except FormatError Spec :=
  (Spec.ofString text).mapError (FormatError.spec text type)

def formatDouble (text : String) (x : Double) : Except FormatError String := do
  if text.isEmpty then return x.render
  let spec ← readSpec "float" text
  if let some kind := spec.kind then
    if !doubleKinds.contains kind then throw (FormatError.unknownKind kind "float")
  if largePrecision ≤ spec.precision.getD 0 then throw FormatError.precisionTooBig
  return .ofList (layDouble spec x)

def radixOf : Char → Nat
  | 'b' => 2
  | 'o' => 8
  | 'x' => 16
  | 'X' => 16
  | _ => 10

def radixMark : Char → List Char
  | 'b' => ['0', 'b']
  | 'o' => ['0', 'o']
  | 'x' => ['0', 'x']
  | 'X' => ['0', 'X']
  | _ => []

/-- The numeral of a magnitude in the base of a kind. -/
def integerDigits (kind : Char) (n : Nat) : Except FormatError (List Char) :=
  let digits := Nat.toDigits (radixOf kind) n
  if radixOf kind == 10 && maxNumeralDigits < digits.length then .error .integerDigits
  else .ok (if kind == 'X' then digits.map Char.toUpper else digits)

/-- The numbers that fit a machine word. -/
def machineLimit : Int := Nat.pow 2 63

def layCharacter (spec : Spec) (n : Int) : Except FormatError (List Char) :=
  if spec.signGiven then .error .characterSign
  else if spec.alternate then .error .characterAlternate
  else if n < -machineLimit || machineLimit ≤ n then .error .characterNumber
  else if n < 0 || 0x110000 ≤ n then .error .characterRange
  else
    let align := if spec.align == .afterSign && spec.fill != '0' then Align.right else spec.align
    .ok (lay { spec with align } 3
      { negative := false, whole := [], tail := [Char.ofNat n.toNat] })

def layInteger (spec : Spec) (n : Int) : Except FormatError (List Char) := do
  let kind := spec.kind.getD 'd'
  if spec.precision.isSome then throw FormatError.integerPrecision
  if spec.coerceZero then throw FormatError.integerZeroCoercion
  if kind == 'c' then layCharacter spec n
  else
    let digits ← integerDigits kind n.natAbs
    let base := if spec.alternate then radixMark kind else []
    return lay spec (if radixOf kind == 10 then 3 else 4)
      { negative := n < 0, base, whole := digits }

def integerKinds : List Char := ['b', 'c', 'd', 'o', 'x', 'X', 'n']

/-- An integer by a specification; the notations of binary numbers convert it first. -/
def formatInt (text : String) (n : Int) : Except FormatError String := do
  let spec ← readSpec "int" text
  match spec.kind with
  | some kind =>
    if integerKinds.contains kind then return .ofList (← layInteger spec n)
    else if doubleKinds.contains kind then
      let x := Double.ofInt n
      if !x.isFinite then throw FormatError.integerAsDouble
      if largePrecision ≤ spec.precision.getD 0 then throw FormatError.precisionTooBig
      return .ofList (layDouble spec x)
    else throw (FormatError.unknownKind kind "int")
  | none => return .ofList (← layInteger spec n)

/-- A finite decimal number rounded as its notation asks. -/
def roundForKind (kind : Char) (precision : Option Nat) (c : Nat) (e : Int) : Nat × Int :=
  let fixed (c : Nat) (e : Int) : Nat × Int := if c == 0 && e > 0 then (0, 0) else (c, e)
  match kind, precision with
  | 'g', some p => Decimal.roundDigits (max p 1) c e
  | 'e', some p =>
    if c == 0 then (c, e)
    else
      let (c, e) := Decimal.roundDigits (p + 1) c e
      let missing := p + 1 - digitCount c
      (c * Nat.pow 10 missing, e - missing)
  | 'f', some p => (Decimal.rescale (-p) c e, -p)
  | 'f', none => fixed c e
  | _, _ => (c, e)

def decimalParts (spec : Spec) (c : Nat) (e : Int) : List Char × List Char :=
  let kind := (spec.kind.getD 'G').toLower
  let e := if kind == '%' then e + 2 else e
  let style := if kind == '%' then 'f' else kind
  let (c, e) := roundForKind style spec.precision c e
  let digits := Nat.toDigits 10 c
  let left : Int := e + digits.length
  let point : Int := match style with
    | 'f' => left
    | 'e' => if c == 0 then 1 - (spec.precision.getD 0 : Nat) else 1
    | _ => if e ≤ 0 && left > -6 then left else 1
  let (whole, fraction) :=
    if point < 0 then (['0'], List.replicate (-point).toNat '0' ++ digits)
    else if point > digits.length then
      (digits ++ List.replicate (point - digits.length).toNat '0', [])
    else
      let p := point.toNat
      (if p == 0 then ['0'] else digits.take p, digits.drop p)
  let shift := left - point
  let upper := match spec.kind with
    | some k => k.isUpper
    | none => true
  let exponent :=
    if shift != 0 || style == 'e' then
      [if upper then 'E' else 'e', if shift < 0 then '-' else '+'] ++ Nat.toDigits 10 shift.natAbs
    else []
  (whole, pointTail spec.alternate fraction ++ exponent ++ if kind == '%' then ['%'] else [])

/-- A decimal number by a specification in the stricter form. -/
def formatDecimal (text : String) (x : Decimal) : Except FormatError String :=
  match Spec.forDecimal? text with
  | none => .error .invalidDecimalSpec
  | some spec =>
    match x with
    | .finite s c e =>
      let (whole, tail) := decimalParts spec c e
      let isNought := (whole ++ tail.takeWhile (fun d => d == '.' || d.isDigit)).all
        (fun d => d == '0' || d == '.')
      let negative := s && !(spec.coerceZero && isNought)
      .ok (.ofList (lay spec 3 { negative, whole, tail }))
    | special =>
      let spec := if spec.zeroFill then { spec with fill := ' ', align := .right } else spec
      let name := (special.render.toList).dropWhile (· == '-')
      let tail := if spec.kind == some '%' then name ++ ['%'] else name
      .ok (.ofList (lay spec 3 { negative := special.isNegative, whole := [], tail }))

end DocumentServer.Layout
