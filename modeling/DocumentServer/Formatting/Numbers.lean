import DocumentServer.Formatting.Formats
import DocumentServer.Formatting.Shift
import DocumentServer.Number.Formatted

/-!
The number filter. A definition that ends in `d` writes the integer part of any number.
-/
namespace DocumentServer.Formatting
open Layout

/-- A format letter as messages show it. -/
def kindText (c : Char) : String :=
  if 32 < c.toNat && c.toNat < 128 then toString c
  else "\\x" ++ String.ofList (Nat.toDigits 16 c.toNat)

def specMessage (text type : String) : SpecError → String
  | .tooManyDigits => "Too many decimal digits in format string"
  | .bothSeparators => "Cannot specify both ',' and '_'."
  | .missingPrecision => "Format specifier missing precision"
  | .invalid => s!"Invalid format specifier '{text}' for object of type '{type}'"
  | .separatorKind separator kind => s!"Cannot specify '{separator}' with '{kindText kind}'."

def integerDigitsMessage : String :=
  "Exceeds the limit (4300 digits) for integer string conversion; "
    ++ "use sys.set_int_max_str_digits() to increase the limit"

def formatFault : FormatError → Fault
  | .spec text type e => .wrongValue (specMessage text type e)
  | .unknownKind kind type =>
    .wrongValue s!"Unknown format code '{kindText kind}' for object of type '{type}'"
  | .invalidDecimalSpec => .wrongValue "invalid format string"
  | .precisionTooBig => .wrongValue "precision too big"
  | .integerPrecision => .wrongValue "Precision not allowed in integer format specifier"
  | .integerZeroCoercion =>
    .wrongValue "Negative zero coercion (z) not allowed in integer format specifier"
  | .characterSign => .wrongValue "Sign not allowed with integer format specifier 'c'"
  | .characterAlternate =>
    .wrongValue "Alternate form (#) not allowed with integer format specifier 'c'"
  | .characterRange => .overflow "%c arg not in range(0x110000)"
  | .characterNumber => .overflow "Python int too large to convert to C long"
  | .integerDigits => .wrongValue integerDigitsMessage
  | .integerAsDouble => .overflow "int too large to convert to float"

/-- The integer part of a decimal number, towards zero, or why there is none. -/
def decimalWhole (d : Decimal) : Except Fault Int :=
  match d with
  | .nan .. => .error (.wrongValue "cannot convert NaN to integer")
  | .infinite _ => .error (.overflow "cannot convert Infinity to integer")
  | d => .ok (d.truncate?.getD 0)

def wholeNumber : Numeric → Except Fault Int
  | .int n => .ok n
  | .double x => wholePart x
  | .decimal d => decimalWhole d

def writeNumber (text : String) : Numeric → Except FormatError String
  | .int n => formatInt text n
  | .double x => formatDouble text x
  | .decimal d => formatDecimal text d

/-- A number that is not a truth value. -/
def numberOf (value : Value) : Except Fault Numeric :=
  match value with
  | .int n => .ok (.int n)
  | .double x => .ok (.double x)
  | .decimal d => .ok (.decimal d)
  | _ => .error ⟨.filterValue, "number_format requires a numeric value"⟩

/-- Writes a number by the text of a definition. -/
def writeByDefinition (text : String) (x : Numeric) : Except Fault String := do
  let x ← if text.toList.getLast? == some 'd' then Numeric.int <$> wholeNumber x else pure x
  (writeNumber text x).mapError formatFault

def formatNumber (formats : Formats) (value key : Value) : Except Fault String := do
  let x ← numberOf value
  let d ← definition "number" formats key
  match d.text? with
  | none => throw ⟨.missingAttribute, s!"'{d.typeName}' object has no attribute 'endswith'"⟩
  | some text => writeByDefinition text x

end DocumentServer.Formatting
