import DocumentServer.Text.Blank
import DocumentServer.Text.Digit

/-!
Reading whole numbers that people write: digits of any script, single underscores between digits,
a sign, and white space around.
-/
namespace DocumentServer.Text

/-- The values of digits, where an underscore may stand between two of them. -/
def groupedDigits? : List Char → Option (List Nat)
  | [] => none
  | [c] => (digitValue? c).map ([·])
  | c :: '_' :: rest => do
    let d ← digitValue? c
    return d :: (← groupedDigits? rest)
  | c :: rest => do
    let d ← digitValue? c
    return d :: (← groupedDigits? rest)

/-- Longer numerals are refused. -/
def maxDigits : Nat := 4300

def unsigned? (s : List Char) : Option Nat := do
  let digits ← groupedDigits? s
  if digits.length > maxDigits then none else return ofDigitValues digits

/-- The number that a text is, if it is one. -/
def integer? (s : String) : Option Int :=
  match trimBlank s.toList with
  | '-' :: rest => (unsigned? rest).map fun n => -(n : Int)
  | '+' :: rest => (unsigned? rest).map fun n => (n : Int)
  | rest => (unsigned? rest).map fun n => (n : Int)

end DocumentServer.Text
