import DocumentServer.Fault
import DocumentServer.Text.Blank
import DocumentServer.Text.Digit

/-!
Page sizes: a standard name, or a width and a height, each a number with its unit.
-/
namespace DocumentServer.Page

def standardSizes : List String :=
  ["Letter", "Legal", "Tabloid", "Ledger", "A0", "A1", "A2", "A3", "A4", "A5", "A6"]

def isStandard (text : String) : Bool := standardSizes.contains text

def units : List (List Char) := [['i', 'n'], ['c', 'm'], ['m', 'm'], ['p', 'x']]

/-- A length on paper with its unit, as it was written. -/
structure Dimensions where
  width : String
  height : String
  deriving DecidableEq

/-- Reads a numeral: digits, and possibly a point with digits behind it. -/
def numeral? (s : List Char) : Option (List Char × List Char) :=
  let whole := s.takeWhile Text.isDecimalDigit
  let rest := s.dropWhile Text.isDecimalDigit
  if whole.isEmpty then none
  else match rest with
    | '.' :: tail =>
      let fraction := tail.takeWhile Text.isDecimalDigit
      if fraction.isEmpty then none
      else some (whole ++ '.' :: fraction, tail.dropWhile Text.isDecimalDigit)
    | rest => some (whole, rest)

/-- Reads a numeral with a unit. -/
def length? (s : List Char) : Option (List Char × List Char) :=
  match numeral? s with
  | some (number, rest) =>
    if units.contains (rest.take 2) then some (number ++ rest.take 2, rest.drop 2) else none
  | none => none

/-- A width and a height with white space between them and around them. -/
def dimensions? (text : String) : Option Dimensions := do
  let (width, rest) ← length? (Text.trimBlank text.toList)
  let next := rest.dropWhile Text.isBlank
  if next.length == rest.length then none
  let (height, rest) ← length? next
  if rest.isEmpty then some { width := .ofList width, height := .ofList height } else none

def invalidSize (text : String) : Fault :=
  let names := String.intercalate ", " standardSizes
  .invalidInput (s!"Invalid page size '{text}'. Expected one of {names} "
    ++ "or '<number><unit> <number><unit>' with units in, cm, mm or px")

def parseCustom (text : String) : Except Fault Dimensions :=
  match dimensions? text with
  | some d => .ok d
  | none => .error (invalidSize text)

/-- A size that has been checked; its text is kept as it was given. -/
inductive Size where
  | standard (name : String) (isStandard : isStandard name)
  | custom (text : String) (d : Dimensions) (parsed : dimensions? text = some d)

namespace Size

def text : Size → String
  | .standard name _ => name
  | .custom text _ _ => text

def read (text : String) : Except Fault Size :=
  if h : isStandard text then .ok (.standard text h)
  else match h : dimensions? text with
    | some d => .ok (.custom text d h)
    | none => .error (invalidSize text)

def a4 : Size := .standard "A4" (by decide)

end Size
end DocumentServer.Page
