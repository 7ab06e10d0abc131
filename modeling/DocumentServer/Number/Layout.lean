import DocumentServer.Text.Digit

/-!
Layout of numbers: sign, digit groups, padding and the specification text that chooses them. A
specification reads `[[fill]align][sign][z][#][0][width][grouping][.precision][kind]`.
-/
namespace DocumentServer.Layout

inductive Align where
  | left
  | right
  | center
  /-- Padding goes between the sign and the digits. -/
  | afterSign
  deriving DecidableEq

def Align.ofChar? : Char → Option Align
  | '<' => some .left
  | '>' => some .right
  | '^' => some .center
  | '=' => some .afterSign
  | _ => none

/-- What stands before a number that is not negative. -/
inductive SignRule where
  | negativeOnly
  | plus
  | space
  deriving DecidableEq

structure Spec where
  fill : Char := ' '
  align : Align := .right
  /-- Zeros after the sign count as digits, and are grouped with them. -/
  zeroFill : Bool := false
  sign : SignRule := .negativeOnly
  /-- Whether the specification names a sign rule at all. -/
  signGiven : Bool := false
  /-- A zero result loses its minus sign. -/
  coerceZero : Bool := false
  alternate : Bool := false
  width : Nat := 0
  separator : Option Char := none
  precision : Option Nat := none
  kind : Option Char := none

/-- A number cut into the parts that layout treats apart. -/
structure Numeral where
  negative : Bool
  /-- The mark of the base, such as `0x`. -/
  base : List Char := []
  whole : List Char
  /-- The point, the digits behind it, the exponent and the per cent sign. -/
  tail : List Char := []

def signChars (rule : SignRule) (negative : Bool) : List Char :=
  if negative then ['-']
  else match rule with
    | .negativeOnly => []
    | .plus => ['+']
    | .space => [' ']

/-- Puts the separator behind every full group; digits and result run from the last digit on. -/
def groupReversed (size : Nat) (mark : Char) : Nat → List Char → List Char
  | _, [] => []
  | count, d :: rest =>
    if count == size then mark :: d :: groupReversed size mark 1 rest
    else d :: groupReversed size mark (count + 1) rest

/-- Groups of `size` digits counted from the right. -/
def groupDigits (size : Nat) (mark : Char) (digits : List Char) : List Char :=
  (groupReversed size mark 0 digits.reverse).reverse

/-- The least number of digits, `have` at least, whose grouped text is `width` long. -/
def digitsForWidth (size : Nat) (grouped : Bool) (width : Nat) : Nat → Nat → Nat
  | 0, count => count
  | fuel + 1, count =>
    let length := if grouped then count + (count - 1) / size else count
    if width ≤ length then count else digitsForWidth size grouped width fuel (count + 1)

def wholeText (size : Nat) (separator : Option Char) (width : Nat) (digits : List Char) :
    List Char :=
  let count := digitsForWidth size separator.isSome width width digits.length
  let filled := digits.leftpad count '0'
  match separator with
  | some mark => groupDigits size mark filled
  | none => filled

/-- Fills up to the width of the specification. -/
def pad (spec : Spec) (sign body : List Char) : List Char :=
  let missing := spec.width - (sign.length + body.length)
  let filling (n : Nat) := List.replicate n spec.fill
  match spec.align with
  | .left => sign ++ body ++ filling missing
  | .right => filling missing ++ sign ++ body
  | .afterSign => sign ++ filling missing ++ body
  | .center => filling (missing / 2) ++ sign ++ body ++ filling (missing - missing / 2)

/-- Numbers without digits, such as infinity, are padded but not grouped. -/
def lay (spec : Spec) (groupSize : Nat) (n : Numeral) : List Char :=
  let sign := signChars spec.sign n.negative ++ n.base
  if n.whole.isEmpty then pad spec sign n.tail
  else
    let width := if spec.zeroFill then spec.width - (sign.length + n.tail.length) else 0
    pad spec sign (wholeText groupSize spec.separator width n.whole ++ n.tail)

inductive SpecError where
  | tooManyDigits
  | bothSeparators
  | missingPrecision
  | invalid
  | separatorKind (separator kind : Char)
  deriving DecidableEq

/-- The alignment and its fill character, if any, and the rest. -/
def takeAlign : List Char → Option (Option Char × Align) × List Char
  | [] => (none, [])
  | [c] => match Align.ofChar? c with
    | some a => (some (none, a), [])
    | none => (none, [c])
  | c :: d :: rest =>
    match Align.ofChar? d with
    | some a => (some (some c, a), rest)
    | none => match Align.ofChar? c with
      | some a => (some (none, a), d :: rest)
      | none => (none, c :: d :: rest)

def takeSign : List Char → Option SignRule × List Char
  | '+' :: rest => (some .plus, rest)
  | '-' :: rest => (some .negativeOnly, rest)
  | ' ' :: rest => (some .space, rest)
  | s => (none, s)

def takeFlag (flag : Char) : List Char → Bool × List Char
  | c :: rest => if c == flag then (true, rest) else (false, c :: rest)
  | [] => (false, [])

/-- A run of decimal digits as a number; it must be below the limit. -/
def takeNumber (limit : Nat) (s : List Char) : Except SpecError (Option Nat × List Char) :=
  let digits := (s.takeWhile Text.isDecimalDigit).filterMap Text.digitValue?
  let n := Text.ofDigitValues digits
  if digits.isEmpty then .ok (none, s)
  else if n < limit then .ok (some n, s.dropWhile Text.isDecimalDigit)
  else .error .tooManyDigits

def widthLimit : Nat := Nat.pow 2 63

/-- The separator of the digit groups and the rest. -/
def takeSeparator (s : List Char) : Except SpecError (Option Char × List Char) :=
  match s with
  | ',' :: '_' :: _ => .error .bothSeparators
  | '_' :: ',' :: _ => .error .bothSeparators
  | ',' :: rest => .ok (some ',', rest)
  | '_' :: rest => .ok (some '_', rest)
  | s => .ok (none, s)

/-- Base two, eight and sixteen admit the low line only, and other kinds than these and the
decimal ones no separator at all. -/
def separatorAllowed (separator : Char) : Option Char → Bool
  | none => true
  | some kind =>
    ['d', 'e', 'f', 'g', 'E', 'G', '%', 'F'].contains kind
      || (separator == '_' && ['b', 'o', 'x', 'X'].contains kind)

def Spec.ofString (text : String) : Except SpecError Spec := do
  let (placed, s) := takeAlign text.toList
  let (sign, s) := takeSign s
  let (coerceZero, s) := takeFlag 'z' s
  let (alternate, s) := takeFlag '#' s
  let explicitFill := (placed.bind (·.1)).isSome
  let (zeroPad, s) := if explicitFill then (false, s) else takeFlag '0' s
  let (width, s) ← takeNumber widthLimit s
  let (separator, s) ← takeSeparator s
  let (precision, s) ← match s with
    | '.' :: rest => do
      let (p, rest) ← takeNumber widthLimit rest
      if p.isNone then throw SpecError.missingPrecision
      pure (p, rest)
    | s => pure (none, s)
  let kind ← match s with
    | [] => pure none
    | [c] => pure (some c)
    | _ => throw SpecError.invalid
  if let some mark := separator then
    if !separatorAllowed mark kind then throw (SpecError.separatorKind mark (kind.getD ' '))
  let defaultAlign := if zeroPad then Align.afterSign else .right
  let fill := if zeroPad then '0' else ((placed.bind (·.1)).getD ' ')
  let align := (placed.map (·.2)).getD defaultAlign
  return { fill, align, zeroFill := fill == '0' && align == .afterSign,
           sign := sign.getD .negativeOnly, signGiven := sign.isSome, coerceZero, alternate,
           width := width.getD 0, separator, precision, kind }

/-- The stricter form for decimal numbers: ASCII digits, no alignment beside the zero, a comma as
the only separator, and the kinds of decimal notation. `none` stands for anything else. -/
def Spec.forDecimal? (text : String) : Option Spec := do
  let (placed, s) := takeAlign text.toList
  let (sign, s) := takeSign s
  let (coerceZero, s) := takeFlag 'z' s
  let (alternate, s) := takeFlag '#' s
  let (zeroPad, s) := takeFlag '0' s
  if zeroPad && placed.isSome then none
  else
    let widthDigits := s.takeWhile Char.isDigit
    if widthDigits.head? == some '0' then none
    else
      let s := s.dropWhile Char.isDigit
      let (comma, s) := takeFlag ',' s
      let (dot, s) := takeFlag '.' s
      let precisionDigits := if dot then s.takeWhile Char.isDigit else []
      if dot && precisionDigits.isEmpty then none
      else
        let s := if dot then s.dropWhile Char.isDigit else s
        let kind ← match s with
          | [] => some none
          | [c] =>
            if ['e', 'E', 'f', 'F', 'g', 'G', '%'].contains c then some (some c)
            else if c == 'n' && !comma then some (some 'g')
            else if c == 'N' && !comma then some (some 'G')
            else none
          | _ => none
        let fill := if zeroPad then '0' else ((placed.bind (·.1)).getD ' ')
        let align := if zeroPad then Align.afterSign else ((placed.map (·.2)).getD .right)
        some { fill, align, zeroFill := zeroPad, sign := sign.getD .negativeOnly, coerceZero,
               alternate, width := (Text.asciiNumber? widthDigits).getD 0,
               separator := if comma then some ',' else none,
               precision := Text.asciiNumber? precisionDigits, kind }

end DocumentServer.Layout
