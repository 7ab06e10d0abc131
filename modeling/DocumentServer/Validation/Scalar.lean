import DocumentServer.Files.Path
import DocumentServer.Number.Double
import DocumentServer.Text.Blank
import DocumentServer.Text.Digit
import DocumentServer.Validation.Problem

/-!
Reading simple values from what is given for them: text, paths, whole numbers, flags and choices.
Numbers and flags may also be given as text.
-/
namespace DocumentServer.Validation

def readText (v : Value) : Except Problem String :=
  match v.text? with
  | some s => .ok s
  | none => .error .notText

/-- A path, in its plainest spelling. -/
def readPath (v : Value) : Except Problem String :=
  match v.text? with
  | some s => .ok (Files.plainText s)
  | none => .error .notPath

def readChoice (choices : List String) (v : Value) : Except Problem String :=
  match v.text? with
  | some s => if choices.contains s then .ok s else .error (.noChoice choices)
  | none => .error (.noChoice choices)

/-! ## Whole numbers -/

/-- White space in the narrower sense, without the information separators. -/
def isSpace (c : Char) : Bool := Text.isBlank c && !(0x1c ≤ c.toNat && c.toNat ≤ 0x1f)

def trimSpace (s : List Char) : List Char :=
  ((s.dropWhile isSpace).reverse.dropWhile isSpace).reverse

/-- Drops leading zeros, with underscores among them, but keeps one before a point or the end. -/
def dropLeadingZeros? (s : List Char) : Option (List Char) :=
  match s with
  | '0' :: rest =>
    match rest.dropWhile fun c => c == '0' || c == '_' with
    | [] => some [s.getLast?.getD '0']
    | '.' :: fraction =>
      some ((rest.takeWhile fun c => c == '0' || c == '_').getLast?.getD '0' :: '.' :: fraction)
    | c :: digits => if c.isDigit then some (c :: digits) else none
  | '-' :: _ => some s
  | c :: _ => if c.isDigit then some s else none
  | [] => none

/-- Drops a point with nothing but zeros behind it. -/
def dropZeroFraction? (s : List Char) : Option (List Char) :=
  match s.dropWhile (· != '.') with
  | [] => some s
  | _ :: zeros =>
    if !zeros.isEmpty && zeros.all (· == '0') then some (s.takeWhile (· != '.')) else none

def hasDoubleUnderscore : List Char → Bool
  | '_' :: '_' :: _ => true
  | _ :: rest => hasDoubleUnderscore rest
  | [] => false

/-- Drops underscores that stand alone and inside. -/
def dropUnderscores? (s : List Char) : Option (List Char) :=
  if s.head? == some '_' || s.getLast? == some '_' || hasDoubleUnderscore s then none
  else some (s.filter (· != '_'))

/-- A numeral without superfluous zeros. -/
def plainWhole? (s : List Char) : Option Int :=
  let canonical (digits : List Char) : Option Int :=
    if digits.length > 1 && digits.head? == some '0' then none
    else (Text.asciiNumber? digits).map fun n => (n : Int)
  match s with
  | '-' :: digits => (canonical digits).map fun n => -n
  | digits => canonical digits

/-- A plus sign must not stand before another sign. -/
def dropPlus (s : List Char) : List Char :=
  match s with
  | '+' :: rest => if rest.head? == some '-' then s else rest
  | s => s

def loosened? (s : List Char) : Option (List Char) := do
  dropUnderscores? (← dropZeroFraction? (← dropLeadingZeros? (dropPlus s)))

def maxWholeLength : Nat := 4300

/-- The whole number that a text stands for. -/
def wholeOfText (text : String) : Except Problem Int :=
  let s := trimSpace text.toList
  if (String.ofList s).utf8ByteSize > maxWholeLength then .error .tooLongWhole
  else match (plainWhole? s).orElse fun () => (loosened? s).bind plainWhole? with
    | some n => .ok n
    | none => .error .unreadableWhole

def wholeOfDouble (x : Double) : Except Problem Int :=
  match x.truncate? with
  | none => .error .notFinite
  | some n => if x.ordering? (.ofInt n) == some .eq then .ok n else .error .fraction

def wholeOfDecimal (x : Decimal) : Except Problem Int :=
  match x.truncate? with
  | none => .error .notFinite
  | some n => if x.ordering? (.ofInt n) == some .eq then .ok n else .error .fraction

def readWhole (v : Value) : Except Problem Int :=
  match v with
  | .int n => .ok n
  | .bool b => .ok (if b then 1 else 0)
  | .double x => wholeOfDouble x
  | .decimal x => wholeOfDecimal x
  | v => match v.text? with
    | some s => wholeOfText s
    | none => .error .notWhole

/-- A whole number above zero. -/
def readPositive (v : Value) : Except Problem { n : Int // 0 < n } := do
  let n ← readWhole v
  if h : 0 < n then return ⟨n, h⟩ else throw (.notGreater 0)

/-! ## Flags -/

def yesWords : List String := ["1", "t", "y", "on", "yes", "true"]

def noWords : List String := ["0", "f", "n", "no", "off", "false"]

/-- Words for yes and no count in either case. -/
def flagOfText (text : String) : Except Problem Bool :=
  let word := String.ofList (text.toList.map Char.toLower)
  if yesWords.contains word then .ok true
  else if noWords.contains word then .ok false
  else .error .unreadableFlag

def flagOfWhole (n : Int) : Except Problem Bool :=
  if n == 1 then .ok true else if n == 0 then .ok false else .error .unreadableFlag

def flagOfNumber (whole : Except Problem Int) : Except Problem Bool :=
  match whole with
  | .ok n => flagOfWhole n
  | .error _ => .error .notFlag

def readFlag (v : Value) : Except Problem Bool :=
  match v with
  | .bool b => .ok b
  | .int n => flagOfWhole n
  | .double x => flagOfNumber (wholeOfDouble x)
  | .decimal x => flagOfNumber (wholeOfDecimal x)
  | v => match v.text? with
    | some s => flagOfText s
    | none => .error .notFlag

end DocumentServer.Validation
