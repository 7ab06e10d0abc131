import DocumentServer.Formatting.Numbers
import DocumentServer.Markup.Escape
import DocumentServer.Template.Environment
import DocumentServer.Template.Method
import DocumentServer.Value.Arithmetic
import DocumentServer.Value.Order

/-!
Filters: named operations on a value that a template writes behind a bar.
-/
namespace DocumentServer.Template
open Value Markup

/-- A filter takes the value and its arguments, matched with a signature. The flag tells whether
output is escaped where the filter is used. -/
structure Filter where
  signature : Environment → Signature
  /-- Whether the filter can be applied before a template runs. -/
  isEager : Bool
  apply : Environment → Bool → List Value → Except Fault Value

namespace Filter

def plain (signature : Signature) (apply : List Value → Except Fault Value) : Filter :=
  { signature := fun _ => signature, isEager := true, apply := fun _ _ => apply }

/-- Changes text, written out first if the value is not text. -/
def mapText (f : String → String) (v : Value) : Value :=
  match softText v with
  | .markup s => .markup (f s)
  | v => .text (f v.render)

def ofText (name : String) (f : String → String) : Filter :=
  plain (.ofNames name ["s"] []) fun
    | v :: _ => .ok (mapText f v)
    | [] => .ok .none

/-- A value that is missing, or false if that counts too, gives way to another. -/
def defaultValue (args : List Value) : Value :=
  match args with
  | value :: instead :: isBoolean :: _ => match value with
    | .missing _ => instead
    | value => if isBoolean.isTrue && !value.isTrue then instead else value
  | _ => .none

def withDefault : Filter :=
  plain (.ofNames "do_default" ["value"] [("default_value", .text ""), ("boolean", .bool false)])
    fun args => .ok (defaultValue args)

def sizeOf (args : List Value) : Except Fault Value :=
  match args with
  | v :: _ => (size v).map fun n => .int n
  | [] => .ok .none

def length : Filter := plain (.ofNames "len" ["obj"] []) sizeOf

def escaped : Filter :=
  plain (.ofNames "escape" ["s"] []) fun args => .ok (.markup ((args.map escape).headD ""))

def forceEscaped : Filter :=
  plain (.ofNames "do_forceescape" ["value"] []) fun args =>
    .ok (.markup ((args.map fun v => escapeText ((markup? v).getD v.render)).headD ""))

def safe : Filter :=
  plain (.ofNames "do_mark_safe" ["value"] []) fun args =>
    .ok (.markup ((args.map fun v => (markup? v).getD v.render).headD ""))

def text : Filter :=
  plain (.ofNames "soft_str" ["s"] []) fun args => .ok ((args.map softText).headD .none)

/-- Joins items as text. With escaping on, one item or mark that is markup makes the result
markup. -/
def joinItems (escapes : Bool) (items : List Value) (mark : Value) : Value :=
  let hasMarkup := escapes && (mark :: items).any fun v => (markup? v).isSome
  if hasMarkup then .markup (String.intercalate (escape mark) (items.map escape))
  else .text (String.intercalate mark.render (items.map Value.render))

def attributeItems (path : Value) (items : List Value) : Except Fault (List Value) :=
  match path with
  | .none => .ok items
  | .text path => items.mapM fun item =>
    (splitAt ['.'] (path.length + 1) [] path.toList).foldlM
      (fun v part => itemOf v (.text (.ofList part))) item
  | key => items.mapM fun item => itemOf item key

def join : Filter where
  signature := fun _ =>
    .ofNames "sync_do_join" ["value"] [("d", .text ""), ("attribute", .none)]
  isEager := false
  apply := fun _ escapes args => match args with
    | value :: mark :: path :: _ => do
      return joinItems escapes (← attributeItems path (← items value)) mark
    | _ => .ok .none

def trim : Filter :=
  plain (.ofNames "do_trim" ["value"] [("chars", .none)]) fun
    | value :: chars :: _ =>
      let dropped : Char → Bool := match chars.text? with
        | some s => s.toList.contains
        | Option.none => Text.isBlank
      .ok (mapText (fun s => .ofList (stripText true true s.toList dropped)) value)
    | _ => .ok .none

def list : Filter where
  signature := fun _ => .ofNames "sync_do_list" ["value"] []
  isEager := false
  apply := fun _ _ args => match args with
    | value :: _ => (items value).map .list
    | [] => .ok .none

def first : Filter where
  signature := fun _ => .ofNames "sync_do_first" ["seq"] []
  isEager := false
  apply := fun _ _ args => match args with
    | value :: _ => (items value).map fun items =>
      items.head?.getD (.missing ⟨"No first item, sequence was empty."⟩)
    | [] => .ok .none

def last : Filter :=
  plain (.ofNames "do_last" ["seq"] []) fun
    | value :: _ => (items value).map fun items =>
      items.getLast?.getD (.missing ⟨"No last item, sequence was empty."⟩)
    | [] => .ok .none

/-! ## Dates and numbers -/

def dateOffset : Filter :=
  plain (.ofNames "date_offset" ["value"] [("days", .int 0), ("weeks", .int 0)]) fun
    | value :: days :: weeks :: _ =>
      (Formatting.dateOffset value days weeks).map Formatting.momentValue
    | _ => .ok .none

/-- The formats that a call gives, or those of the environment. -/
def formatsOf : Value → Formatting.Formats
  | .dict entries => entries
  | _ => []

def formatting (name key : String) (formats : Environment → Formatting.Formats)
    (write : Formatting.Formats → Value → Value → Except Fault String) : Filter where
  signature := fun environment =>
    { Signature.ofNames name ["value"] [("format_key", .text key)] with
      namedOnly := [("formats", .dict (formats environment))] }
  isEager := true
  apply := fun _ _ args => match args with
    | value :: key :: formats :: _ => (write (formatsOf formats) value key).map .text
    | _ => .ok .none

end Filter

def filters : List (String × Filter) :=
  [("upper", .ofText "do_upper" Text.toUpper), ("lower", .ofText "do_lower" Text.toLower),
    ("length", .length), ("count", .length), ("default", .withDefault), ("d", .withDefault),
    ("e", .escaped), ("escape", .escaped), ("forceescape", .forceEscaped), ("safe", .safe),
    ("string", .text), ("join", .join), ("trim", .trim), ("list", .list), ("first", .first),
    ("last", .last), ("date_offset", .dateOffset),
    ("date_format", .formatting "format_date" "iso" (·.dateFormats) Formatting.formatDate),
    ("timestamp_format",
      .formatting "format_timestamp" "iso" (·.timestampFormats) Formatting.formatTimestamp),
    ("number_format",
      .formatting "format_number" "decimal" (·.numberFormats) Formatting.formatNumber)]

/-- Applies a filter to a value and further arguments. -/
def Filter.run (f : Filter) (environment : Environment) (escapes : Bool) (given : Given) :
    Except Fault Value := do
  f.apply environment escapes (← (f.signature environment).bind given)

/-! ## Tests -/

/-- A test takes the value and its arguments, matched with a signature. -/
structure ValueTest where
  signature : Signature
  holds : List Value → Except Fault Bool

namespace ValueTest

def ofKind (name : String) (holds : Value → Bool) : ValueTest :=
  { signature := .ofNames name ["value"] []
    holds := fun args => .ok ((args.map holds).headD false) }

def isMissing : Value → Bool
  | .missing _ => true
  | _ => false

def isNone : Value → Bool
  | .none => true
  | _ => false

def isBool : Value → Bool
  | .bool _ => true
  | _ => false

def isInt : Value → Bool
  | .int _ => true
  | _ => false

def isDouble : Value → Bool
  | .double _ => true
  | _ => false

def isMapping : Value → Bool
  | .dict _ => true
  | _ => false

/-- A value with a size whose parts are found by position or key. -/
def isSequence : Value → Bool
  | .dict _ => true
  | .missing _ => true
  | v => isSliceable v

/-- The remainder of a division leaves a given number. -/
def remainder (divisor : Value) (wanted : Int) (v : Value) : Except Fault Bool := do
  return same (← modulo v divisor) (.int wanted)

def parity (name : String) (wanted : Int) : ValueTest :=
  { signature := .ofNames name ["value"] []
    holds := fun args => remainder (.int 2) wanted (args.headD .none) }

def divisible : ValueTest :=
  { signature := .ofNames "test_divisibleby" ["value", "num"] []
    holds := fun
      | [v, n] => remainder n 0 v
      | _ => .ok false }

def comparing (name : String) (holds : Value → Value → Except Fault Bool) : ValueTest :=
  { signature := .ofNames name ["a", "b"] []
    holds := fun
      | [x, y] => holds x y
      | _ => .ok false }

end ValueTest

def equalTest : ValueTest := .comparing "eq" fun x y => .ok (same x y)

def unequalTest : ValueTest := .comparing "ne" fun x y => .ok (!same x y)

def tests : List (String × ValueTest) :=
  [("defined", .ofKind "test_defined" (!ValueTest.isMissing ·)),
    ("undefined", .ofKind "test_undefined" ValueTest.isMissing),
    ("none", .ofKind "test_none" ValueTest.isNone),
    ("boolean", .ofKind "test_boolean" ValueTest.isBool),
    ("true", .ofKind "test_true" fun v => ValueTest.isBool v && v.isTrue),
    ("false", .ofKind "test_false" fun v => ValueTest.isBool v && !v.isTrue),
    ("integer", .ofKind "test_integer" ValueTest.isInt),
    ("float", .ofKind "test_float" ValueTest.isDouble),
    ("number", .ofKind "test_number" fun v => (Numeric.ofValue? v).isSome),
    ("string", .ofKind "test_string" (·.text?.isSome)),
    ("mapping", .ofKind "test_mapping" ValueTest.isMapping),
    ("iterable", .ofKind "test_iterable" fun v => (items? v).isSome),
    ("sequence", .ofKind "test_sequence" ValueTest.isSequence),
    ("escaped", .ofKind "test_escaped" fun v => (markup? v).isSome),
    ("even", .parity "test_even" 0), ("odd", .parity "test_odd" 1),
    ("divisibleby", .divisible),
    ("in", .comparing "test_in" fun x container => contains container x),
    ("eq", equalTest), ("equalto", equalTest), ("==", equalTest), ("ne", unequalTest),
    ("lt", .comparing "lt" (testOrder .less)), ("lessthan", .comparing "lt" (testOrder .less)),
    ("le", .comparing "le" (testOrder .lessOrEqual)),
    ("gt", .comparing "gt" (testOrder .greater)),
    ("greaterthan", .comparing "gt" (testOrder .greater)),
    ("ge", .comparing "ge" (testOrder .greaterOrEqual))]

def ValueTest.run (t : ValueTest) (given : Given) : Except Fault Bool := do
  t.holds (← t.signature.bind given)

end DocumentServer.Template
