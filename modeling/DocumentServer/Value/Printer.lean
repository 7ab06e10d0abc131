import DocumentServer.Calendar.Iso
import DocumentServer.Number.Shortest
import DocumentServer.Text.Quoted
import DocumentServer.Value.Basic

/-!
Values as text. A value alone is written plainly; inside a list, tuple or mapping it is written so
that its kind can be told: text in quotation marks, dates with the name of their kind.
-/
namespace DocumentServer.Value
open Calendar

def intChars (n : Int) : List Char :=
  if n < 0 then '-' :: Nat.toDigits 10 n.natAbs else Nat.toDigits 10 n.natAbs

def intText (n : Int) : String := .ofList (intChars n)

def commaText (items : List String) : String := String.intercalate ", " items

/-- A duration in days, seconds and microseconds, with the parts that are zero left out. -/
def durationCode (d : Duration) : String :=
  let seconds := d.microsOfDay / microsPerSecond
  let fraction := d.microsOfDay % microsPerSecond
  let parts :=
    (if d.days == 0 then [] else [s!"days={intText d.days}"])
      ++ (if seconds == 0 then [] else [s!"seconds={seconds}"])
      ++ (if fraction == 0 then [] else [s!"microseconds={fraction}"])
  let body := if parts.isEmpty then "0" else commaText parts
  s!"datetime.timedelta({body})"

def zoneCode : Zone → String
  | .fixed o Option.none =>
    if o.micros == 0 then "datetime.timezone.utc"
    else s!"datetime.timezone({durationCode ⟨o.micros⟩})"
  | .fixed o (some label) => s!"datetime.timezone({durationCode ⟨o.micros⟩}, {Text.quote label})"
  | .region key .. => s!"zoneinfo.ZoneInfo(key={Text.quote key})"

/-- A zone written alone: its key, or the name of its offset. -/
def zoneText : Zone → String
  | .region key .. => key
  | z => .ofList (z.nameAt 0)

def dateCode (d : Date) : String :=
  let c := d.civil
  s!"datetime.date({intText c.year}, {c.month}, {c.day})"

def dateTimeCode (t : DateTime) : String :=
  let c := t.date.civil
  let fields : List Nat := [c.year.toNat, c.month, c.day, t.time.hour, t.time.minute]
    ++ (if t.time.second == 0 && t.time.fraction == 0 then [] else [t.time.second])
    ++ (if t.time.fraction == 0 then [] else [t.time.fraction])
  let ending := match t.offset with
    | Option.none => ""
    | some z => s!", tzinfo={zoneCode z}"
  s!"datetime.datetime({commaText (fields.map toString)}{ending})"

/-- A date and time with a blank between them. -/
def dateTimeText (t : DateTime) : String :=
  .ofList ((Iso.dateTimeChars t).map fun c => if c == 'T' then ' ' else c)

def rangeCode (start stop step : Int) : String :=
  let tail := if step == 1 then "" else s!", {intText step}"
  s!"range({intText start}, {intText stop}{tail})"

def viewName : ViewKind → String
  | .keys => "dict_keys"
  | .items => "dict_items"
  | .values => "dict_values"

def handleText (kind : Handle) (name : String) : String :=
  match kind with
  | .macroDefinition => s!"<Macro {Text.quote name}>"
  | .blockChain => "<BlockReference>"
  | .blockTable => s!"<TemplateReference {Text.quote name}>"
  | .attributeBag => "<Namespace>"

def functionText (name : String) : String :=
  if name == "range" || name == "dict" then s!"<class {Text.quote name}>" else s!"<function {name}>"

mutual

/-- A value as it stands inside another one. -/
def code : Value → String
  | .none => "None"
  | .bool b => if b then "True" else "False"
  | .int n => intText n
  | .double x => x.render
  | .decimal d => s!"Decimal('{d.render}')"
  | .text s => Text.quote s
  | .markup s => s!"Markup({Text.quote s})"
  | .list items => s!"[{commaText (codes items)}]"
  | .tuple [item] => s!"({code item},)"
  | .tuple items => s!"({commaText (codes items)})"
  | .dict entries => "\x7b" ++ commaText (entryCodes entries) ++ "\x7d"
  | .date d => dateCode d
  | .dateTime t => dateTimeCode t
  | .zone z => zoneCode z
  | .missing _ => "Undefined"
  | .range start stop step => rangeCode start stop step
  | .view kind entries =>
    let items := match kind with
      | .keys => keyCodes entries
      | .values => valueCodes entries
      | .items => pairCodes entries
    s!"{viewName kind}([{commaText items}])"
  | .method receiver name => s!"<built-in method {name} of {receiver.typeName} object>"
  | .function name => functionText name
  | .handle kind name _ => handleText kind name
  | .loop items index _ _ => s!"<AsyncLoopContext {index + 1}/{items.length}>"
  | .module name _ _ => s!"<TemplateModule {Text.quote name}>"

def codes : List Value → List String
  | [] => []
  | v :: rest => code v :: codes rest

def entryCodes : List (Value × Value) → List String
  | [] => []
  | (k, v) :: rest => (code k ++ ": " ++ code v) :: entryCodes rest

def keyCodes : List (Value × Value) → List String
  | [] => []
  | (k, _) :: rest => code k :: keyCodes rest

def valueCodes : List (Value × Value) → List String
  | [] => []
  | (_, v) :: rest => code v :: valueCodes rest

def pairCodes : List (Value × Value) → List String
  | [] => []
  | (k, v) :: rest => s!"({code k}, {code v})" :: pairCodes rest

end

/-- A value written alone. A missing value is empty. -/
def render : Value → String
  | .text s => s
  | .markup s => s
  | .missing _ => ""
  | .decimal d => d.render
  | .date d => Iso.date d
  | .dateTime t => dateTimeText t
  | .zone z => zoneText z
  | .module _ _ body => body
  | v => code v

end DocumentServer.Value
