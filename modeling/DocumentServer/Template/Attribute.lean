import DocumentServer.Formatting.Dates
import DocumentServer.Template.Host
import DocumentServer.Template.Signature
import DocumentServer.Text.Letter
import DocumentServer.Value.Sequence

/-!
Looking into values: attributes, keys and positions. An attribute is looked for among what the
value itself offers, then among its keys; a key the other way round. What is not there is a
missing value that tells what was looked for.
-/
namespace DocumentServer.Template
open Value

/-- The kind of a value as messages about missing attributes give it. -/
def kindText : Value → String
  | .none => "None"
  | .markup _ => "markupsafe.Markup object"
  | .missing _ => "jinja2.runtime.Undefined object"
  | .handle .macroDefinition .. => "jinja2.runtime.Macro object"
  | .handle .blockChain .. => "jinja2.runtime.BlockReference object"
  | .handle .blockTable .. => "jinja2.runtime.TemplateReference object"
  | .handle .attributeBag .. => "jinja2.utils.Namespace object"
  | .loop .. => "jinja2.runtime.AsyncLoopContext object"
  | .module .. => "jinja2.environment.TemplateModule object"
  | v => s!"{v.typeName} object"

def undefinedName (name : String) : Value := .missing ⟨s!"{Text.quote name} is undefined"⟩

/-- The value that looking for something in another value gives when it is not there. -/
def missingIn (owner key : Value) : Value :=
  match key with
  | .text name =>
    .missing ⟨s!"{Text.quote (kindText owner)} has no attribute {Text.quote name}"⟩
  | key => .missing ⟨s!"{kindText owner} has no element {key.code}"⟩

def textMethods : List String :=
  ["capitalize", "casefold", "center", "count", "encode", "endswith", "expandtabs", "find",
    "format", "format_map", "index", "isalnum", "isalpha", "isascii", "isdecimal", "isdigit",
    "isidentifier", "islower", "isnumeric", "isprintable", "isspace", "istitle", "isupper", "join",
    "ljust", "lower", "lstrip", "maketrans", "partition", "removeprefix", "removesuffix",
    "replace", "rfind", "rindex", "rjust", "rpartition", "rsplit", "rstrip", "split", "splitlines",
    "startswith", "strip", "swapcase", "title", "translate", "upper", "zfill"]

def markupMethods : List String := textMethods ++ ["escape", "striptags", "unescape"]

def listMethods : List String :=
  ["append", "clear", "copy", "count", "extend", "index", "insert", "pop", "remove", "reverse",
    "sort"]

def dictMethods : List String :=
  ["clear", "copy", "fromkeys", "get", "items", "keys", "pop", "popitem", "setdefault", "update",
    "values"]

def intMethods : List String :=
  ["as_integer_ratio", "bit_count", "bit_length", "conjugate", "from_bytes", "to_bytes"]

def doubleMethods : List String :=
  ["as_integer_ratio", "conjugate", "fromhex", "hex", "is_integer"]

def dateMethods : List String :=
  ["ctime", "fromisocalendar", "fromisoformat", "fromordinal", "fromtimestamp", "isocalendar",
    "isoformat", "isoweekday", "replace", "strftime", "timetuple", "today", "toordinal",
    "weekday"]

def dateTimeMethods : List String :=
  dateMethods ++ ["astimezone", "combine", "date", "dst", "now", "strptime", "time", "timestamp",
    "timetz", "tzname", "utcfromtimestamp", "utcnow", "utcoffset", "utctimetuple"]

/-- The operations that a value offers. -/
def methodsOf : Value → List String
  | .text _ => textMethods
  | .markup _ => markupMethods
  | .list _ => listMethods
  | .tuple _ => ["count", "index"]
  | .range .. => ["count", "index"]
  | .dict _ => dictMethods
  | .bool _ => intMethods
  | .int _ => intMethods
  | .double _ => doubleMethods
  | .date _ => dateMethods
  | .dateTime _ => dateTimeMethods
  | .view .keys _ => ["isdisjoint"]
  | .view .items _ => ["isdisjoint"]
  | .loop .. => ["changed", "cycle"]
  | _ => []

def intValue (n : Nat) : Value := .int n

def dateFields (c : Calendar.Civil) : List (String × Value) :=
  [("year", .int c.year), ("month", intValue c.month), ("day", intValue c.day)]

def timeFields (t : Calendar.TimeOfDay) : List (String × Value) :=
  [("hour", intValue t.hour), ("minute", intValue t.minute), ("second", intValue t.second),
    ("microsecond", intValue t.fraction)]

def loopFields (items : List Value) (index depth : Nat) : List (String × Value) :=
  let size := items.length
  let before := if index == 0 then Option.none else items[index - 1]?
  [("index", intValue (index + 1)), ("index0", intValue index),
    ("revindex", intValue (size - index)), ("revindex0", intValue (size - index - 1)),
    ("first", .bool (index == 0)), ("last", .bool (index + 1 == size)),
    ("length", intValue size), ("depth", intValue (depth + 1)), ("depth0", intValue depth),
    ("previtem", before.getD (.missing ⟨"there is no previous item"⟩)),
    ("nextitem", items[index + 1]?.getD (.missing ⟨"there is no next item"⟩))]

/-- The parts of a value that go by a name. -/
def fieldsOf : Value → List (String × Value)
  | .bool b => [("real", .int (if b then 1 else 0)), ("imag", .int 0),
      ("numerator", .int (if b then 1 else 0)), ("denominator", .int 1)]
  | .int n => [("real", .int n), ("imag", .int 0), ("numerator", .int n), ("denominator", .int 1)]
  | .double x => [("real", .double x), ("imag", .double .zero)]
  | .date d => dateFields d.civil
  | .dateTime t => dateFields t.date.civil ++ timeFields t.time
      ++ [("tzinfo", (t.offset.map Value.zone).getD .none)]
  | .zone (.region key ..) => [("key", .text key)]
  | .function name => if name == Host.openFunction then [("__globals__", Host.names)] else []
  | .range start stop step => [("start", .int start), ("stop", .int stop), ("step", .int step)]
  | .loop items index depth _ => loopFields items index depth
  | .module name exports _ => exports ++ [("__name__", .text name)]
  | .handle .macroDefinition name _ => [("name", .text name)]
  | _ => []

/-- What a value itself offers under a name. -/
def ownAttribute? (owner : Value) (name : String) : Option Value :=
  match (fieldsOf owner).lookup name with
  | some v => some v
  | Option.none => if (methodsOf owner).contains name then some (.method owner name) else Option.none

def attributeOf (owner : Value) (name : String) : Except Fault Value :=
  match owner with
  | .missing m => .error (.undefinedValue m.message)
  | owner => match (ownAttribute? owner name).or (lookUp? owner (.text name)) with
    | some v => .ok v
    | Option.none => .ok (missingIn owner (.text name))

def itemOf (owner key : Value) : Except Fault Value :=
  match owner with
  | .missing m => .error (.undefinedValue m.message)
  | owner => match (lookUp? owner key).or (key.text?.bind (ownAttribute? owner)) with
    | some v => .ok v
    | Option.none => .ok (missingIn owner key)

end DocumentServer.Template
