import DocumentServer.Association
import DocumentServer.Text.Affix
import DocumentServer.Text.Integer
import DocumentServer.Text.Quoted
import DocumentServer.Value.Basic

/-!
Command lines of long options, each with one argument. An option may be shortened as long as no
other begins alike. All arguments must belong to options.
-/
namespace DocumentServer.CommandLine
open Text (beginsWith)

inductive ArgumentKind where
  | text
  | whole

/-- An option with two dashes, and what its argument is. -/
structure OptionSpec where
  name : String
  kind : ArgumentKind

/-- Every command line can also ask for help. -/
def helpNames : List String := ["-h", "--help"]

inductive UsageError where
  | ambiguous (given : String) (candidates : List String)
  | noArgument (name : String)
  | notWhole (name argument : String)
  | ignored (argument : String)
  | unrecognized (arguments : List String)

namespace UsageError

def message : UsageError → String
  | .ambiguous given candidates =>
    let shown := String.intercalate ", " candidates
    s!"ambiguous option: {given} could match {shown}"
  | .noArgument name => s!"argument {name}: expected one argument"
  | .notWhole name argument =>
    let shown := Text.quote argument
    s!"argument {name}: invalid int value: {shown}"
  | .ignored argument =>
    let name := String.intercalate "/" helpNames
    let shown := Text.quote argument
    s!"argument {name}: ignored explicit argument {shown}"
  | .unrecognized arguments =>
    let shown := String.intercalate " " arguments
    s!"unrecognized arguments: {shown}"

end UsageError

/-- What stops the reading of a command line. -/
inductive Stop where
  | help
  | usage (e : UsageError)

/-- What one argument of a command line is, taken alone. -/
inductive Word where
  | option (name : String) (argument : Option String)
  /-- A wish for help, with what is attached to it in vain. -/
  | help (attached : Option String)
  | unknown (text : String)
  | argument (text : String)
  /-- Two dashes alone: options end here. -/
  | separator

/-- The parts of a text before and after the first equals sign. -/
def splitEquals (text : String) : String × Option String :=
  match text.toList.dropWhile (· != '=') with
  | [] => (text, none)
  | _ :: rest => (.ofList (text.toList.takeWhile (· != '=')), some (.ofList rest))

/-- A negative number is no option. -/
def isNegativeNumber (text : String) : Bool :=
  match text.toList with
  | '-' :: rest =>
    let whole := rest.takeWhile Text.isDecimalDigit
    match rest.drop whole.length with
    | [] => !whole.isEmpty
    | ['\n'] => !whole.isEmpty
    | '.' :: fraction =>
      let digits := fraction.takeWhile Text.isDecimalDigit
      !digits.isEmpty && (fraction.drop digits.length == [] || fraction.drop digits.length == ['\n'])
    | _ => false
  | _ => false

def optionNames (specs : List OptionSpec) : List String := helpNames ++ specs.map (·.name)

def wordOf (name : String) (argument : Option String) : Word :=
  if helpNames.contains name then .help argument else .option name argument

/-- Letters behind a single dash and the letter for help. Letters of no option are left aside, and
help comes first. -/
def helpWith : List Char → Word
  | 'h' :: '=' :: argument => .help (some (.ofList argument))
  | 'h' :: letters => helpWith letters
  | '-' :: letters => .help (some (.ofList ('-' :: letters)))
  | _ => .help none

/-- The options that a text may shorten, with the argument behind an equals sign. A single dash
takes the letter behind it alone. -/
def candidates (specs : List OptionSpec) (text : String) : List (String × Word) :=
  if beginsWith "--" text then
    let (start, argument) := splitEquals text
    ((optionNames specs).filter (beginsWith start)).map fun name => (name, wordOf name argument)
  else
    (optionNames specs).filterMap fun name =>
      if name.toList == text.toList.take 2 then some (name, helpWith (text.toList.drop 2))
      else if beginsWith text name then some (name, wordOf name none)
      else none

/-- What a text is that no option equals. -/
def looseWord (specs : List OptionSpec) (text : String) : Except UsageError Word :=
  match candidates specs text with
  | [(_, word)] => .ok word
  | _ :: _ :: _ => .error (.ambiguous text ((candidates specs text).map (·.1)))
  | [] =>
    if isNegativeNumber text || text.toList.contains ' ' then .ok (.argument text)
    else .ok (.unknown text)

def classify (specs : List OptionSpec) (text : String) : Except UsageError Word :=
  if text == "-" || !beginsWith "-" text then .ok (.argument text)
  else if (optionNames specs).contains text then .ok (wordOf text none)
  else
    let (name, argument) := splitEquals text
    if argument.isSome && (optionNames specs).contains name then .ok (wordOf name argument)
    else looseWord specs text

/-- What every argument is. After two dashes alone there are no more options. -/
def classifyAll (specs : List OptionSpec) : List String → Except UsageError (List Word)
  | [] => .ok []
  | "--" :: rest => .ok (.separator :: rest.map .argument)
  | text :: rest => do
    let word ← classify specs text
    return word :: (← classifyAll specs rest)

/-! ## Arguments of options -/

/-- An argument as its option takes it. -/
def readArgument (spec : OptionSpec) (text : String) : Except Stop Value :=
  match spec.kind with
  | .text => .ok (.text text)
  | .whole =>
    match Text.integer? text with
    | some n => .ok (.int n)
    | none => .error (.usage (.notWhole spec.name text))

/-- The arguments of the options so far, and the words that belong to none. -/
structure Reading where
  values : Association String Value := []
  extras : List String := []

def Reading.give (r : Reading) (spec : OptionSpec) (value : Value) : Reading :=
  { r with values := r.values.put spec.name value }

def Reading.leave (r : Reading) (text : String) : Reading := { r with extras := r.extras ++ [text] }

def specOf (specs : List OptionSpec) (name : String) : OptionSpec :=
  (specs.find? (·.name == name)).getD { name, kind := .text }

/-- Goes through the words in order. -/
def readWords (specs : List OptionSpec) (r : Reading) : List Word → Except Stop Reading
  | [] => .ok r
  | .option name (some argument) :: rest => do
    let spec := specOf specs name
    readWords specs (r.give spec (← readArgument spec argument)) rest
  | .option name none :: .argument text :: rest => do
    let spec := specOf specs name
    readWords specs (r.give spec (← readArgument spec text)) rest
  | .option name none :: _ => .error (.usage (.noArgument name))
  | .help none :: _ => .error .help
  | .help (some attached) :: _ => .error (.usage (.ignored attached))
  | .unknown text :: rest => readWords specs (r.leave text) rest
  | .argument text :: rest => readWords specs (r.leave text) rest
  | .separator :: rest => readWords specs (r.leave "--") rest

/-- The arguments of all options of a command line. -/
def read (specs : List OptionSpec) (arguments : List String) :
    Except Stop (Association String Value) := do
  let words ← (classifyAll specs arguments).mapError .usage
  let reading ← readWords specs {} words
  if reading.extras.isEmpty then return reading.values
  else throw (.usage (.unrecognized reading.extras))

end DocumentServer.CommandLine
