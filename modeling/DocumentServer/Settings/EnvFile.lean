import DocumentServer.Association
import DocumentServer.Text.Blank

/-!
Files of environment variables: one binding a line, a name and a value after an equals sign. Values
may stand in quotes, and may refer to other variables. A line that is no binding is passed over.
-/
namespace DocumentServer.EnvFile
open Text

/-- White space that does not end a line. -/
def isGap (c : Char) : Bool := isBlank c && c != '\n' && c != '\r'

def skipGap (s : List Char) : List Char := s.dropWhile isGap

def isLineEnd (c : Char) : Bool := c == '\n' || c == '\r'

def skipLine (s : List Char) : List Char := (s.dropWhile fun c => !isLineEnd c).drop 1

/-! ## Values -/

/-- What a backslash and a character stand for. -/
def escapeChars : List (Char × Char) :=
  [('\\', '\\'), ('\'', '\''), ('"', '"'), ('a', '\x07'), ('b', '\x08'), ('f', '\x0c'),
   ('n', '\n'), ('r', '\r'), ('t', '\t'), ('v', '\x0b')]

/-- Replaces the escapes that are known inside of a quote. -/
def unescape (known : List Char) : List Char → List Char
  | '\\' :: c :: rest =>
    match if known.contains c then escapeChars.lookup c else none with
    | some target => target :: unescape known rest
    | none => '\\' :: unescape known (c :: rest)
  | c :: rest => c :: unescape known rest
  | [] => []
termination_by s => s.length

def knownInQuote (mark : Char) : List Char :=
  if mark == '"' then escapeChars.map (·.1) else ['\\', '\'']

/-- The text up to a quotation mark that no backslash precedes, and what follows the mark. -/
def untilMark (mark : Char) : List Char → Option (List Char × List Char)
  | [] => none
  | [c] => if c == mark then some ([], []) else none
  | c :: d :: rest =>
    if c == mark then some ([], d :: rest)
    else if c == '\\' && d == mark then
      (untilMark mark rest).map fun (inner, after) => (c :: d :: inner, after)
    else (untilMark mark (d :: rest)).map fun (inner, after) => (c :: inner, after)

/-- The text up to the last quotation mark, and what follows the mark. -/
def untilLastMark (mark : Char) (s : List Char) : Option (List Char × List Char) :=
  if s.contains mark then
    let after := (s.reverse.takeWhile (· != mark)).reverse
    some (s.take (s.length - after.length - 1), after)
  else none

/-- A quoted value, after its first mark. If every mark has a backslash, the last one ends it. -/
def quoted? (mark : Char) (s : List Char) : Option (List Char × List Char) :=
  ((untilMark mark s).orElse fun () => untilLastMark mark s).map fun (inner, after) =>
    (unescape (knownInQuote mark) inner, after)

/-- Cuts off a comment, which begins with a number sign after white space. -/
def dropComment : List Char → List Char
  | [] => []
  | c :: rest =>
    if isBlank c && ((c :: rest).dropWhile isBlank).head? == some '#' then []
    else c :: dropComment rest

def trimEnd (s : List Char) : List Char := (s.reverse.dropWhile isBlank).reverse

/-- A value without quotes ends with its line. -/
def unquoted (s : List Char) : List Char × List Char :=
  (trimEnd (dropComment (s.takeWhile fun c => !isLineEnd c)), s.dropWhile fun c => !isLineEnd c)

def value? (s : List Char) : Option (List Char × List Char) :=
  match s with
  | '\'' :: rest => quoted? '\'' rest
  | '"' :: rest => quoted? '"' rest
  | s => some (unquoted s)

/-! ## Bindings -/

/-- A name, unless there is a comment instead. -/
inductive Key where
  | name (chars : List Char)
  | comment

def key? (s : List Char) : Option (Key × List Char) :=
  match s with
  | '#' :: _ => some (.comment, s)
  | '\'' :: rest =>
    match rest.takeWhile (· != '\''), rest.dropWhile (· != '\'') with
    | c :: inner, _ :: after => some (.name (c :: inner), after)
    | _, _ => none
  | s =>
    let inKey (c : Char) : Bool := c != '=' && c != '#' && !isBlank c
    match s.takeWhile inKey with
    | [] => none
    | chars => some (.name chars, s.dropWhile inKey)

def skipExport (s : List Char) : List Char :=
  match s with
  | 'e' :: 'x' :: 'p' :: 'o' :: 'r' :: 't' :: c :: rest => if isGap c then skipGap rest else s
  | s => s

def skipComment (s : List Char) : List Char :=
  match skipGap s with
  | '#' :: rest => rest.dropWhile fun c => !isLineEnd c
  | _ => s

/-- What follows the end of a line, or the text where the line goes on. -/
def endOfLine (s : List Char) : Except (List Char) (List Char) :=
  match skipGap s with
  | [] => .ok []
  | '\r' :: '\n' :: rest => .ok rest
  | c :: rest => if isLineEnd c then .ok rest else .error s

/-- A name with its value, which is missing where no equals sign is. -/
abbrev Binding := Key × Option (List Char)

/-- A binding and the text after its line, or the text from which no binding could be read. -/
def binding (s : List Char) : Except (List Char) (Binding × List Char) :=
  let s := skipExport s
  match key? s with
  | none => .error s
  | some (key, rest) =>
    match skipGap rest with
    | '=' :: rest =>
      let rest := skipGap rest
      match value? rest with
      | none => .error rest
      | some (value, rest) =>
        (endOfLine (skipComment rest)).map fun rest => ((key, some value), rest)
    | rest => (endOfLine (skipComment rest)).map fun rest => ((key, none), rest)

/-- All bindings of a text. Each line takes at least one character. -/
def bindings : Nat → List Char → List Binding
  | 0, _ => []
  | fuel + 1, s =>
    match s.dropWhile isBlank with
    | [] => []
    | s => match binding s with
      | .ok (found, rest) => found :: bindings fuel rest
      | .error rest => bindings fuel (skipLine rest)

/-! ## References -/

/-- A piece of a value: plain text, or a variable with what stands in for it. -/
inductive Piece where
  | plain (c : Char)
  | variable (name : List Char) (default : List Char)

/-- A reference after its opening brace, and what follows the closing one. -/
def reference? (s : List Char) : Option (Piece × List Char) :=
  let name := s.takeWhile fun c => c != '}' && c != ':'
  match s.drop name.length with
  | '}' :: rest => some (.variable name [], rest)
  | ':' :: '-' :: rest =>
    match rest.dropWhile (· != '}') with
    | _ :: after => some (.variable name (rest.takeWhile (· != '}')), after)
    | [] => none
  | _ => none

def pieces : Nat → List Char → List Piece
  | 0, _ => []
  | _, [] => []
  | fuel + 1, '$' :: '{' :: rest =>
    match reference? rest with
    | some (piece, after) => piece :: pieces fuel after
    | none => .plain '$' :: pieces fuel ('{' :: rest)
  | fuel + 1, c :: rest => .plain c :: pieces fuel rest

/-- The value of a variable, or what stands in for it. One without a value counts as empty. -/
def Piece.resolve (known : Association String (Option String)) : Piece → List Char
  | .plain c => [c]
  | .variable name default =>
    match known.get? (.ofList name) with
    | some (some value) => value.toList
    | some none => []
    | none => default

/-- Fills in references, with the bindings before each one going before the environment. -/
def resolveAll (environment : Association String String) (done : Association String (Option String)) :
    List (String × Option (List Char)) → Association String (Option String)
  | [] => done
  | (name, none) :: rest => resolveAll environment (done.put name none) rest
  | (name, some value) :: rest =>
    let known := Association.merge (environment.map fun (k, v) => (k, some v)) done
    let resolved := (pieces value.length value).flatMap (Piece.resolve known)
    resolveAll environment (done.put name (some (.ofList resolved))) rest

def named? : Binding → Option (String × Option (List Char))
  | (.name chars, value) => some (.ofList chars, value)
  | (.comment, _) => none

def dropMark (s : List Char) : List Char := if s.head? == some '\ufeff' then s.drop 1 else s

/-- The variables that a file sets, with the ones it names without a value. -/
def read (environment : Association String String) (text : String) :
    Association String (Option String) :=
  let s := unifyNewlineChars (dropMark text.toList)
  resolveAll environment [] ((bindings (s.length + 1) s).filterMap named?)

end DocumentServer.EnvFile
