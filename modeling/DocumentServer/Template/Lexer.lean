import DocumentServer.Template.Literal
import DocumentServer.Text.Blank

/-!
Cutting a template into tokens. Outside of tags everything is data. A minus sign next to a tag
removes the white space on that side. Inside a tag brackets are matched, and the end of the tag is
seen only where no bracket is open.
-/
namespace DocumentServer.Template

inductive Mode where
  | data
  | comment
  | verbatim
  /-- Inside a statement or inside a print statement. -/
  | tag (statement : Bool)

/-- The rest of the text, and what decides how it is cut. -/
structure Scanner where
  rest : List Char
  position : Nat
  line : Nat
  previous : Option Char
  mode : Mode
  /-- Closing brackets still to come, the next one first. -/
  open_ : List Char

namespace Scanner

def start (source : List Char) : Scanner :=
  { rest := source, position := 0, line := 1, previous := none, mode := .data, open_ := [] }

def newlines (s : List Char) : Nat := s.countP (· == '\n')

/-- Passes over some characters. -/
def skip (s : Scanner) (count : Nat) : Scanner :=
  let taken := s.rest.take count
  { s with
    rest := s.rest.drop count
    position := s.position + taken.length
    line := s.line + newlines taken
    previous := taken.getLast?.or s.previous }

def enter (s : Scanner) (mode : Mode) : Scanner := { s with mode, open_ := [] }

def isTagStart : List Char → Bool
  | '{' :: c :: _ => c == '{' || c == '%' || c == '#'
  | _ => false

/-- The number of characters before the first place at which a test holds. -/
def distanceTo (test : List Char → Bool) : List Char → Option Nat
  | [] => if test [] then some 0 else none
  | c :: rest =>
    if test (c :: rest) then some 0 else (distanceTo test rest).map (· + 1)

def blankLength (s : List Char) : Nat := (s.takeWhile Text.isBlank).length

/-- The length of an optional sign that controls white space. -/
def signLength : List Char → Nat
  | '-' :: _ => 1
  | '+' :: _ => 1
  | _ => 0

/-- The length of the end of a tag, if it stands here: a minus sign takes white space with it. -/
def tagEnd? (mark : Char) (plusAllowed : Bool) (s : List Char) : Option Nat :=
  match s with
  | '-' :: c :: '}' :: rest => if c == mark then some (3 + blankLength rest) else none
  | '+' :: c :: '}' :: _ => if c == mark && plusAllowed then some 3 else none
  | c :: '}' :: _ => if c == mark then some 2 else none
  | _ => none

/-- The length of a whole statement that consists of one word: `raw` or `endraw`. -/
def wordTag? (word : List Char) (plusAllowed : Bool) (s : List Char) : Option Nat :=
  match s with
  | '{' :: '%' :: inside =>
    let sign := signLength inside
    let before := blankLength (inside.drop sign)
    let rest := inside.drop (sign + before)
    if word.isPrefixOf rest then
      let rest := rest.drop word.length
      let after := blankLength rest
      match tagEnd? '%' plusAllowed (rest.drop after) with
      | some size => some (2 + sign + before + word.length + after + size)
      | none => none
    else none
  | _ => none

/-- Text without the white space at its end. -/
def trimEnd (s : List Char) : List Char := (s.reverse.dropWhile Text.isBlank).reverse

def dataToken (s : Scanner) (text : List Char) : List Token :=
  if text.isEmpty then [] else [{ line := s.line, lexeme := .data (.ofList text) }]

def fail (s : Scanner) (message : String) : List Token × Option Scanner :=
  ([{ line := s.line, lexeme := .malformed (syntaxFault message) }], none)

/-- The text of a data section that ends before a tag with the given sign. -/
def dataBefore (tag text : List Char) : List Char :=
  if (tag.drop 2).head? == some '-' then trimEnd text else text

def rawWord : List Char := ['r', 'a', 'w']

def endrawWord : List Char := ['e', 'n', 'd', 'r', 'a', 'w']

def scanData (s : Scanner) : List Token × Option Scanner :=
  match distanceTo isTagStart s.rest with
  | none => (s.dataToken s.rest, none)
  | some count =>
    let tag := s.rest.drop count
    let tokens := s.dataToken (dataBefore tag (s.rest.take count))
    let atTag := s.skip count
    match wordTag? rawWord false tag with
    | some size => (tokens, some ((atTag.skip size).enter .verbatim))
    | none =>
      let size := 2 + signLength (tag.drop 2)
      let next := atTag.skip size
      match tag with
      | _ :: '{' :: _ =>
        (tokens ++ [{ line := atTag.line, lexeme := .variableBegin }],
          some (next.enter (.tag false)))
      | _ :: '%' :: _ =>
        (tokens ++ [{ line := atTag.line, lexeme := .blockBegin }], some (next.enter (.tag true)))
      | _ => (tokens, some (next.enter .comment))

def scanComment (s : Scanner) : List Token × Option Scanner :=
  match distanceTo (fun t => (tagEnd? '#' true t).isSome) s.rest with
  | some count =>
    let size := (tagEnd? '#' true (s.rest.drop count)).getD 0
    ([], some ((s.skip (count + size)).enter .data))
  | none => if s.rest.isEmpty then ([], none) else s.fail "Missing end of comment tag"

def scanVerbatim (s : Scanner) : List Token × Option Scanner :=
  match distanceTo (fun t => (wordTag? endrawWord true t).isSome) s.rest with
  | some count =>
    let tag := s.rest.drop count
    let size := (wordTag? endrawWord true tag).getD 0
    (s.dataToken (dataBefore tag (s.rest.take count)),
      some ((s.skip (count + size)).enter .data))
  | none => if s.rest.isEmpty then ([], none) else s.fail "Missing end of raw directive"

def longOperators : List (List Char) :=
  [['/', '/'], ['*', '*'], ['=', '='], ['!', '='], ['>', '='], ['<', '=']]

def shortOperators : List Char :=
  ['+', '-', '/', '*', '%', '~', '[', ']', '(', ')', '{', '}', '>', '<', '=', '.', ':', '|', ',',
    ';']

def operatorLength (s : List Char) : Nat :=
  if longOperators.contains (s.take 2) then 2
  else match s with
    | c :: _ => if shortOperators.contains c then 1 else 0
    | [] => 0

def closing? : Char → Option Char
  | '{' => some '}'
  | '(' => some ')'
  | '[' => some ']'
  | _ => none

def isClosing (c : Char) : Bool := c == '}' || c == ')' || c == ']'

/-- One token of the given length. -/
def emit (s : Scanner) (size : Nat) (lexeme : Lexeme) : List Token × Option Scanner :=
  ([{ line := s.line, lexeme }], some (s.skip size))

/-- Keeps track of the brackets that an operator opens or closes. -/
def scanOperator (s : Scanner) (size : Nat) : List Token × Option Scanner :=
  let sign := s.rest.take size
  let token := Lexeme.operator (.ofList sign)
  match sign with
  | [c] =>
    match closing? c with
    | some close => ({ s with open_ := close :: s.open_ }).emit size token
    | none =>
      if isClosing c then
        match s.open_ with
        | [] => s.fail s!"unexpected '{c}'"
        | expected :: others =>
          if expected == c then ({ s with open_ := others }).emit size token
          else s.fail s!"unexpected '{c}', expected '{expected}'"
      else s.emit size token
  | _ => s.emit size token

def nameChar (c : Char) : Bool := Text.isWord c || Text.isIdentifierRest c

def scanName (s : Scanner) (name : List Char) : List Token × Option Scanner :=
  if Text.isIdentifier name then s.emit name.length (.name (.ofList name))
  else s.fail "Invalid character in identifier"

/-- Quoted text, with the marks. -/
def scanQuoted (s : Scanner) (size : Nat) : List Token × Option Scanner :=
  let body := Text.unifyNewlineChars ((s.rest.drop 1).take (size - 2))
  match Literal.unescape body.length body with
  | .ok chars => s.emit size (.text (.ofList chars))
  | .error fault => ([{ line := s.line, lexeme := .malformed fault }], none)

def unexpectedChar (s : Scanner) (c : Char) : List Token × Option Scanner :=
  s.fail s!"unexpected char {Text.quote (toString c)} at {s.position}"

def quotedSize? : List Char → Option Nat
  | '\'' :: rest => (Literal.quotedLength '\'' rest).map (· + 1)
  | '"' :: rest => (Literal.quotedLength '"' rest).map (· + 1)
  | _ => none

/-- A token inside a tag, where no end of the tag stands. -/
def scanInside (s : Scanner) (first : Char) : List Token × Option Scanner :=
  let blanks := blankLength s.rest
  let double := if s.previous == some '.' then 0 else Literal.doubleLength s.rest
  let (integer, base) := Literal.integerLength s.rest
  let name := s.rest.takeWhile nameChar
  let operator := operatorLength s.rest
  if blanks != 0 then ([], some (s.skip blanks))
  else if double != 0 then
    s.emit double (.double (Literal.doubleValue (s.rest.take double)))
  else if integer != 0 then
    s.emit integer (.integer (Literal.integerValue base (s.rest.take integer)))
  else if !name.isEmpty then s.scanName name
  else match quotedSize? s.rest with
    | some size => s.scanQuoted size
    | none => if operator != 0 then s.scanOperator operator else s.unexpectedChar first

def scanTag (s : Scanner) (statement : Bool) : List Token × Option Scanner :=
  let ending := if s.open_.isEmpty then
      if statement then tagEnd? '%' true s.rest else tagEnd? '}' false s.rest
    else none
  match ending, s.rest with
  | some size, _ =>
    let (tokens, next) := s.emit size (if statement then .blockEnd else .variableEnd)
    (tokens, next.map (·.enter .data))
  | none, [] => ([], none)
  | none, c :: _ => s.scanInside c

/-- The next tokens, and where to go on unless the template has ended. -/
def step (s : Scanner) : List Token × Option Scanner :=
  match s.mode with
  | .data => s.scanData
  | .comment => s.scanComment
  | .verbatim => s.scanVerbatim
  | .tag statement => s.scanTag statement

/-- Every step but the first in a mode takes at least one character. -/
def run : Nat → Scanner → List Token
  | 0, _ => []
  | fuel + 1, s =>
    match s.step with
    | (tokens, none) => tokens
    | (tokens, some next) => tokens ++ run fuel next

end Scanner

/-- Whether a single line end at the end of a template is kept. -/
def dropLastNewline (s : List Char) : List Char :=
  if s.getLast? == some '\n' then s.dropLast else s

/-- The tokens of a template, ended by one that stands for its end. -/
def tokenize (keepLastNewline : Bool) (source : String) : List Token :=
  let chars := Text.unifyNewlineChars source.toList
  let chars := if keepLastNewline then chars else dropLastNewline chars
  let tokens := (Scanner.start chars).run (2 * chars.length + 2)
  tokens ++ [{ line := (tokens.getLast?.map (·.line)).getD 1, lexeme := .finish }]

end DocumentServer.Template
