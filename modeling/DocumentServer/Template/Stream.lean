import DocumentServer.Template.Lexer

/-!
Reading a list of tokens. The first token is the current one. What is no token is reported when it
becomes the current one.
-/
namespace DocumentServer.Template

structure Stream where
  tokens : List Token
  /-- No fewer than there are tokens. -/
  bound : Nat
  /-- The statements that are open, the innermost first. -/
  tags : List String
  /-- The words that may end each open body, the innermost first. -/
  endings : List (List String)

abbrev Parse := StateT Stream (Except Fault)

namespace Parse

def fail {α : Type} (message : String) : Parse α := throw (syntaxFault message)

def current : Parse Token := do
  match (← get).tokens with
  | token :: _ => return token
  | [] => return { line := 1, lexeme := .finish }

def lexeme : Parse Lexeme := do return (← current).lexeme

def line : Parse Nat := do return (← current).line

/-- Reports what is no token. -/
def check : List Token → Parse Unit
  | { lexeme := .malformed fault, .. } :: _ => throw fault
  | _ => pure ()

/-- Passes over the current token and gives it back. The end is never passed over. -/
def advance : Parse Token := do
  let token ← current
  match (← get).tokens with
  | _ :: next :: rest =>
    check (next :: rest)
    modify ({ · with tokens := next :: rest })
  | _ => pure ()
  return token

/-- The token after the current one. -/
def look : Parse Lexeme := do
  match (← get).tokens with
  | _ :: next :: rest =>
    check (next :: rest)
    return next.lexeme
  | _ => return .finish

def isName (word : String) : Parse Bool := do return (← lexeme).isName word

def isOperator (sign : String) : Parse Bool := do return (← lexeme).isOperator sign

/-- Passes over the current token if it is the given word. -/
def skipName (word : String) : Parse Bool := do
  if ← isName word then
    let _ ← advance
    return true
  else return false

def skipOperator (sign : String) : Parse Bool := do
  if ← isOperator sign then
    let _ ← advance
    return true
  else return false

/-- Reports that another token was expected. -/
def unexpected {α : Type} (expected : String) : Parse α := do
  match ← lexeme with
  | .finish => fail s!"unexpected end of template, expected {Text.quote expected}."
  | found => fail s!"expected token {Text.quote expected}, got {Text.quote found.describe}"

def expectName (word : String) : Parse Token := do
  if ← isName word then advance else unexpected word

def expectOperator (sign : String) : Parse Token := do
  if ← isOperator sign then advance else unexpected sign

def expectBlockEnd : Parse Unit := do
  if (← lexeme).isBlockEnd then
    let _ ← advance
  else unexpected Lexeme.blockEnd.describe

def expectVariableEnd : Parse Unit := do
  match ← lexeme with
  | .variableEnd =>
    let _ ← advance
  | _ => unexpected Lexeme.variableEnd.describe

/-- Any name, and the line on which it stands. -/
def expectAnyName : Parse (Nat × String) := do
  let token ← current
  match token.lexeme with
  | .name name =>
    let _ ← advance
    return (token.line, name)
  | _ => unexpected "name"

/-- Extends a value by steps as long as there is one. -/
def extendFrom {α : Type} (step : α → Parse (Option α)) : Nat → α → Parse α
  | 0, value => pure value
  | fuel + 1, value => do
    match ← step value with
    | some next => extendFrom step fuel next
    | none => return value

/-- Every step takes a token, so there are at most as many steps as tokens. -/
def extendAll {α : Type} (step : α → Parse (Option α)) (value : α) : Parse α := do
  extendFrom step ((← get).bound + 1) value

end Parse
end DocumentServer.Template
