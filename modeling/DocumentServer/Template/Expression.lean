import DocumentServer.Template.Stream
import DocumentServer.Template.Tree

/-!
Reading expressions. Each level of precedence is a reader built from the reader below it; `whole`
reads a whole expression and is used between brackets.
-/
namespace DocumentServer.Template.Expression
open Parse

/-- An expression and the line on which it stands. -/
structure Located where
  line : Nat
  expr : Expr

/-- Words that are values. -/
def wordValue? (word : String) : Option Value :=
  if word == "true" || word == "True" then some (.bool true)
  else if word == "false" || word == "False" then some (.bool false)
  else if word == "none" || word == "None" then some .none
  else none

/-- The end of a tag, a closing parenthesis, or one of some words. -/
def atTupleEnd (words : List String) : Parse Bool := do
  match ← lexeme with
  | .variableEnd => return true
  | .blockEnd => return true
  | .operator sign => return sign == ")"
  | .name name => return words.contains name
  | _ => return false

/-- The state of reading items with commas between them. -/
structure Items (α : Type) where
  line : Nat
  items : List α
  hasComma : Bool
  isDone : Bool

def tupleStep {α : Type} (item : Parse α) (words : List String) (s : Items α) :
    Parse (Option (Items α)) := do
  if s.isDone then return none
  if !s.items.isEmpty then let _ ← expectOperator ","
  if ← atTupleEnd words then return some { s with isDone := true }
  let next ← item
  if ← isOperator "," then
    return some { line := ← line, items := s.items ++ [next], hasComma := true, isDone := false }
  else return some { s with items := s.items ++ [next], isDone := true }

/-- Items with commas between them, up to an end. -/
def tupleItems {α : Type} (item : Parse α) (words : List String) : Parse (Items α) := do
  extendAll (tupleStep item words)
    { line := ← line, items := [], hasComma := false, isDone := false }

/-- One expression, or several with commas, which are a tuple. Nothing at all is a tuple only
between parentheses. -/
def tuple (item : Parse Located) (words : List String) (inParentheses : Bool) : Parse Located := do
  let found ← tupleItems item words
  let whole : Located := { line := found.line, expr := .tuple (found.items.map (·.expr)) }
  match found.hasComma, found.items with
  | false, [single] => return single
  | false, [] =>
    if inParentheses then return whole
    else fail s!"Expected an expression, got {Text.quote (← lexeme).describe}"
  | _, _ => return whole

def listStep {α : Type} (closing : String) (item : Parse α) (items : List α) :
    Parse (Option (List α)) := do
  if ← isOperator closing then return none
  if !items.isEmpty then let _ ← expectOperator ","
  if ← isOperator closing then return none
  return some (items ++ [← item])

/-- Items up to a closing bracket; a comma may stand behind the last one. -/
def bracketed {α : Type} (closing : String) (item : Parse α) : Parse (List α) := do
  let items ← extendAll (listStep closing item) []
  let _ ← expectOperator closing
  return items

def dictEntry (whole : Parse Located) : Parse (Expr × Expr) := do
  let key ← whole
  let _ ← expectOperator ":"
  return (key.expr, (← whole).expr)

/-- Adjacent texts are one. -/
def textStep (text : String) : Parse (Option String) := do
  match ← lexeme with
  | .text more =>
    let _ ← advance
    return some (text ++ more)
  | _ => return none

def nameExpr (name : String) : Expr :=
  match wordValue? name with
  | some value => .constant value
  | none => .name name

/-- A tuple, a list or a mapping behind its opening bracket; a tuple of one item is the item. -/
def bracketExpr (whole : Parse Located) (line : Nat) (sign : String) : Parse Located := do
  if sign == "(" then
    let _ ← advance
    let inner ← tuple whole [] true
    let _ ← expectOperator ")"
    return inner
  else if sign == "[" then
    let _ ← advance
    return { line, expr := .list ((← bracketed "]" whole).map (·.expr)) }
  else if sign == "\x7b" then
    let _ ← advance
    return { line, expr := .dict (← bracketed "\x7d" (dictEntry whole)) }
  else fail s!"unexpected {Text.quote sign}"

def primary (whole : Parse Located) : Parse Located := do
  let token ← current
  match token.lexeme with
  | .name name =>
    let _ ← advance
    return { line := token.line, expr := nameExpr name }
  | .text text =>
    let _ ← advance
    return { line := token.line, expr := .constant (.text (← extendAll textStep text)) }
  | .integer n =>
    let _ ← advance
    return { line := token.line, expr := .constant (.int n) }
  | .double x =>
    let _ ← advance
    return { line := token.line, expr := .constant (.double x) }
  | .operator sign => bracketExpr whole token.line sign
  | other => fail s!"unexpected {Text.quote other.describe}"

/-! ## Calls and subscripts -/

/-- The arguments read so far; the flag tells that a comma has to come first. -/
structure CallState where
  arguments : Arguments
  needsComma : Bool
  isDone : Bool

def badCall {α : Type} : Parse α := fail "invalid syntax for function call expression"

def positionalArgument (whole : Parse Located) (a : Arguments) : Parse Arguments := do
  if a.more.isSome || a.moreNamed.isSome || !a.named.isEmpty then badCall
  return .mk (a.positional ++ [(← whole).expr]) [] none none

def namedArgument (whole : Parse Located) (name : String) (a : Arguments) : Parse Arguments := do
  if a.moreNamed.isSome then badCall
  let _ ← advance
  let _ ← advance
  return .mk a.positional (a.named ++ [(name, (← whole).expr)]) a.more none

def argument (whole : Parse Located) (a : Arguments) : Parse Arguments := do
  match ← lexeme with
  | .operator "*" =>
    if a.more.isSome || a.moreNamed.isSome then badCall
    let _ ← advance
    return .mk a.positional a.named (some (← whole).expr) none
  | .operator "**" =>
    if a.moreNamed.isSome then badCall
    let _ ← advance
    return .mk a.positional a.named a.more (some (← whole).expr)
  | .name name =>
    if (← look).isOperator "=" then namedArgument whole name a else positionalArgument whole a
  | _ => positionalArgument whole a

def callStep (whole : Parse Located) (s : CallState) : Parse (Option CallState) := do
  if s.isDone then return none
  if ← isOperator ")" then return none
  if s.needsComma then
    let _ ← expectOperator ","
    if ← isOperator ")" then return some { s with isDone := true }
  return some { arguments := ← argument whole s.arguments, needsComma := true, isDone := false }

def callArguments (whole : Parse Located) : Parse Arguments := do
  let _ ← expectOperator "("
  let s ← extendAll (callStep whole) { arguments := .empty, needsComma := false, isDone := false }
  let _ ← expectOperator ")"
  return s.arguments

def atSubscriptEnd : Parse Bool := do
  return (← isOperator "]") || (← isOperator ",")

/-- A key between brackets: an expression or a slice. -/
inductive Subscript where
  | key (expr : Expr)
  | slice (start stop step : Option Expr)

def optionalPart (whole : Parse Located) : Parse (Option Expr) := do
  if (← isOperator ":") || (← atSubscriptEnd) then return none
  return some (← whole).expr

def sliceRest (whole : Parse Located) (start : Option Expr) : Parse Subscript := do
  let stop ← optionalPart whole
  if ← skipOperator ":" then
    let step ← if ← atSubscriptEnd then pure none else some <$> (·.expr) <$> whole
    return .slice start stop step
  else return .slice start stop none

def subscript (whole : Parse Located) : Parse Subscript := do
  if ← skipOperator ":" then sliceRest whole none
  else
    let key ← whole
    if ← skipOperator ":" then sliceRest whole (some key.expr) else return .key key.expr

def subscriptStep (whole : Parse Located) (keys : List Subscript) :
    Parse (Option (List Subscript)) := do
  if ← isOperator "]" then return none
  if !keys.isEmpty then let _ ← expectOperator ","
  return some (keys ++ [← subscript whole])

def Subscript.expr : Subscript → Expr
  | .key expr => expr
  | .slice .. => .constant .none

def applySubscripts (owner : Expr) : List Subscript → Expr
  | [.key key] => .item owner key
  | [.slice start stop step] => .slice owner start stop step
  | keys => .item owner (.tuple (keys.map Subscript.expr))

def member (owner : Expr) : Parse Expr := do
  let token ← advance
  match token.lexeme with
  | .name name => return .attribute owner name
  | .integer n => return .item owner (.constant (.int n))
  | _ => fail "expected name or number"

def postfixStep (whole : Parse Located) (owner : Located) : Parse (Option Located) := do
  let token ← current
  match token.lexeme with
  | .operator "." =>
    let _ ← advance
    return some { line := token.line, expr := ← member owner.expr }
  | .operator "[" =>
    let _ ← advance
    let keys ← extendAll (subscriptStep whole) []
    let _ ← expectOperator "]"
    return some { line := token.line, expr := applySubscripts owner.expr keys }
  | .operator "(" =>
    return some { line := token.line, expr := .call owner.expr (← callArguments whole) }
  | _ => return none

/-- Attributes, subscripts and calls behind an expression. -/
def withPostfixes (whole : Parse Located) (owner : Located) : Parse Located :=
  extendAll (postfixStep whole) owner

/-! ## Filters and tests -/

def dottedStep (name : String) : Parse (Option String) := do
  if ← skipOperator "." then return some (name ++ "." ++ (← expectAnyName).2) else return none

/-- A name that may have dots in it. -/
def dottedName : Parse (Nat × String) := do
  let (line, name) ← expectAnyName
  return (line, ← extendAll dottedStep name)

def optionalArguments (whole : Parse Located) : Parse Arguments := do
  if ← isOperator "(" then callArguments whole else return .empty

/-- One filter, behind its sign. -/
def filterCall (whole : Parse Located) (subject : Expr) : Parse Located := do
  let (line, name) ← dottedName
  return { line, expr := .filter subject name (← optionalArguments whole) }

def filterStep (whole : Parse Located) (subject : Located) : Parse (Option Located) := do
  if ← skipOperator "|" then return some (← filterCall whole subject.expr) else return none

def startsTestArgument : Lexeme → Bool
  | .name word => word != "else" && word != "or" && word != "and"
  | .text _ => true
  | .integer _ => true
  | .double _ => true
  | .operator sign => sign == "[" || sign == "\x7b"
  | _ => false

/-- The arguments of a test: in parentheses, or a single one without. -/
def testArguments (whole : Parse Located) : Parse Arguments := do
  if ← isOperator "(" then callArguments whole
  else if startsTestArgument (← lexeme) then
    if ← isName "is" then fail "You cannot chain multiple tests with is"
    let single ← withPostfixes whole (← primary whole)
    return .mk [single.expr] [] none none
  else return .empty

def testCall (whole : Parse Located) (subject : Expr) : Parse Located := do
  let token ← advance
  let isNegated ← skipName "not"
  let (_, name) ← dottedName
  let test := Expr.test subject name (← testArguments whole)
  return { line := token.line, expr := if isNegated then .not test else test }

def filterOrTestStep (whole : Parse Located) (subject : Located) : Parse (Option Located) := do
  let token ← current
  match token.lexeme with
  | .operator "|" => filterStep whole subject
  | .name "is" => return some (← testCall whole subject.expr)
  | .operator "(" =>
    return some { line := token.line, expr := .call subject.expr (← callArguments whole) }
  | _ => return none

/-- Filters and tests behind an expression. -/
def withFilters (whole : Parse Located) (subject : Located) : Parse Located :=
  extendAll (filterOrTestStep whole) subject

/-! ## Levels of precedence -/

/-- Signs before an operand. What follows the operand belongs to it, then to the signs. -/
def signed (whole : Parse Located) : Nat → Parse Located
  | 0 => fail "unexpected end of template"
  | fuel + 1 => do
    let token ← current
    match token.lexeme with
    | .operator "-" =>
      let _ ← advance
      let operand ← signed whole fuel
      withPostfixes whole { line := token.line, expr := .unary .negative operand.expr }
    | .operator "+" =>
      let _ ← advance
      let operand ← signed whole fuel
      withPostfixes whole { line := token.line, expr := .unary .positive operand.expr }
    | _ => withPostfixes whole (← primary whole)

def unary (whole : Parse Located) : Parse Located := do
  withFilters whole (← signed whole ((← get).bound + 1))

/-- The operator of a token, in a table. -/
def operator? {α : Type} (table : List (String × α)) : Lexeme → Option α
  | .operator sign => table.lookup sign
  | _ => none

/-- An operand, and the line on which the next one may begin. -/
structure Chain where
  line : Nat
  left : Located

def chainStep (table : List (String × BinaryOperator)) (operand : Parse Located) (c : Chain) :
    Parse (Option Chain) := do
  match operator? table (← lexeme) with
  | none => return none
  | some operator =>
    let _ ← advance
    let right ← operand
    let joined := Expr.binary operator c.left.expr right.expr
    return some { line := ← line, left := { line := c.line, expr := joined } }

/-- Operands with operators between them, grouped from the left. -/
def leftChain (table : List (String × BinaryOperator)) (operand : Parse Located) :
    Parse Located := do
  let start ← line
  let left ← operand
  return (← extendAll (chainStep table operand) { line := start, left }).left

def power (whole : Parse Located) : Parse Located := leftChain [("**", .power)] (unary whole)

def product (whole : Parse Located) : Parse Located :=
  leftChain [("*", .multiply), ("/", .divide), ("//", .floorDivide), ("%", .modulo)] (power whole)

def concatStep (operand : Parse Located) (items : List Expr) : Parse (Option (List Expr)) := do
  if ← skipOperator "~" then return some (items ++ [(← operand).expr]) else return none

def concat (whole : Parse Located) : Parse Located := do
  let start ← line
  let first ← product whole
  match ← extendAll (concatStep (product whole)) [first.expr] with
  | [_] => return first
  | items => return { line := start, expr := .concat items }

def sum (whole : Parse Located) : Parse Located :=
  leftChain [("+", .add), ("-", .subtract)] (concat whole)

def comparisons : List (String × Comparison) :=
  [("==", .equal), ("!=", .notEqual), ("<", .less), ("<=", .lessOrEqual), (">", .greater),
    (">=", .greaterOrEqual)]

/-- The comparison that stands here, passed over. -/
def comparison? : Parse (Option Comparison) := do
  let found ← lexeme
  if let some c := operator? comparisons found then
    let _ ← advance
    return some c
  if found.isName "in" then
    let _ ← advance
    return some .isIn
  if found.isName "not" && (← look).isName "in" then
    let _ ← advance
    let _ ← advance
    return some .isNotIn
  return none

/-- The line of a chain of comparisons is that of its end. -/
structure Comparisons where
  line : Nat
  rest : List (Comparison × Expr)

def compareStep (whole : Parse Located) (c : Comparisons) : Parse (Option Comparisons) := do
  match ← comparison? with
  | none => return none
  | some comparison =>
    let right ← sum whole
    return some { line := ← line, rest := c.rest ++ [(comparison, right.expr)] }

def compare (whole : Parse Located) : Parse Located := do
  let start ← line
  let first ← sum whole
  let found ← extendAll (compareStep whole) { line := start, rest := [] }
  if found.rest.isEmpty then return first
  return { line := found.line, expr := .compare first.expr found.rest }

def negation (whole : Parse Located) : Nat → Parse Located
  | 0 => fail "unexpected end of template"
  | fuel + 1 => do
    let start ← line
    if ← skipName "not" then
      return { line := start, expr := .not (← negation whole fuel).expr }
    else compare whole

def conjunct (whole : Parse Located) : Parse Located := do
  negation whole ((← get).bound + 1)

def wordChainStep (word : String) (join : Expr → Expr → Expr) (operand : Parse Located)
    (c : Chain) : Parse (Option Chain) := do
  if ← skipName word then
    let right ← operand
    return some { line := ← line, left := { line := c.line, expr := join c.left.expr right.expr } }
  else return none

def wordChain (word : String) (join : Expr → Expr → Expr) (operand : Parse Located) :
    Parse Located := do
  let start ← line
  let left ← operand
  return (← extendAll (wordChainStep word join operand) { line := start, left }).left

def conjunction (whole : Parse Located) : Parse Located :=
  wordChain "and" .both (conjunct whole)

/-- An expression without a condition. -/
def disjunction (whole : Parse Located) : Parse Located :=
  wordChain "or" .either (conjunction whole)

def conditionStep (whole : Parse Located) (c : Chain) : Parse (Option Chain) := do
  if ← skipName "if" then
    let test ← disjunction whole
    let otherwise ← if ← skipName "else" then some <$> (·.expr) <$> whole else pure none
    let joined := Expr.condition c.line test.expr c.left.expr otherwise
    return some { line := ← line, left := { line := c.line, expr := joined } }
  else return none

/-- An expression that may be chosen by conditions behind it. -/
def conditional (whole : Parse Located) : Parse Located := do
  let start ← line
  let left ← disjunction whole
  return (← extendAll (conditionStep whole) { line := start, left }).left

/-- A whole expression; brackets nest no deeper than there are tokens. -/
def expression : Nat → Parse Located
  | 0 => fail "unexpected end of template"
  | fuel + 1 => fun s => conditional (expression fuel) s

def whole : Parse Located := do expression ((← get).bound + 1)

/-- An expression without a condition at its outer level. -/
def plain : Parse Located := disjunction whole

end DocumentServer.Template.Expression
