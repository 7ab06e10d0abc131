import DocumentServer.Template.Expression
import DocumentServer.Text.Blank

/-!
Reading statements. A statement with a body reads the body up to one of the words that end it;
those words and the open statements are kept for messages about tags in the wrong place.
-/
namespace DocumentServer.Template.Statement
open Parse Expression

/-! ## Targets of assignments -/

/-- What stands where a target is expected. -/
inductive Candidate where
  | attribute (owner name : String)
  | expr (expr : Expr)

/-- The name of the kind of an expression, as messages give it. -/
def kindName : Expr → String
  | .constant _ => "const"
  | .name _ => "name"
  | .tuple _ => "tuple"
  | .list _ => "list"
  | .dict _ => "dict"
  | .condition .. => "condexpr"
  | .both .. => "and"
  | .either .. => "or"
  | .not _ => "not"
  | .unary .positive _ => "pos"
  | .unary .negative _ => "neg"
  | .binary .add .. => "add"
  | .binary .subtract .. => "sub"
  | .binary .multiply .. => "mul"
  | .binary .divide .. => "div"
  | .binary .floorDivide .. => "floordiv"
  | .binary .modulo .. => "mod"
  | .binary .power .. => "pow"
  | .compare .. => "compare"
  | .concat _ => "concat"
  | .attribute .. => "getattr"
  | .item .. => "getitem"
  | .slice .. => "getitem"
  | .call .. => "call"
  | .filter .. => "filter"
  | .test .. => "test"
  | .captured => "name"

mutual

/-- The target that an expression denotes. -/
def targetOf? : Expr → Option Target
  | .name name => some (.name name)
  | .tuple items => (targetsOf? items).map .tuple
  | _ => none

def targetsOf? : List Expr → Option (List Target)
  | [] => some []
  | item :: rest => do return (← targetOf? item) :: (← targetsOf? rest)

end

def Candidate.target? : Candidate → Option Target
  | .attribute owner name => some (.attribute owner name)
  | .expr single => targetOf? single

def cannotAssign {α : Type} (kind : String) : Parse α :=
  fail s!"can't assign to {Text.quote kind}"

/-- A primary expression, or an attribute of a bag if those are allowed. -/
def candidate (attributes : Bool) : Parse Candidate := do
  let found ← primary whole
  match found.expr with
  | .name owner =>
    if attributes then
      if ← skipOperator "." then return .attribute owner (← expectAnyName).2
    return .expr found.expr
  | expr => return .expr expr

/-- One target, or several with commas between them. -/
def assignTarget (words : List String) (attributes : Bool) : Parse Target := do
  let found ← tupleItems (candidate attributes) words
  match found.hasComma, found.items with
  | false, [.expr expr] =>
    match targetOf? expr with
    | some target => return target
    | none => cannotAssign (kindName expr)
  | false, [.attribute owner name] => return .attribute owner name
  | false, [] => fail s!"Expected an expression, got {Text.quote (← lexeme).describe}"
  | _, items =>
    match items.mapM Candidate.target? with
    | some targets => return .tuple targets
    | none => cannotAssign "tuple"

/-- A single name that may be assigned to. -/
def assignName : Parse String := do
  let (_, name) ← expectAnyName
  if (wordValue? name).isSome then cannotAssign "name" else return name

/-! ## Bodies -/

/-- A reader of the statements of a body, up to a tag that begins with one of some words. -/
abbrev Body := Option (List String) → Parse (List Stmt)

def quotedChoice (words : List String) : String :=
  String.intercalate " or " (words.map Text.quote)

/-- Reports a tag in the wrong place, or the end of the template inside of a body. -/
def misplaced {α : Type} (tag : Option String) (endings : List (List String)) : Parse α := do
  let first := match tag with
    | none => "Unexpected end of template."
    | some tag => s!"Encountered unknown tag {Text.quote tag}."
  let looking := match endings with
    | [] => []
    | words :: _ =>
      if words.isEmpty then []
      else if tag.any fun tag => endings.any (·.contains tag) then
        ["You probably made a nesting mistake. Jinja is expecting this tag, but currently looking "
          ++ s!"for {quotedChoice words}."]
      else [s!"Jinja was looking for the following tags: {quotedChoice words}."]
  let inner := match (← get).tags with
    | [] => []
    | tag :: _ => [s!"The innermost block that needs to be closed is {Text.quote tag}."]
  fail (String.intercalate " " (first :: looking ++ inner))

/-- The body behind the opening tag of a statement. The word that ends it is the current token. -/
def body (statements : Body) (words : List String) : Parse (List Stmt) := do
  let _ ← skipOperator ":"
  expectBlockEnd
  let found ← statements (some words)
  match ← lexeme with
  | .finish => misplaced none (words :: (← get).endings)
  | _ => return found

/-- A body and the word that ends it, passed over. -/
def closedBody (statements : Body) (word : String) : Parse (List Stmt) := do
  let found ← body statements [word]
  let _ ← advance
  return found

/-! ## Statements -/

def set (statements : Body) : Parse Stmt := do
  let line := (← advance).line
  let target ← assignTarget [] true
  if ← skipOperator "=" then
    return .assign line target (← tuple whole [] false).expr
  let filtered ← extendAll (filterStep whole) { line, expr := .captured }
  let filter := match filtered.expr with
    | .captured => none
    | expr => some expr
  return .capture line target filter (← closedBody statements "endset")

def loop (statements : Body) : Parse Stmt := do
  let line := (← advance).line
  let target ← assignTarget ["in"] false
  let _ ← expectName "in"
  let items ← tuple plain ["recursive"] false
  let test ← if ← skipName "if" then some <$> whole else pure none
  let isRecursive ← skipName "recursive"
  let inner ← body statements ["endfor", "else"]
  let closing ← advance
  let otherwise ← if closing.lexeme.isName "endfor" then pure []
    else closedBody statements "endfor"
  return .loop line target items.expr (test.map fun t => (t.line, t.expr)) isRecursive inner
    otherwise

/-- The arms of a choice read so far, and what ends them. -/
structure Arms where
  line : Nat
  arms : List (Nat × Expr × List Stmt)
  otherwise : List Stmt
  isDone : Bool

def armStep (statements : Body) (a : Arms) : Parse (Option Arms) := do
  if a.isDone then return none
  let test ← tuple plain [] false
  let inner ← body statements ["elif", "else", "endif"]
  let arms := a.arms ++ [(a.line, test.expr, inner)]
  let closing ← advance
  if closing.lexeme.isName "elif" then return some { a with line := ← line, arms }
  else if closing.lexeme.isName "else" then
    return some { a with arms, otherwise := ← closedBody statements "endif", isDone := true }
  else return some { a with arms, isDone := true }

def branch (statements : Body) : Parse Stmt := do
  let start := (← advance).line
  let found ← extendAll (armStep statements)
    { line := start, arms := [], otherwise := [], isDone := false }
  return .branch found.arms found.otherwise

def bindingStep (bindings : List (Target × Expr)) : Parse (Option (List (Target × Expr))) := do
  if (← lexeme).isBlockEnd then return none
  if !bindings.isEmpty then let _ ← expectOperator ","
  let target ← assignTarget [] false
  let _ ← expectOperator "="
  return some (bindings ++ [(target, (← whole).expr)])

def bind (statements : Body) : Parse Stmt := do
  let _ ← advance
  let bindings ← extendAll bindingStep []
  return .bind bindings (← closedBody statements "endwith")

def escaping (statements : Body) : Parse Stmt := do
  let _ ← advance
  let enabled ← whole
  return .escaping enabled.expr (← closedBody statements "endautoescape")

/-- Whether a body prints white space only. -/
def isBlank : Stmt → Bool
  | .output pieces => pieces.all fun
    | .data text => text.toList.all Text.isBlank
    | .print .. => false
  | _ => false

def hyphenMessage : String :=
  "Block names in Jinja have to be valid Python identifiers and may not contain hyphens, "
    ++ "use an underscore instead."

def block (statements : Body) : Parse Stmt := do
  let line := (← advance).line
  let (_, name) ← expectAnyName
  let isScoped ← skipName "scoped"
  let isRequired ← skipName "required"
  if ← isOperator "-" then fail hyphenMessage
  let inner ← closedBody statements "endblock"
  if isRequired && !inner.all isBlank then
    fail "Required blocks can only contain comments or whitespace"
  let _ ← skipName name
  return .block line name isScoped isRequired inner

def extend : Parse Stmt := do
  let line := (← advance).line
  return .extend line (← whole).expr

/-- Whether a template sees the names of the one that asks for it. -/
def withContext (default : Bool) : Parse Bool := do
  let isWith ← isName "with"
  if isWith || (← isName "without") then
    if (← look).isName "context" then
      let _ ← advance
      let _ ← advance
      return isWith
  return default

def insert : Parse Stmt := do
  let line := (← advance).line
  let template ← whole
  let ignoreMissing ← if ← isName "ignore" then pure ((← look).isName "missing") else pure false
  if ignoreMissing then
    let _ ← advance
    let _ ← advance
  return .insert line template.expr ignoreMissing (← withContext true)

def importModule : Parse Stmt := do
  let line := (← advance).line
  let template ← whole
  let _ ← expectName "as"
  let name ← assignName
  return .importModule line template.expr name (← withContext false)

/-- Names to import, each with the name it gets. -/
structure Imports where
  names : List (String × String)
  context : Option Bool
  isDone : Bool

/-- A clause on the context, if it stands here. -/
def contextClause : Parse (Option Bool) := do
  let isWith ← isName "with"
  if isWith || (← isName "without") then
    if (← look).isName "context" then
      let _ ← advance
      let _ ← advance
      return some isWith
  return none

def privateImport {α : Type} : Parse α :=
  throw (assertionFault "names starting with an underline can not be imported")

def importStep (s : Imports) : Parse (Option Imports) := do
  if s.isDone then return none
  if !s.names.isEmpty then let _ ← expectOperator ","
  match ← lexeme with
  | .name _ =>
    if let some context ← contextClause then
      return some { s with context := some context, isDone := true }
    let name ← assignName
    if name.startsWith "_" then privateImport
    let newName ← if ← skipName "as" then assignName else pure name
    let names := s.names ++ [(name, newName)]
    if let some context ← contextClause then
      return some { names, context := some context, isDone := true }
    return some { s with names, isDone := !(← isOperator ",") }
  | _ => unexpected "name"

def importNames : Parse Stmt := do
  let line := (← advance).line
  let template ← whole
  let _ ← expectName "import"
  let found ← extendAll importStep { names := [], context := none, isDone := false }
  return .importNames line template.expr found.names (found.context.getD false)

def parameterStep (parameters : List Parameter) : Parse (Option (List Parameter)) := do
  if ← isOperator ")" then return none
  if !parameters.isEmpty then let _ ← expectOperator ","
  let name ← assignName
  if ← skipOperator "=" then
    return some (parameters ++ [{ name, default := some (← whole).expr }])
  if parameters.any (·.default.isSome) then
    fail "non-default argument follows default argument"
  return some (parameters ++ [{ name, default := none }])

def parameterList : Parse (List Parameter) := do
  let _ ← expectOperator "("
  let parameters ← extendAll parameterStep []
  let _ ← expectOperator ")"
  return parameters

def define (statements : Body) : Parse Stmt := do
  let line := (← advance).line
  let name ← assignName
  let parameters ← parameterList
  return .define line name parameters (← closedBody statements "endmacro")

def callWith (statements : Body) : Parse Stmt := do
  let line := (← advance).line
  let parameters ← if ← isOperator "(" then parameterList else pure []
  let call ← whole
  match call.expr with
  | .call .. => return .callWith line parameters call.expr (← closedBody statements "endcall")
  | _ => fail "expected call"

def filtered (statements : Body) : Parse Stmt := do
  let line := (← advance).line
  let first ← filterCall whole .captured
  let filter ← extendAll (filterStep whole) first
  return .filtered line filter.expr (← closedBody statements "endfilter")

def printStep (pieces : List Piece) : Parse (Option (List Piece)) := do
  if (← lexeme).isBlockEnd then return none
  if !pieces.isEmpty then let _ ← expectOperator ","
  let value ← whole
  return some (pieces ++ [.print value.line value.expr])

def print : Parse Stmt := do
  let _ ← advance
  return .output (← extendAll printStep [])

/-- The reader of the statement that a word begins. -/
def reader? (statements : Body) (word : String) : Option (Parse Stmt) :=
  [("for", loop statements), ("if", branch statements), ("block", block statements),
    ("extends", extend), ("print", print), ("macro", define statements), ("include", insert),
    ("from", importNames), ("import", importModule), ("set", set statements),
    ("with", bind statements), ("autoescape", escaping statements), ("call", callWith statements),
    ("filter", filtered statements)].lookup word

/-- A statement; the current token is its first word. -/
def statement (statements : Body) : Parse Stmt := do
  match ← lexeme with
  | .name word =>
    match reader? statements word with
    | none => misplaced (some word) (← get).endings
    | some reader =>
      modify fun s => { s with tags := word :: s.tags }
      let found ← reader
      modify fun s => { s with tags := s.tags.drop 1 }
      return found
  | _ => fail "tag name expected"

/-- The statements read so far, and the output that is not yet one of them. -/
structure Found where
  statements : List Stmt
  pieces : List Piece
  isDone : Bool

/-- Makes the output a statement. -/
def Found.flush (f : Found) : Found :=
  if f.pieces.isEmpty then f
  else { f with statements := f.statements ++ [.output f.pieces], pieces := [] }

def endsHere (words : Option (List String)) : Parse Bool := do
  match words, ← lexeme with
  | some words, .name word => return words.contains word
  | _, _ => return false

def statementStep (statements : Body) (words : Option (List String)) (f : Found) :
    Parse (Option Found) := do
  if f.isDone then return none
  match ← lexeme with
  | .finish => return none
  | .data text =>
    let _ ← advance
    return some { f with pieces := f.pieces ++ [.data text] }
  | .variableBegin =>
    let _ ← advance
    let value ← tuple whole [] false
    expectVariableEnd
    return some { f with pieces := f.pieces ++ [.print value.line value.expr] }
  | _ =>
    let f := f.flush
    let _ ← advance
    if ← endsHere words then return some { f with isDone := true }
    let next ← statement statements
    expectBlockEnd
    return some { f with statements := f.statements ++ [next] }

/-- Statements up to the end of the body; bodies nest no deeper than there are tokens. -/
def statements : Nat → Body
  | 0, _ => fail "unexpected end of template"
  | fuel + 1, words => do
    modify fun s => { s with endings := words.toList ++ s.endings }
    let found ← extendAll (statementStep (statements fuel) words)
      { statements := [], pieces := [], isDone := false }
    modify fun s => { s with endings := s.endings.drop words.toList.length }
    return found.flush.statements

end Statement

/-- The statements of a template. -/
def read (keepLastNewline : Bool) (source : String) : Except Fault (List Stmt) := do
  let tokens := tokenize keepLastNewline source
  let all : Parse (List Stmt) := do
    Parse.check tokens
    Statement.statements (tokens.length + 1) none
  let (found, _) ← all.run { tokens, bound := tokens.length, tags := [], endings := [] }
  return found

end DocumentServer.Template
