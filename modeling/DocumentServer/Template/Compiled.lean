import DocumentServer.Template.Constant
import DocumentServer.Template.Names
import DocumentServer.Template.Statement

/-!
Templates made ready to run: constant parts are replaced by their values, output that can never
appear is left out, and what no run could do right is refused.
-/
namespace DocumentServer.Template

/-- The body of a block, apart from the place where the block stands. -/
structure BlockBody where
  line : Nat
  body : List Stmt

structure Compiled where
  /-- A template that comes from no file has no name. -/
  name : Option String
  statements : List Stmt
  /-- The blocks by name, wherever in the template they stand. -/
  blocks : Association String BlockBody
  /-- Whether the template may be an extension of another one. -/
  mayExtend : Bool

namespace Compiled

/-- Where a statement stands. -/
structure Place where
  /-- Not inside of a scope of its own. -/
  isTop : Bool
  /-- Not inside of any other statement. -/
  isRoot : Bool
  /-- Directly inside of a choice, where a name without a meaning is not reported at once. -/
  isTentative : Bool
  /-- Output counts only where the template extends no other. -/
  checksOutput : Bool
  /-- Whether output is escaped, where that is known. -/
  escapes : Option Bool

def Place.inner (p : Place) : Place :=
  { p with isTop := false, isRoot := false, isTentative := false }

def Place.arm (p : Place) : Place := { p with isRoot := false, isTentative := true }

/-- What the statements so far say on the parent of the template. -/
structure Progress where
  hasParent : Bool
  extensions : Nat

/-! ## Names of filters and tests -/

def unknownFilter (name : String) : Fault := assertionFault s!"No filter named {Text.quote name}."

def unknownTest (name : String) : Fault := assertionFault s!"No test named {Text.quote name}."

mutual

def checkExpr (tentative : Bool) : Expr → Except Fault Unit
  | .constant _ => .ok ()
  | .name _ => .ok ()
  | .tuple items => checkAll tentative items
  | .list items => checkAll tentative items
  | .dict entries => checkEntries tentative entries
  | .condition _ test chosen otherwise => do
    checkExpr true chosen
    checkExpr true test
    checkOption true otherwise
  | .both left right => do
    checkExpr tentative left
    checkExpr tentative right
  | .either left right => do
    checkExpr tentative left
    checkExpr tentative right
  | .not operand => checkExpr tentative operand
  | .unary _ operand => checkExpr tentative operand
  | .binary _ left right => do
    checkExpr tentative left
    checkExpr tentative right
  | .compare first rest => do
    checkExpr tentative first
    checkChain tentative rest
  | .concat items => checkAll tentative items
  | .attribute owner _ => checkExpr tentative owner
  | .item owner key => do
    checkExpr tentative owner
    checkExpr tentative key
  | .slice owner start stop step => do
    checkExpr tentative owner
    checkOption tentative start
    checkOption tentative stop
    checkOption tentative step
  | .call called arguments => do
    checkExpr tentative called
    checkArguments tentative arguments
  | .filter subject name arguments => do
    if (filters.lookup name).isNone && !tentative then throw (unknownFilter name)
    checkExpr tentative subject
    checkArguments tentative arguments
  | .test subject name arguments => do
    if (tests.lookup name).isNone && !tentative then throw (unknownTest name)
    checkExpr tentative subject
    checkArguments tentative arguments
  | .captured => .ok ()

def checkAll (tentative : Bool) : List Expr → Except Fault Unit
  | [] => .ok ()
  | item :: rest => do
    checkExpr tentative item
    checkAll tentative rest

def checkEntries (tentative : Bool) : List (Expr × Expr) → Except Fault Unit
  | [] => .ok ()
  | (key, value) :: rest => do
    checkExpr tentative key
    checkExpr tentative value
    checkEntries tentative rest

def checkNamed (tentative : Bool) : List (String × Expr) → Except Fault Unit
  | [] => .ok ()
  | (_, value) :: rest => do
    checkExpr tentative value
    checkNamed tentative rest

def checkChain (tentative : Bool) : List (Comparison × Expr) → Except Fault Unit
  | [] => .ok ()
  | (_, operand) :: rest => do
    checkExpr tentative operand
    checkChain tentative rest

def checkOption (tentative : Bool) : Option Expr → Except Fault Unit
  | none => .ok ()
  | some x => checkExpr tentative x

def checkArguments (tentative : Bool) : Arguments → Except Fault Unit
  | .mk positional named more moreNamed => do
    checkAll tentative positional
    checkNamed tentative named
    checkOption tentative more
    checkOption tentative moreNamed

end

/-! ## Statements -/

/-- An expression made ready for its place. -/
def prepareExpr (e : Environment) (p : Place) (x : Expr) : Except Fault Expr := do
  let folded := match p.escapes with
    | some escapes => fold e escapes x
    | none => x
  checkExpr p.isTentative folded
  return folded

def outputText (escapes : Bool) (v : Value) : String :=
  if escapes then Markup.escape v else v.render

def preparePiece (e : Environment) (p : Place) : Piece → Except Fault Piece
  | .data text => .ok (.data text)
  | .print line x =>
    match p.escapes with
    | none => (prepareExpr e p x).map (.print line)
    | some escapes => match constant e escapes x with
      | .ok v => .ok (.data (outputText escapes v))
      | .error (.fault f) => .error f
      | .error .notConstant => (prepareExpr e p x).map (.print line)

mutual

/-- Whether a statement assigns to a name somewhere. -/
def assignsTo (name : String) : Stmt → Bool
  | .output _ => false
  | .branch arms otherwise => assignsInArms name arms || assignsIn name otherwise
  | .loop _ target _ _ _ body otherwise =>
    target.names.contains name || assignsIn name body || assignsIn name otherwise
  | .assign _ target _ => target.names.contains name
  | .capture _ target _ body => target.names.contains name || assignsIn name body
  | .block _ _ _ _ body => assignsIn name body
  | .extend .. => false
  | .insert .. => false
  | .importModule .. => false
  | .importNames .. => false
  | .define _ _ _ body => assignsIn name body
  | .callWith _ _ _ body => assignsIn name body
  | .filtered _ _ body => assignsIn name body
  | .bind _ body => assignsIn name body
  | .escaping _ body => assignsIn name body

def assignsIn (name : String) : List Stmt → Bool
  | [] => false
  | s :: rest => assignsTo name s || assignsIn name rest

def assignsInArms (name : String) : List (Nat × Expr × List Stmt) → Bool
  | [] => false
  | (_, _, body) :: rest => assignsIn name body || assignsInArms name rest

end

def loopTargetFault : Fault :=
  assertionFault "Can't assign to special loop variable in for-loop target"

def nestedExtendFault : Fault := assertionFault "cannot use extend from a non top-level scope"

/-- Statements made ready, and what they say on the parent. -/
structure Prepared where
  statements : List Stmt
  progress : Progress
  /-- The rest of the body can never run. -/
  isEnd : Bool

def prepareParameter (e : Environment) (p : Place) (q : Parameter) : Except Fault Parameter :=
  match q.default with
  | none => .ok q
  | some x => (prepareExpr e p x).map fun x => { q with default := some x }

def prepareBinding (e : Environment) (p : Place) (b : Target × Expr) :
    Except Fault (Target × Expr) :=
  (prepareExpr e p b.2).map fun x => (b.1, x)

def callerMessage : String :=
  "When defining macros or call blocks the special \"caller\" argument must be omitted or be "
    ++ "given a default."

def checkCaller (parameters : List Parameter) (body : List Stmt) : Except Fault Unit :=
  if parameters.any (fun q => q.name == "caller" && q.default.isNone)
      && mentionsIn "caller" body then
    .error (assertionFault callerMessage)
  else .ok ()

/-- The flag of an escaping section, if it is constant. -/
def sectionEscapes (e : Environment) (p : Place) (enabled : Expr) : Option Bool :=
  match p.escapes with
  | none => none
  | some escapes => match constant e escapes enabled with
    | .ok v => some v.isTrue
    | .error _ => none

mutual

def prepare (e : Environment) (p : Place) (g : Progress) : Stmt → Except Fault Prepared
  | .output pieces => do
    if p.checksOutput && g.hasParent then return ⟨[], g, false⟩
    return ⟨[.output (← pieces.mapM (preparePiece e p))], g, false⟩
  | .branch arms otherwise => do
    let (arms, g) ← prepareArms e p.arm g arms
    let (otherwise, g) ← prepareAll e p.arm g otherwise
    return ⟨[.branch arms otherwise], g, false⟩
  | .loop line target items test isRecursive body otherwise => do
    let test ← test.mapM fun (at_, x) => do return (at_, ← prepareExpr e p.inner x)
    if target.names.contains "loop" || assignsIn "loop" body || assignsIn "loop" otherwise then
      throw loopTargetFault
    let items ← prepareExpr e p items
    let (body, g) ← prepareAll e p.inner g body
    let (otherwise, g) ← prepareAll e p.inner g otherwise
    return ⟨[.loop line target items test isRecursive body otherwise], g, false⟩
  | .assign line target value => do
    return ⟨[.assign line target (← prepareExpr e p value)], g, false⟩
  | .capture line target filter body => do
    let inner := { p.inner with checksOutput := false }
    let (body, g) ← prepareAll e inner g body
    let filter ← filter.mapM (prepareExpr e inner)
    return ⟨[.capture line target filter body], g, false⟩
  | .block line name isScoped isRequired body =>
    if p.isTop && g.hasParent then .ok ⟨[], g, false⟩
    else .ok ⟨[.block line name isScoped isRequired body], g, false⟩
  | .extend line template => do
    if !p.isTop then throw nestedExtendFault
    if g.hasParent then return ⟨[.extend line template], g, true⟩
    let template ← prepareExpr e p template
    let g : Progress := { hasParent := p.isRoot, extensions := g.extensions + 1 }
    return ⟨[.extend line template], g, false⟩
  | .insert line template ignoreMissing withContext => do
    return ⟨[.insert line (← prepareExpr e p template) ignoreMissing withContext], g, false⟩
  | .importModule line template name withContext => do
    return ⟨[.importModule line (← prepareExpr e p template) name withContext], g, false⟩
  | .importNames line template names withContext => do
    return ⟨[.importNames line (← prepareExpr e p template) names withContext], g, false⟩
  | .define line name parameters body => do
    checkCaller parameters body
    let inner := { p.inner with checksOutput := false }
    let parameters ← parameters.mapM (prepareParameter e inner)
    let (body, g) ← prepareAll e inner g body
    return ⟨[.define line name parameters body], g, false⟩
  | .callWith line parameters call body => do
    checkCaller parameters body
    let inner := { p.inner with checksOutput := false }
    let parameters ← parameters.mapM (prepareParameter e inner)
    let (body, g) ← prepareAll e inner g body
    let call ← prepareExpr e p call
    return ⟨[.callWith line parameters call body], g, false⟩
  | .filtered line filter body => do
    let (body, g) ← prepareAll e p.inner g body
    let filter ← prepareExpr e p.inner filter
    return ⟨[.filtered line filter body], g, false⟩
  | .bind bindings body => do
    let bindings ← bindings.mapM (prepareBinding e p)
    let (body, g) ← prepareAll e p.inner g body
    return ⟨[.bind bindings body], g, false⟩
  | .escaping enabled body => do
    let inner := p.inner
    let enabled' ← prepareExpr e inner enabled
    let (body, g) ← prepareAll e { inner with escapes := sectionEscapes e p enabled } g body
    return ⟨[.escaping enabled' body], g, false⟩

def prepareAll (e : Environment) (p : Place) (g : Progress) :
    List Stmt → Except Fault (List Stmt × Progress)
  | [] => .ok ([], g)
  | s :: rest => do
    let found ← prepare e p g s
    if found.isEnd then return (found.statements, found.progress)
    let (others, g) ← prepareAll e p found.progress rest
    return (found.statements ++ others, g)

def prepareArms (e : Environment) (p : Place) (g : Progress) :
    List (Nat × Expr × List Stmt) →
      Except Fault (List (Nat × Expr × List Stmt) × Progress)
  | [] => .ok ([], g)
  | (line, test, body) :: rest => do
    let test ← prepareExpr e p test
    let (body, g) ← prepareAll e p g body
    let (others, g) ← prepareArms e p g rest
    return ((line, test, body) :: others, g)

end

/-! ## Blocks -/

mutual

/-- All blocks of a statement, outer ones before the ones inside of them. -/
def blocksOf : Stmt → List (String × BlockBody)
  | .output _ => []
  | .branch arms otherwise => blocksOfArms arms ++ blocksIn otherwise
  | .loop _ _ _ _ _ body otherwise => blocksIn body ++ blocksIn otherwise
  | .assign .. => []
  | .capture _ _ _ body => blocksIn body
  | .block line name _ _ body => (name, { line, body }) :: blocksIn body
  | .extend .. => []
  | .insert .. => []
  | .importModule .. => []
  | .importNames .. => []
  | .define _ _ _ body => blocksIn body
  | .callWith _ _ _ body => blocksIn body
  | .filtered _ _ body => blocksIn body
  | .bind _ body => blocksIn body
  | .escaping _ body => blocksIn body

def blocksIn : List Stmt → List (String × BlockBody)
  | [] => []
  | s :: rest => blocksOf s ++ blocksIn rest

def blocksOfArms : List (Nat × Expr × List Stmt) → List (String × BlockBody)
  | [] => []
  | (_, _, body) :: rest => blocksIn body ++ blocksOfArms rest

end

/-- The first name that occurs again. -/
def repeated? : List String → List String → Option String
  | _, [] => none
  | seen, name :: rest => if seen.contains name then some name else repeated? (name :: seen) rest

mutual

def isExtension : Stmt → Bool
  | .output _ => false
  | .branch arms otherwise => armsExtend arms || anyExtends otherwise
  | .loop _ _ _ _ _ body otherwise => anyExtends body || anyExtends otherwise
  | .assign .. => false
  | .capture _ _ _ body => anyExtends body
  | .block _ _ _ _ body => anyExtends body
  | .extend .. => true
  | .insert .. => false
  | .importModule .. => false
  | .importNames .. => false
  | .define _ _ _ body => anyExtends body
  | .callWith _ _ _ body => anyExtends body
  | .filtered _ _ body => anyExtends body
  | .bind _ body => anyExtends body
  | .escaping _ body => anyExtends body

def anyExtends : List Stmt → Bool
  | [] => false
  | s :: rest => isExtension s || anyExtends rest

def armsExtend : List (Nat × Expr × List Stmt) → Bool
  | [] => false
  | (_, _, body) :: rest => anyExtends body || armsExtend rest

end

/-- Makes the statements of a template ready to run. -/
def ofStatements (e : Environment) (name : Option String) (statements : List Stmt) :
    Except Fault Compiled := do
  let found := blocksIn statements
  if let some name := repeated? [] (found.map (·.1)) then
    throw (assertionFault s!"block {Text.quote name} defined twice")
  let mayExtend := anyExtends statements
  let root : Place :=
    { isTop := true, isRoot := true, isTentative := false, checksOutput := mayExtend,
      escapes := some e.escapes }
  let (ready, _) ← prepareAll e root { hasParent := false, extensions := 0 } statements
  let blocks ← found.mapM fun (name, block) => do
    let (body, _) ← prepareAll e { root.inner with checksOutput := false }
      { hasParent := false, extensions := 0 } block.body
    return (name, { block with body })
  return { name, statements := ready, blocks, mayExtend }

/-- Reads a template and makes it ready to run. -/
def ofSource (e : Environment) (name : Option String) (source : String) :
    Except Fault Compiled := do
  ofStatements e name (← read e.keepsLastNewline source)

end Compiled

/-! ## Lines -/

def pieceLine? : Piece → Option Nat
  | .data _ => none
  | .print line _ => some line

mutual

/-- The last line that a statement is known to have reached, given the one before it. -/
def Stmt.lastLine (before : Nat) : Stmt → Nat
  | .output pieces => (pieces.filterMap pieceLine?).getLast?.getD before
  | .branch arms otherwise => lastLineIn (lastLineOfArms before arms) otherwise
  | .loop line _ _ _ _ body otherwise => lastLineIn (lastLineIn line body) otherwise
  | .assign line .. => line
  | .capture line .. => line
  | .block line .. => line
  | .extend line _ => line
  | .insert line .. => line
  | .importModule line .. => line
  | .importNames line .. => line
  | .define line _ _ body => lastLineIn line body
  | .callWith line .. => line
  | .filtered line .. => line
  | .bind _ body => lastLineIn before body
  | .escaping _ body => lastLineIn before body

def lastLineIn (before : Nat) : List Stmt → Nat
  | [] => before
  | s :: rest => lastLineIn (s.lastLine before) rest

def lastLineOfArms (before : Nat) : List (Nat × Expr × List Stmt) → Nat
  | [] => before
  | (line, _, body) :: rest => lastLineOfArms (lastLineIn line body) rest

end

end DocumentServer.Template
