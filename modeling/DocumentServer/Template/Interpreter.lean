import DocumentServer.Template.State

/-!
Running templates. Every function takes the depth to which it may still nest; a run that would
nest deeper fails. Faults are reported at the line of the main template that was reached last.
-/
namespace DocumentServer.Template
open Run

/-- What a run is about. -/
structure World where
  environment : Environment
  /-- Finds a template by its name. -/
  load : String → Except Fault Loaded

namespace World

def depthFault : Fault := ⟨.recursionLimit, "maximum recursion depth exceeded"⟩

def globals : Association String Value := functionNames.map fun name => (name, .function name)

/-- Output of a value, escaped where that is on. -/
def outputOf (frame : Frame) (v : Value) : String := Compiled.outputText frame.escapes v

/-- Text that is markup where output is escaped. -/
def textOf (frame : Frame) (text : String) : Value :=
  if frame.escapes then .markup text else .text text

def lineIn (line : Nat) (name : Option String) : String :=
  match name with
  | some name => s!"line {line} in {Text.quote name}"
  | none => s!"line {line}"

def noChoice (frame : Frame) (line : Nat) : Value :=
  .missing ⟨s!"the inline if-expression on {lineIn line frame.home.name} evaluated to false and "
    ++ "no else section was defined."⟩

/-- Texts joined. Where output is escaped and one of them is markup, so is the result. -/
def concat (frame : Frame) (values : List Value) : Value :=
  let texts := values.map Markup.softText
  if frame.escapes && texts.any (fun v => (Markup.markup? v).isSome) then
    .markup (String.join (texts.map Markup.escape))
  else .text (String.join (texts.map Value.render))

def noParentBlock (name : String) : Value :=
  .missing ⟨s!"there is no parent block called {Text.quote name}."⟩

/-- The definitions of a block from a depth on, if there are any. -/
def chainAt (context : Nat) (block : String) (depth : Nat) : Run Value := do
  let c ← Run.context context
  if depth < ((Association.get? block c.blocks).getD []).length then
    let s ← get
    set { s with chains := s.chains.push { context, block, depth } }
    return .handle .blockChain block s.chains.size
  else return noParentBlock block

/-- Attributes of things that live in the state. -/
def stateAttribute (owner : Value) (name : String) : Run Value := do
  match owner with
  | .handle .attributeBag _ id =>
    let bag := ((← get).bags[id]?).getD []
    return (Association.get? name bag).getD (missingIn owner (.text name))
  | .handle .blockTable _ id =>
    let c ← Run.context id
    if Association.contains name c.blocks then chainAt id name 0
    else return missingIn owner (.text name)
  | .handle .blockChain _ id =>
    match (← get).chains[id]? with
    | some chain =>
      if name == "super" then chainAt chain.context chain.block (chain.depth + 1)
      else return missingIn owner (.text name)
    | none => return missingIn owner (.text name)
  | owner => lift (attributeOf owner name)

def stateItem (owner key : Value) : Run Value := do
  match owner, key with
  | .handle .attributeBag _ _, .text name => stateAttribute owner name
  | .handle .blockTable _ _, .text name => stateAttribute owner name
  | owner, key => lift (itemOf owner key)

def newBag (given : Given) : Run Value := do
  let s ← get
  set { s with bags := s.bags.push given.named }
  return .handle .attributeBag "namespace" s.bags.size

def assignAttribute (frame : Frame) (owner name : String) (value : Value) : Run Unit := do
  match ← lookup frame owner with
  | .handle .attributeBag _ id =>
    modify fun s => { s with bags := s.bags.modify id (Association.put name value) }
  | _ => Run.fail (runtimeFault "cannot assign attribute on non-namespace object")

/-! ## Targets -/

def unpackFault (message : String) : Fault := .wrongType message

/-- The items of a value, as many as there are targets. -/
def unpack (count : Nat) (value : Value) : Except Fault (List Value) :=
  match Value.items? value with
  | none => .error (.wrongType s!"cannot unpack non-iterable {value.typeName} object")
  | some items =>
    if items.length < count then
      .error (.wrongValue
        s!"not enough values to unpack (expected {count}, got {items.length})")
    else if count < items.length then
      .error (.wrongValue s!"too many values to unpack (expected {count})")
    else .ok items

mutual

/-- The values that an assignment gives to names and attributes. -/
def matchTarget : Target → Value → Except Fault (List (Target × Value))
  | .tuple targets, value => do matchTargets targets (← unpack targets.length value)
  | target, value => .ok [(target, value)]

def matchTargets : List Target → List Value → Except Fault (List (Target × Value))
  | target :: targets, value :: values => do
    return (← matchTarget target value) ++ (← matchTargets targets values)
  | _, _ => .ok []

end

def assignTarget (frame : Frame) (target : Target) (value : Value) : Run Unit := do
  for (target, value) in ← lift (matchTarget target value) do
    match target with
    | .name name => assign frame name value
    | .attribute owner name => assignAttribute frame owner name value
    | .tuple _ => pure ()

/-- The names that a target gives values to. -/
def givenByTarget (target : Target) (value : Value) :
    Except Fault (Association String (Option Value)) := do
  return (← matchTarget target value).filterMap fun (target, value) =>
    match target with
    | .name name => some (name, some value)
    | _ => none

/-! ## Templates by name -/

def splitFault (v : Value) : Fault :=
  ⟨.missingAttribute, s!"'{v.typeName}' object has no attribute 'split'"⟩

def loadNamed (w : World) (name : Value) : Except Fault Loaded :=
  match name with
  | .missing m => .error (.undefinedValue m.message)
  | name => match name.text?, name.unhashable? with
    | some text, _ => w.load text
    | none, some kind => .error (Value.unhashable kind)
    | none, none => .error (splitFault name)

def notFoundText : Value → String
  | .missing m => m.message
  | v => v.render

def noneFound (names : List Value) : Fault :=
  ⟨.templatesMissing, "none of the templates given were found: "
    ++ String.intercalate ", " (names.map notFoundText)⟩

/-- The first of several templates that there is. -/
def firstFound (w : World) (all : List Value) : List Value → Except Fault Loaded
  | [] => .error (noneFound all)
  | name :: rest =>
    match w.loadNamed name with
    | .ok found => .ok found
    | .error f =>
      if f.cause == .templateMissing || f.cause == .undefinedValue then w.firstFound all rest
      else .error f

/-- A template by its name, or the first that there is of several. -/
def select (w : World) (names : Value) : Except Fault Loaded :=
  match names with
  | .missing m => .error (.undefinedValue m.message)
  | names => match names.text? with
    | some text => w.load text
    | none => do
      if !names.isTrue then
        throw ⟨.templatesMissing, "Tried to select from an empty list of templates."⟩
      let items ← Value.items names
      w.firstFound items items

/-! ## Definitions -/

structure BoundCall where
  values : Association String (Option Value)

def namedArgumentFault (name : Option String) (argument : String) : Fault :=
  let shown := (name.map Text.quote).getD "None"
  .wrongType s!"macro {shown} takes no keyword argument {Text.quote argument}"

def tooManyFault (name : Option String) (count : Nat) : Fault :=
  let shown := (name.map Text.quote).getD "None"
  .wrongType s!"macro {shown} takes not more than {count} argument(s)"

/-- Matches the arguments of a call with the parameters of a definition. What no parameter takes is
kept for a body that asks for it. -/
def matchArguments (d : Definition) (given : Given) :
    Except Fault (Association String (Option Value)) := do
  let names := d.parameters.map (·.name)
  let byPosition := names.zip given.positional
  let rest := names.drop given.positional.length
  let byName := rest.map fun name => (name, Association.get? name given.named)
  let unused := given.named.filter fun entry => !rest.contains entry.1
  let wants (name : String) := !names.contains name && mentionsIn name d.body
  let caller := if wants "caller" then
      let value := (Association.get? "caller" unused).getD (.missing ⟨"No caller defined"⟩)
      [("caller", some value)]
    else []
  let unused := if wants "caller" then Association.drop "caller" unused else unused
  let named ← if wants "kwargs" then
      pure [("kwargs", some (Value.dict (unused.map fun (k, v) => (.text k, v))))]
    else match unused with
      | (name, _) :: _ => throw (namedArgumentFault d.name name)
      | [] => pure []
  let more ← if wants "varargs" then
      pure [("varargs", some (Value.tuple (given.positional.drop names.length)))]
    else if names.length < given.positional.length then
      throw (tooManyFault d.name names.length)
    else pure []
  return byPosition.map (fun (n, v) => (n, some v)) ++ byName ++ caller ++ named ++ more

def notProvided (name : String) : Value :=
  .missing ⟨s!"parameter {Text.quote name} was not provided"⟩

def newDefinition (d : Definition) : Run Value := do
  let s ← get
  set { s with definitions := s.definitions.push d }
  return .handle .macroDefinition (d.name.getD "None") s.definitions.size

/-- The names of the scope of a definition's body. -/
def definitionNames (isOuter : String → Bool) (d : Definition) (given : List String) : Names :=
  let names := Names.empty.giveAll given
  let defaults := d.parameters.flatMap fun q => (q.default.map Expr.reads).getD []
  (names.readAll isOuter defaults).statements isOuter d.body

/-! ## Evaluation -/

mutual

def evaluate (w : World) : Nat → Frame → Expr → Run Value
  | 0, _, _ => Run.fail depthFault
  | fuel + 1, frame, x =>
    match x with
    | .constant value => pure value
    | .name name => lookup frame name
    | .tuple items => return .tuple (← items.mapM (evaluate w fuel frame))
    | .list items => return .list (← items.mapM (evaluate w fuel frame))
    | .dict entries => do
      let values ← entries.mapM fun (key, value) => do
        let k ← evaluate w fuel frame key
        return (k, ← evaluate w fuel frame value)
      lift (dictOf values)
    | .condition line test chosen otherwise => do
      if (← evaluate w fuel frame test).isTrue then evaluate w fuel frame chosen
      else match otherwise with
        | some other => evaluate w fuel frame other
        | none => return noChoice frame line
    | .both left right => do
      let v ← evaluate w fuel frame left
      if v.isTrue then evaluate w fuel frame right else return v
    | .either left right => do
      let v ← evaluate w fuel frame left
      if v.isTrue then return v else evaluate w fuel frame right
    | .not operand => return .bool (!(← evaluate w fuel frame operand).isTrue)
    | .unary operator operand => do
      lift (operator.apply (← evaluate w fuel frame operand))
    | .binary operator left right => do
      let v ← evaluate w fuel frame left
      lift (operator.apply v (← evaluate w fuel frame right))
    | .compare first rest => do
      compareChain w fuel frame (← evaluate w fuel frame first) rest
    | .concat items => return concat frame (← items.mapM (evaluate w fuel frame))
    | .attribute owner name => do stateAttribute (← evaluate w fuel frame owner) name
    | .item owner key => do
      let v ← evaluate w fuel frame owner
      stateItem v (← evaluate w fuel frame key)
    | .slice owner start stop step => do
      let v ← evaluate w fuel frame owner
      let bound (x : Option Expr) : Run Value := match x with
        | some x => evaluate w fuel frame x
        | none => pure .none
      let start ← bound start
      let stop ← bound stop
      lift (Value.slice v start stop (← bound step))
    | .call called arguments => do
      let f ← evaluate w fuel frame called
      call w fuel frame f (← evaluateArguments w fuel frame arguments)
    | .filter subject name arguments => do
      let v ← evaluate w fuel frame subject
      let given ← evaluateArguments w fuel frame arguments
      match filters.lookup name with
      | some f =>
        lift (f.run w.environment frame.escapes
          { given with positional := v :: given.positional })
      | none => Run.fail (runtimeFault s!"No filter named {Text.quote name} found.")
    | .test subject name arguments => do
      let v ← evaluate w fuel frame subject
      let given ← evaluateArguments w fuel frame arguments
      match tests.lookup name with
      | some t =>
        return .bool (← lift (t.run { given with positional := v :: given.positional }))
      | none => Run.fail (runtimeFault s!"No test named {Text.quote name} found.")
    | .captured => return frame.captured

/-- Compares a value with the next operand, and that one with its next. -/
def compareChain (w : World) : Nat → Frame → Value → List (Comparison × Expr) → Run Value
  | 0, _, _, _ => Run.fail depthFault
  | _, _, _, [] => return .bool true
  | fuel + 1, frame, v, (comparison, operand) :: rest => do
    let next ← evaluate w fuel frame operand
    if ← lift (comparison.holds v next) then compareChain w fuel frame next rest
    else return .bool false

def evaluateArguments (w : World) : Nat → Frame → Arguments → Run Given
  | 0, _, _ => Run.fail depthFault
  | fuel + 1, frame, arguments => do
    let positional ← arguments.positional.mapM (evaluate w fuel frame)
    let named ← arguments.named.mapM fun (name, value) => do
      return (name, ← evaluate w fuel frame value)
    let more ← arguments.more.mapM (evaluate w fuel frame)
    let moreNamed ← arguments.moreNamed.mapM (evaluate w fuel frame)
    lift (spread { positional, named } more moreNamed)

def call (w : World) : Nat → Frame → Value → Given → Run Value
  | 0, _, _, _ => Run.fail depthFault
  | fuel + 1, frame, f, given => do
    match f with
    | .missing m => Run.fail (.undefinedValue m.message)
    | .function "namespace" => newBag given
    | .function name => lift (callFunction name given)
    | .method receiver name => lift (callMethod receiver name given)
    | .handle .macroDefinition _ id =>
      match (← get).definitions[id]? with
      | some d => runDefinition w fuel frame d given
      | none => return .none
    | .handle .blockChain _ id =>
      match (← get).chains[id]? with
      | some chain =>
        let text ← capture (runBlock w fuel chain.context chain.block chain.depth)
        return textOf frame text
      | none => return .none
    | .loop _ _ depth again =>
      match again with
      | none => Run.fail (.wrongType
          "The loop must have the 'recursive' marker to be called recursively.")
      | some id =>
        match (← get).loops[id]? with
        | some l =>
          let text ← capture (runLoop w fuel l (depth + 1) (some id) (given.positional.headD .none))
          return textOf frame text
        | none => return .none
    | f => Run.fail (notCallable f)

/-- Runs a definition; the value is the text that its body writes. -/
def runDefinition (w : World) : Nat → Frame → Definition → Given → Run Value
  | 0, _, _, _ => Run.fail depthFault
  | fuel + 1, caller, d, given => do
    let values ← lift (matchArguments d given)
    let isOuter := isKnown (← get) d.frame
    let names := definitionNames isOuter d (Association.keys values)
    let frame ← enter { innerFrame d.frame with checksOutput := false } true names values
    let text ← capture (atLine frame d.line do
      for q in d.parameters do
        if (Association.get? q.name values).join.isNone then
          let value ← match q.default with
            | some x => evaluate w fuel frame x
            | none => pure (notProvided q.name)
          assign frame q.name value
      runAll w fuel frame d.line d.body)
    return textOf caller text

/-- Writes the definition of a block at a depth. -/
def runBlock (w : World) : Nat → Nat → String → Nat → Run Unit
  | 0, _, _, _ => Run.fail depthFault
  | fuel + 1, contextId, name, depth => do
    let c ← Run.context contextId
    match ((Association.get? name c.blocks).getD [])[depth]? with
    | none => pure ()
    | some definition =>
      let body := definition.block.body
      let given := ["self", "super"].filter (mentionsIn · body)
      let above ← chainAt contextId name (depth + 1)
      let table := Value.handle .blockTable (definition.home.name.getD "None") contextId
      let values := given.map fun n => (n, some (if n == "self" then table else above))
      let names := (Names.empty.giveAll given).statements (fun _ => false) body
      let frame : Frame :=
        { home := definition.home, scope := 0, context := contextId, root := 0, isTop := false,
          checksOutput := false, escapes := w.environment.escapes, captured := .none }
      let frame ← enter frame false names values
      atLine frame definition.block.line (runAll w fuel frame definition.block.line body)

/-- Runs statements; `before` is the last line known to have been reached. -/
def runAll (w : World) : Nat → Frame → Nat → List Stmt → Run Unit
  | 0, _, _, _ => Run.fail depthFault
  | fuel + 1, frame, before, statements => do
    let _ ← statements.foldlM
      (fun line s => do
        run w fuel frame line s
        return s.lastLine line)
      before

def run (w : World) : Nat → Frame → Nat → Stmt → Run Unit
  | 0, _, _, _ => Run.fail depthFault
  | fuel + 1, frame, before, s =>
    match s with
    | .output pieces => do
      if ← isSilent frame then return
      for piece in pieces do
        match piece with
        | .data text => write text
        | .print line x =>
          write (outputOf frame (← atLine frame line (evaluate w fuel frame x)))
    | .branch arms otherwise => runArms w fuel frame arms otherwise
    | .loop line target items test isRecursive body otherwise => do
      let l : RecursiveLoop := { frame, line, target, test, body, otherwise }
      let again ← if isRecursive then do
          let s ← get
          set { s with loops := s.loops.push l }
          pure (some s.loops.size)
        else pure none
      let value ← atLine frame line (evaluate w fuel frame items)
      runLoop w fuel l 0 again value
    | .assign line target value => atLine frame line do
      for owner in target.owners do
        match ← lookup frame owner with
        | .handle .attributeBag .. => pure ()
        | _ => Run.fail (runtimeFault "cannot assign attribute on non-namespace object")
      assignTarget frame target (← evaluate w fuel frame value)
    | .capture line target filter body => do
      let inner ← enterBody { frame with checksOutput := false } [] body
      let text ← capture (runAll w fuel inner before body)
      atLine frame line do
        let value ← match filter with
          | none => pure (textOf frame text)
          | some x => do
            let v ← evaluate w fuel { inner with captured := textOf frame text } x
            pure (if frame.escapes then .markup ((Markup.markup? v).getD v.render) else v)
        assignTarget frame target value
    | .block line name isScoped isRequired _ => atLine frame line do
      if frame.isTop && (← parent? frame.root).isSome then return
      let c ← Run.context frame.context
      if isRequired && ((Association.get? name c.blocks).getD []).length ≤ 1 then
        Run.fail (runtimeFault s!"Required block {Text.quote name} not found")
      let target ← if isScoped then newContext { c with
            base := ← visibleValues frame, values := [] }
        else pure frame.context
      runBlock w fuel target name 0
    | .extend line template => do
      if (← parent? frame.root).isSome then
        atLine frame before (Run.fail (runtimeFault "extended multiple times"))
      atLine frame line do
        let loaded ← lift (w.loadNamed (← evaluate w fuel frame template))
        setParent frame.root loaded
        let home : Home := { name := loaded.template.name, isMain := loaded.isMain }
        changeContext frame.context fun c =>
          { c with blocks := appendBlocks c.blocks (ownBlocks home loaded.template) }
    | .insert line template ignoreMissing withContext => atLine frame line do
      let name ← evaluate w fuel frame template
      match w.select name with
      | .error f =>
        let isMissing := f.cause == .templateMissing || f.cause == .templatesMissing
        if ignoreMissing && isMissing then pure () else Run.fail f
      | .ok loaded =>
        let base ← if withContext then visibleValues frame else pure globals
        runTemplate w fuel loaded base
    | .importModule line template name withContext => atLine frame line do
      let module ← importFrom w fuel frame template withContext
      assign frame name module
      hide frame [name]
    | .importNames line template names withContext => atLine frame line do
      match ← importFrom w fuel frame template withContext with
      | .module source exports _ =>
        for (name, newName) in names do
          assign frame newName ((exports.lookup name).getD (.missing
            ⟨s!"the template {Text.quote source} (imported on {lineIn line frame.home.name}) "
              ++ s!"does not export the requested name {Text.quote name}"⟩))
        hide frame (names.map (·.2))
      | _ => pure ()
    | .define line name parameters body => do
      assign frame name (← newDefinition { frame, line, name := some name, parameters, body })
    | .callWith line parameters callee body => atLine frame line do
      let caller ← newDefinition { frame, line, name := none, parameters, body }
      match callee with
      | .call called arguments =>
        let f ← evaluate w fuel frame called
        let given ← evaluateArguments w fuel frame arguments
        let named := given.named ++ [("caller", caller)]
        write (← call w fuel frame f { given with named }).render
      | _ => pure ()
    | .filtered line filter body => do
      let inner ← enterBody frame [] body
      let text ← capture (runAll w fuel inner line body)
      atLine frame line do
        write (← evaluate w fuel { inner with captured := textOf frame text } filter).render
    | .bind bindings body => do
      let given ← atLine frame before (bindings.mapM fun (target, x) => do
        lift (givenByTarget target (← evaluate w fuel frame x)))
      let inner ← enterBody frame given.flatten body
      runAll w fuel inner before body
    | .escaping enabled body => do
      let inner ← enterBody frame [] body
      let isOn := (← atLine frame before (evaluate w fuel inner enabled)).isTrue
      runAll w fuel { inner with escapes := isOn } before body

/-- Runs the first arm whose test holds. -/
def runArms (w : World) :
    Nat → Frame → List (Nat × Expr × List Stmt) → List Stmt → Run Unit
  | 0, _, _, _ => Run.fail depthFault
  | fuel + 1, frame, [], otherwise => runAll w fuel frame 1 otherwise
  | fuel + 1, frame, (line, test, body) :: rest, otherwise => do
    if (← atLine frame line (evaluate w fuel frame test)).isTrue then
      runAll w fuel frame line body
    else runArms w fuel frame rest otherwise

/-- Runs the body of a loop for every item that passes the test. -/
def runLoop (w : World) : Nat → RecursiveLoop → Nat → Option Nat → Value → Run Unit
  | 0, _, _, _, _ => Run.fail depthFault
  | fuel + 1, l, depth, again, value => do
    let frame := l.frame
    let items ← atLine frame l.line (lift (Value.items value))
    let items ← match l.test with
      | none => pure items
      | some (line, test) => items.filterM fun item => do
        let given ← atLine frame l.line (lift (givenByTarget l.target item))
        let isOuter := isKnown (← get) frame
        let names := (Names.empty.giveAll (Association.keys given)).readAll isOuter test.reads
        let inner ← enter (innerFrame frame) true names given
        return (← atLine frame line (evaluate w fuel inner test)).isTrue
    let isOuter := isKnown (← get) frame
    let hasState := again.isSome || mentionsIn "loop" l.body
    let known := l.target.names ++ (if hasState then ["loop"] else [])
    let names := (Names.empty.giveAll known).statements isOuter l.body
    for (item, index) in items.zipIdx do
      let given ← atLine frame l.line (lift (givenByTarget l.target item))
      let state : List (String × Option Value) :=
        if hasState then [("loop", some (.loop items index depth again))] else []
      let inner ← enter (innerFrame frame) true names (given ++ state)
      runAll w fuel inner l.line l.body
    if items.isEmpty then
      let inner ← enterBody frame [] l.otherwise
      runAll w fuel inner l.line l.otherwise

/-- The module of a template that is imported. -/
def importFrom (w : World) : Nat → Frame → Expr → Bool → Run Value
  | 0, _, _, _ => Run.fail depthFault
  | fuel + 1, frame, template, withContext => do
    let loaded ← lift (w.loadNamed (← evaluate w fuel frame template))
    let base ← if withContext then visibleValues frame else pure globals
    let count := (← get).contexts.size
    let body ← capture (runTemplate w fuel loaded base)
    let c ← Run.context count
    let exports := c.exported.filterMap fun name =>
      (Association.get? name c.values).map (name, ·)
    return .module (loaded.template.name.getD "None") exports body

/-- Runs a template in a new context. -/
def runTemplate (w : World) : Nat → Loaded → Association String Value → Run Unit
  | 0, _, _ => Run.fail depthFault
  | fuel + 1, loaded, base => do
    let home : Home := { name := loaded.template.name, isMain := loaded.isMain }
    let contextId ← newContext
      { base, values := [], exported := [], blocks := ownBlocks home loaded.template }
    runRoot w fuel loaded contextId

/-- Runs the statements of a template, and then its parent if it has one. -/
def runRoot (w : World) : Nat → Loaded → Nat → Run Unit
  | 0, _, _ => Run.fail depthFault
  | fuel + 1, loaded, contextId => do
    let template := loaded.template
    let root ← newRoot
    let frame : Frame :=
      { home := { name := template.name, isMain := loaded.isMain }, scope := 0,
        context := contextId, root, isTop := true, checksOutput := template.mayExtend,
        escapes := w.environment.escapes, captured := .none }
    let given := if mentionsIn "self" template.statements then
        [("self", some (Value.handle .blockTable (template.name.getD "None") contextId))]
      else []
    let names := (Names.empty.giveAll (Association.keys given)).statements (fun _ => false)
      template.statements
    let frame ← enter frame false names given
    atLine frame 1 do
      runAll w fuel frame 1 template.statements
      if let some parent ← parent? root then
        atLine frame (lastLineIn 1 template.statements) (runRoot w fuel parent contextId)

end

/-- The depth to which templates may nest. -/
def maxDepth : Nat := 4000

/-- The text that a template writes with given values. -/
def render (w : World) (loaded : Loaded) (values : Association String Value) :
    Except Failure String :=
  match (w.runTemplate maxDepth loaded (Association.merge globals values)).run .empty with
  | .ok (_, s) => .ok s.output
  | .error f => .error f

end World
end DocumentServer.Template
