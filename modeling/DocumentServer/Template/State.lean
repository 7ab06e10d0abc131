import DocumentServer.Template.Compiled

/-!
The state of a running template: scopes with the values of names, contexts that templates share,
and what was defined on the way. Things that outlive the place where they were made are kept in
tables and named by their number there.
-/
namespace DocumentServer.Template

/-- The template that a piece of code comes from. -/
structure Home where
  name : Option String
  /-- Whether it is the template whose lines are reported. -/
  isMain : Bool

/-- A name may be known without having a value. -/
structure Scope where
  values : Association String (Option Value)
  assigned : List String
  outer : Option Nat

/-- One of the definitions of a block. -/
structure BlockDefinition where
  home : Home
  block : BlockBody

structure Context where
  /-- The values handed in. -/
  base : Association String Value
  /-- The values assigned outside of any scope. -/
  values : Association String Value
  exported : List String
  /-- The definitions of each block, those of extending templates first. -/
  blocks : Association String (List BlockDefinition)

/-- A template found by its name. -/
structure Loaded where
  template : Compiled
  isMain : Bool

structure Frame where
  home : Home
  scope : Nat
  context : Nat
  /-- The number of the run of a template that this is a part of. -/
  root : Nat
  isTop : Bool
  checksOutput : Bool
  escapes : Bool
  /-- The text that filters of a section are applied to. -/
  captured : Value

structure Definition where
  frame : Frame
  line : Nat
  name : Option String
  parameters : List Parameter
  body : List Stmt

/-- A loop that may call itself. -/
structure RecursiveLoop where
  frame : Frame
  line : Nat
  target : Target
  test : Option (Nat × Expr)
  body : List Stmt
  otherwise : List Stmt

/-- The definitions of a block from some depth on. -/
structure BlockChain where
  context : Nat
  block : String
  depth : Nat

structure State where
  scopes : Array Scope
  contexts : Array Context
  /-- The parent of the template of each run, once it is known. -/
  parents : Array (Option Loaded)
  definitions : Array Definition
  chains : Array BlockChain
  loops : Array RecursiveLoop
  bags : Array (Association String Value)
  output : String

def State.empty : State :=
  { scopes := #[], contexts := #[], parents := #[], definitions := #[], chains := #[],
    loops := #[], bags := #[], output := "" }

/-- A fault, and the line of the main template that was reached, if any. -/
structure Failure where
  fault : Fault
  line : Option Nat

abbrev Run := StateT State (Except Failure)

namespace Run

def fail {α : Type} (fault : Fault) : Run α := throw { fault, line := none }

def lift {α : Type} (result : Except Fault α) : Run α :=
  match result with
  | .ok v => pure v
  | .error fault => fail fault

def runtimeFault (message : String) : Fault := ⟨.templateRuntime, message⟩

/-- Reports the line for a failure that has none yet, if the code is that of the main template. -/
def atLine {α : Type} (frame : Frame) (line : Nat) (action : Run α) : Run α := fun s =>
  match action s with
  | .ok result => .ok result
  | .error f =>
    if f.line.isNone && frame.home.isMain then .error { f with line := some line } else .error f

def write (text : String) : Run Unit := modify fun s => { s with output := s.output ++ text }

/-- The text that an action writes. -/
def capture (action : Run Unit) : Run String := do
  let before := (← get).output
  modify ({ · with output := "" })
  action
  let text := (← get).output
  modify ({ · with output := before })
  return text

/-! ## Contexts -/

def context (id : Nat) : Run Context := do
  return ((← get).contexts[id]?).getD { base := [], values := [], exported := [], blocks := [] }

def newContext (context : Context) : Run Nat := do
  let s ← get
  set { s with contexts := s.contexts.push context }
  return s.contexts.size

def changeContext (id : Nat) (f : Context → Context) : Run Unit :=
  modify fun s => { s with contexts := s.contexts.modify id f }

/-- The value of a name in a context. -/
def resolve? (c : Context) (name : String) : Option Value :=
  (Association.get? name c.values).or (Association.get? name c.base)

/-- All values that a context knows. -/
def allValues (c : Context) : Association String Value := Association.merge c.base c.values

/-! ## Scopes -/

/-- What a chain of scopes says on a name: whether it is known, and its value. An enclosing scope
has a smaller number. -/
def findIn (scopes : Array Scope) (name : String) : Nat → Nat → Option (Option Value)
  | 0, _ => none
  | fuel + 1, id => do
    let scope ← scopes[id]?
    match Association.get? name scope.values with
    | some value => some value
    | none => findIn scopes name fuel (← scope.outer)

def find? (s : State) (frame : Frame) (name : String) : Option (Option Value) :=
  findIn s.scopes name (frame.scope + 1) frame.scope

/-- Whether the scope of a frame or an enclosing one knows a name. -/
def isKnown (s : State) (frame : Frame) (name : String) : Bool := (find? s frame name).isSome

def lookup (frame : Frame) (name : String) : Run Value := do
  let value ← match find? (← get) frame name with
    | some value => pure value
    | none => pure (resolve? (← context frame.context) name)
  return value.getD (undefinedName name)

/-- The value with which a name starts in a new scope. -/
def startValue (s : State) (c : Context) (frame : Frame)
    (given : Association String (Option Value)) (name : String) : Start → Option Value
  | .resolved => resolve? c name
  | .inherited => (find? s frame name).join
  | .missing => none
  | .given => (Association.get? name given).join

/-- A frame with a new scope inside of the scope of a frame, or with no scope around it. -/
def enter (frame : Frame) (isInner : Bool) (names : Names)
    (given : Association String (Option Value)) : Run Frame := do
  let s ← get
  let c ← context frame.context
  let values := names.starts.map fun (name, start) =>
    (name, startValue s c frame given name start)
  let scope : Scope :=
    { values, assigned := names.assigned, outer := if isInner then some frame.scope else none }
  set { s with scopes := s.scopes.push scope }
  return { frame with scope := s.scopes.size }

/-- The frame of something inside of a statement. -/
def innerFrame (frame : Frame) : Frame := { frame with isTop := false }

/-- A new scope for a body, in which some names are given. -/
def enterBody (frame : Frame) (given : Association String (Option Value)) (body : List Stmt) :
    Run Frame := do
  let isOuter := isKnown (← get) frame
  let names := (Names.empty.giveAll (Association.keys given)).statements isOuter body
  enter (innerFrame frame) true names given

/-- Names that begin with a low line are not seen from other templates. -/
def isPrivate (name : String) : Bool := name.startsWith "_"

def export_ (name : String) (value : Value) (c : Context) : Context :=
  { c with
    values := Association.put name value c.values
    exported := if isPrivate name || c.exported.contains name then c.exported
      else c.exported ++ [name] }

/-- Gives a name a value. -/
def assign (frame : Frame) (name : String) (value : Value) : Run Unit := do
  modify fun s =>
    { s with scopes := s.scopes.modify frame.scope fun scope =>
        { scope with values := Association.put name (some value) scope.values } }
  if frame.isTop then changeContext frame.context (export_ name value)

/-- Makes the names of an import invisible from other templates. -/
def hide (frame : Frame) (names : List String) : Run Unit :=
  if frame.isTop then
    changeContext frame.context fun c =>
      { c with exported := c.exported.filter (!names.contains ·) }
  else pure ()

/-- The scopes of a frame, the innermost first. -/
def scopesFrom (scopes : Array Scope) : Nat → Nat → List Scope
  | 0, _ => []
  | fuel + 1, id =>
    match scopes[id]? with
    | none => []
    | some scope => scope :: (scope.outer.map (scopesFrom scopes fuel)).getD []

/-- The values that the scopes of a frame assign. -/
def localValues (s : State) (frame : Frame) : Association String Value :=
  let scopes := scopesFrom s.scopes (frame.scope + 1) frame.scope
  let names := (scopes.flatMap (·.assigned)).eraseDups
  names.filterMap fun name => ((find? s frame name).join).map (name, ·)

/-- The values that a template sees which is included where a frame is. -/
def visibleValues (frame : Frame) : Run (Association String Value) := do
  let c ← context frame.context
  return Association.merge (allValues c) (localValues (← get) frame)

/-! ## Runs of templates -/

def newRoot : Run Nat := do
  let s ← get
  set { s with parents := s.parents.push none }
  return s.parents.size

def parent? (root : Nat) : Run (Option Loaded) := do
  return ((← get).parents[root]?).join

def setParent (root : Nat) (loaded : Loaded) : Run Unit :=
  modify fun s => { s with parents := s.parents.setIfInBounds root (some loaded) }

/-- Whether output at a place does not count, as the template extends another one. -/
def isSilent (frame : Frame) : Run Bool := do
  return frame.checksOutput && (← parent? frame.root).isSome

/-- The blocks of a template, as definitions that nothing overrides. -/
def ownBlocks (home : Home) (template : Compiled) : Association String (List BlockDefinition) :=
  template.blocks.map fun (name, block) => (name, [{ home, block }])

/-- Adds definitions behind those that are there. -/
def appendBlocks (blocks added : Association String (List BlockDefinition)) :
    Association String (List BlockDefinition) :=
  added.foldl
    (fun all (name, definitions) =>
      Association.put name (((Association.get? name all).getD []) ++ definitions) all)
    blocks

end Run
end DocumentServer.Template
