import DocumentServer.Association
import DocumentServer.Template.Tree

/-!
The names of a scope. A scope knows before it runs which names it reads and which it assigns. A
name that is read first starts with the value it has outside; a name that is assigned first starts
without one, unless an enclosing scope knows it.
-/
namespace DocumentServer.Template

namespace Expr

mutual

/-- The names that an expression reads. -/
def reads : Expr → List String
  | .constant _ => []
  | .name only => [only]
  | .tuple items => readsOf items
  | .list items => readsOf items
  | .dict entries => readsOfEntries entries
  | .condition _ question chosen otherwise =>
    reads question ++ reads chosen ++ readsOfOption otherwise
  | .both left right => reads left ++ reads right
  | .either left right => reads left ++ reads right
  | .not operand => reads operand
  | .unary _ operand => reads operand
  | .binary _ left right => reads left ++ reads right
  | .compare first rest => reads first ++ readsOfChain rest
  | .concat items => readsOf items
  | .attribute owner _ => reads owner
  | .item owner key => reads owner ++ reads key
  | .slice owner start stop step =>
    reads owner ++ readsOfOption start ++ readsOfOption stop ++ readsOfOption step
  | .call function arguments => reads function ++ readsOfArguments arguments
  | .filter subject _ arguments => reads subject ++ readsOfArguments arguments
  | .test subject _ arguments => reads subject ++ readsOfArguments arguments
  | .captured => []

def readsOf : List Expr → List String
  | [] => []
  | first :: rest => reads first ++ readsOf rest

def readsOfEntries : List (Expr × Expr) → List String
  | [] => []
  | (key, value) :: rest => reads key ++ reads value ++ readsOfEntries rest

def readsOfNamed : List (String × Expr) → List String
  | [] => []
  | (_, value) :: rest => reads value ++ readsOfNamed rest

def readsOfChain : List (Comparison × Expr) → List String
  | [] => []
  | (_, operand) :: rest => reads operand ++ readsOfChain rest

def readsOfOption : Option Expr → List String
  | none => []
  | some e => reads e

def readsOfArguments : Arguments → List String
  | .mk positional named more moreNamed =>
    readsOf positional ++ readsOfNamed named ++ readsOfOption more ++ readsOfOption moreNamed

end

end Expr

/-- The value that a name has when its scope begins. -/
inductive Start where
  /-- The value in the context. -/
  | resolved
  /-- The value in the enclosing scope. -/
  | inherited
  | missing
  /-- A value that is handed in. -/
  | given
  deriving DecidableEq

/-- The names of a scope, with the names it assigns. -/
structure Names where
  starts : Association String Start
  assigned : List String

namespace Names

def empty : Names := { starts := [], assigned := [] }

/-- `isOuter` tells whether an enclosing scope knows a name. -/
def read (isOuter : String → Bool) (name : String) (names : Names) : Names :=
  if Association.contains name names.starts || isOuter name then names
  else { names with starts := Association.put name .resolved names.starts }

def readAll (isOuter : String → Bool) (read : List String) (names : Names) : Names :=
  read.foldl (fun names name => names.read isOuter name) names

def assign (isOuter : String → Bool) (name : String) (names : Names) : Names :=
  let names := { names with assigned := name :: names.assigned }
  if Association.contains name names.starts then names
  else
    let start := if isOuter name then Start.inherited else .missing
    { names with starts := Association.put name start names.starts }

def assignAll (isOuter : String → Bool) (assigned : List String) (names : Names) : Names :=
  assigned.foldl (fun names name => names.assign isOuter name) names

def give (name : String) (names : Names) : Names :=
  { starts := Association.put name .given names.starts, assigned := name :: names.assigned }

def giveAll (given : List String) (names : Names) : Names :=
  given.foldl (fun names name => names.give name) names

/-- Joins the names of the arms of a choice. A name that some arm assigns may keep the value from
outside. -/
def join (isOuter : String → Bool) (before : Names) (arms : List Names) : Names :=
  let starts := arms.foldl (fun all arm => Association.merge all arm.starts) before.starts
  let assigned := arms.flatMap (·.assigned)
  let fresh := assigned.filter (!before.assigned.contains ·)
  let start (name : String) := if isOuter name then Start.inherited else .resolved
  { starts := fresh.foldl (fun all name => Association.put name (start name) all) starts
    assigned := assigned ++ before.assigned }

def pieceReads : Piece → List String
  | .data _ => []
  | .print _ value => value.reads

mutual

/-- Adds the names that a statement uses in its own scope; inner scopes are left out. -/
def statement (isOuter : String → Bool) (names : Names) : Stmt → Names
  | .output pieces => names.readAll isOuter (pieces.flatMap pieceReads)
  | .branch arms otherwise =>
    let before := names
    let inner := armsOf isOuter before arms
    join isOuter before (inner ++ [statements isOuter before otherwise])
  | .loop _ _ items _ _ _ _ => names.readAll isOuter items.reads
  | .assign _ target value =>
    ((names.readAll isOuter value.reads).readAll isOuter target.owners).assignAll isOuter
      target.names
  | .capture _ target _ _ =>
    (names.readAll isOuter target.owners).assignAll isOuter target.names
  | .block .. => names
  | .extend _ template => names.readAll isOuter template.reads
  | .insert _ template _ _ => names.readAll isOuter template.reads
  | .importModule _ template name _ =>
    (names.readAll isOuter template.reads).assign isOuter name
  | .importNames _ template imported _ =>
    (names.readAll isOuter template.reads).assignAll isOuter (imported.map (·.2))
  | .define _ name _ _ => names.assign isOuter name
  | .callWith _ _ call _ => names.readAll isOuter call.reads
  | .filtered _ filter _ => names.readAll isOuter filter.reads
  | .bind bindings _ => names.readAll isOuter (bindings.flatMap fun b => b.2.reads)
  | .escaping .. => names

def statements (isOuter : String → Bool) (names : Names) : List Stmt → Names
  | [] => names
  | s :: rest => statements isOuter (statement isOuter names s) rest

/-- The names after each arm, where all arms begin alike. -/
def armsOf (isOuter : String → Bool) (before : Names) : List (Nat × Expr × List Stmt) → List Names
  | [] => []
  | (_, test, body) :: rest =>
    statements isOuter (before.readAll isOuter test.reads) body :: armsOf isOuter before rest

end

end Names

/-! ## Mentions -/

mutual

/-- Whether a statement reads a name, in an inner scope or its own; blocks are left out. -/
def Stmt.mentions (name : String) : Stmt → Bool
  | .output pieces => (pieces.flatMap Names.pieceReads).contains name
  | .branch arms otherwise => mentionsInArms name arms || mentionsIn name otherwise
  | .loop _ _ items test _ body otherwise =>
    items.reads.contains name || test.any (·.2.reads.contains name) || mentionsIn name body
      || mentionsIn name otherwise
  | .assign _ _ value => value.reads.contains name
  | .capture _ _ filter body => filter.any (·.reads.contains name) || mentionsIn name body
  | .block .. => false
  | .extend _ template => template.reads.contains name
  | .insert _ template _ _ => template.reads.contains name
  | .importModule _ template _ _ => template.reads.contains name
  | .importNames _ template _ _ => template.reads.contains name
  | .define _ _ parameters body =>
    parameters.any (·.default.any (·.reads.contains name)) || mentionsIn name body
  | .callWith _ parameters call body =>
    call.reads.contains name || parameters.any (·.default.any (·.reads.contains name))
      || mentionsIn name body
  | .filtered _ filter body => filter.reads.contains name || mentionsIn name body
  | .bind bindings body => bindings.any (·.2.reads.contains name) || mentionsIn name body
  | .escaping enabled body => enabled.reads.contains name || mentionsIn name body

def mentionsIn (name : String) : List Stmt → Bool
  | [] => false
  | s :: rest => s.mentions name || mentionsIn name rest

def mentionsInArms (name : String) : List (Nat × Expr × List Stmt) → Bool
  | [] => false
  | (_, test, body) :: rest =>
    test.reads.contains name || mentionsIn name body || mentionsInArms name rest

end

end DocumentServer.Template
