import DocumentServer.Value.Basic

/-!
Templates as trees: expressions, targets of assignments, and statements. Statements know the line
on which they begin.
-/
namespace DocumentServer.Template

inductive UnaryOperator where
  | positive
  | negative
  deriving DecidableEq

inductive BinaryOperator where
  | add
  | subtract
  | multiply
  | divide
  | floorDivide
  | modulo
  | power
  deriving DecidableEq

inductive Comparison where
  | equal
  | notEqual
  | less
  | lessOrEqual
  | greater
  | greaterOrEqual
  | isIn
  | isNotIn
  deriving DecidableEq

mutual

inductive Expr where
  | constant (value : Value)
  | name (name : String)
  | tuple (items : List Expr)
  | list (items : List Expr)
  | dict (entries : List (Expr × Expr))
  /-- The second expression if the test holds, else the third; without a third the value is
  missing, and the line tells where. -/
  | condition (line : Nat) (test chosen : Expr) (otherwise : Option Expr)
  | both (left right : Expr)
  | either (left right : Expr)
  | not (operand : Expr)
  | unary (operator : UnaryOperator) (operand : Expr)
  | binary (operator : BinaryOperator) (left right : Expr)
  /-- A chain: each operand is compared with the next. -/
  | compare (first : Expr) (rest : List (Comparison × Expr))
  | concat (items : List Expr)
  | attribute (owner : Expr) (name : String)
  | item (owner key : Expr)
  | slice (owner : Expr) (start stop step : Option Expr)
  | call (function : Expr) (arguments : Arguments)
  | filter (subject : Expr) (name : String) (arguments : Arguments)
  | test (subject : Expr) (name : String) (arguments : Arguments)
  /-- The text of the block that a filter is applied to. -/
  | captured

inductive Arguments where
  | mk (positional : List Expr) (named : List (String × Expr)) (more moreNamed : Option Expr)

end

instance : Inhabited Expr := ⟨.constant .none⟩

namespace Arguments

def empty : Arguments := .mk [] [] none none

def positional : Arguments → List Expr
  | .mk positional .. => positional

def named : Arguments → List (String × Expr)
  | .mk _ named .. => named

def more : Arguments → Option Expr
  | .mk _ _ more _ => more

def moreNamed : Arguments → Option Expr
  | .mk _ _ _ moreNamed => moreNamed

end Arguments

inductive Target where
  | name (name : String)
  | tuple (targets : List Target)
  /-- An attribute of a bag of attributes. -/
  | attribute (owner name : String)

/-- A piece of output: text of the template, or an expression and its line. -/
inductive Piece where
  | data (text : String)
  | print (line : Nat) (value : Expr)

structure Parameter where
  name : String
  default : Option Expr

inductive Stmt where
  | output (pieces : List Piece)
  /-- The first arm whose test holds; every arm knows its line. -/
  | branch (arms : List (Nat × Expr × List Stmt)) (otherwise : List Stmt)
  | loop (line : Nat) (target : Target) (items : Expr) (test : Option (Nat × Expr))
      (isRecursive : Bool) (body otherwise : List Stmt)
  | assign (line : Nat) (target : Target) (value : Expr)
  /-- Assigns the output of a body, possibly filtered. -/
  | capture (line : Nat) (target : Target) (filter : Option Expr) (body : List Stmt)
  | block (line : Nat) (name : String) (isScoped isRequired : Bool) (body : List Stmt)
  | extend (line : Nat) (template : Expr)
  | insert (line : Nat) (template : Expr) (ignoreMissing withContext : Bool)
  | importModule (line : Nat) (template : Expr) (name : String) (withContext : Bool)
  | importNames (line : Nat) (template : Expr) (names : List (String × String))
      (withContext : Bool)
  | define (line : Nat) (name : String) (parameters : List Parameter) (body : List Stmt)
  /-- Calls a definition that may call the body back. -/
  | callWith (line : Nat) (parameters : List Parameter) (call : Expr) (body : List Stmt)
  | filtered (line : Nat) (filter : Expr) (body : List Stmt)
  | bind (bindings : List (Target × Expr)) (body : List Stmt)
  | escaping (enabled : Expr) (body : List Stmt)

namespace Target

mutual

/-- The names that an assignment to a target gives a value. -/
def names : Target → List String
  | .name only => [only]
  | .tuple targets => namesOf targets
  | .attribute .. => []

def namesOf : List Target → List String
  | [] => []
  | target :: rest => names target ++ namesOf rest

end

mutual

/-- The names that must have a value before an assignment to a target. -/
def owners : Target → List String
  | .name _ => []
  | .tuple targets => ownersOf targets
  | .attribute owner _ => [owner]

def ownersOf : List Target → List String
  | [] => []
  | target :: rest => owners target ++ ownersOf rest

end

end Target
end DocumentServer.Template
