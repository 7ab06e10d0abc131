import DocumentServer.Template.Filter
import DocumentServer.Template.Tree

/-!
Constant expressions: those whose value is known before a template runs. They read no names and
call nothing, and their evaluation does not fail.
-/
namespace DocumentServer.Template
open Value (same testOrder contains slice unhashable assign)

def BinaryOperator.apply : BinaryOperator → Value → Value → Except Fault Value
  | .add => Value.add
  | .subtract => Value.subtract
  | .multiply => Value.multiply
  | .divide => Value.divide
  | .floorDivide => Value.floorDivide
  | .modulo => Value.modulo
  | .power => Value.power

def UnaryOperator.apply : UnaryOperator → Value → Except Fault Value
  | .positive => Value.positive
  | .negative => Value.negate

def Comparison.holds (c : Comparison) (x y : Value) : Except Fault Bool :=
  match c with
  | .equal => .ok (same x y)
  | .notEqual => .ok (!same x y)
  | .less => testOrder .less x y
  | .lessOrEqual => testOrder .lessOrEqual x y
  | .greater => testOrder .greater x y
  | .greaterOrEqual => testOrder .greaterOrEqual x y
  | .isIn => contains y x
  | .isNotIn => (contains y x).map (!·)

/-- A mapping of the given entries; a later one replaces an earlier one under the same key. -/
def dictOf (entries : List (Value × Value)) : Except Fault Value := do
  let step (all : List (Value × Value)) (entry : Value × Value) :
      Except Fault (List (Value × Value)) :=
    match entry.1.unhashable? with
    | some name => .error (unhashable name)
    | none => .ok (assign entry.1 entry.2 all)
  return .dict (← entries.foldlM step [])

/-- Adds the items of a value to positional arguments, and the entries of another to named ones. -/
def spread (given : Given) (more moreNamed : Option Value) : Except Fault Given := do
  let positional ← match more with
    | some v => (given.positional ++ ·) <$> Value.items v
    | none => pure given.positional
  let named : Association String Value := match moreNamed with
    | some (.dict entries) =>
      Association.merge given.named (entries.map fun entry => (entry.1.render, entry.2))
    | _ => given.named
  return { positional, named }

inductive NotConstant where
  | notConstant
  /-- The expression is constant but has no value, which is an error of the template. -/
  | fault (f : Fault)

/-- An evaluation that fails makes an expression not constant. -/
def orNotConstant {α : Type} (result : Except Fault α) : Except NotConstant α :=
  result.mapError fun _ => .notConstant

/-- Within some expressions every failure counts as not constant. -/
def shielded {α : Type} (result : Except NotConstant α) : Except NotConstant α :=
  result.mapError fun _ => .notConstant

mutual

def constant (e : Environment) (escapes : Bool) : Expr → Except NotConstant Value
  | .constant value => .ok value
  | .name _ => .error .notConstant
  | .tuple items => return .tuple (← constants e escapes items)
  | .list items => return .list (← constants e escapes items)
  | .dict entries => do
    match dictOf (← constantEntries e escapes entries) with
    | .ok v => return v
    | .error f => throw (.fault f)
  | .condition _ test chosen otherwise => do
    if (← constant e escapes test).isTrue then constant e escapes chosen
    else match otherwise with
      | none => .error .notConstant
      | some other => constant e escapes other
  | .both left right => do
    let x ← constant e escapes left
    if x.isTrue then constant e escapes right else return x
  | .either left right => do
    let x ← constant e escapes left
    if x.isTrue then return x else constant e escapes right
  | .not operand => return .bool (!(← shielded (constant e escapes operand)).isTrue)
  | .unary operator operand => do
    orNotConstant (operator.apply (← shielded (constant e escapes operand)))
  | .binary operator left right => do
    let x ← shielded (constant e escapes left)
    let y ← shielded (constant e escapes right)
    orNotConstant (operator.apply x y)
  | .compare first rest => do
    let x ← constant e escapes first
    return .bool (← constantChain e escapes x rest)
  | .concat items => do
    let values ← constants e escapes items
    return .text (String.join (values.map Value.render))
  | .attribute owner name => do
    orNotConstant (attributeOf (← shielded (constant e escapes owner)) name)
  | .item owner key => do
    let x ← shielded (constant e escapes owner)
    orNotConstant (itemOf x (← shielded (constant e escapes key)))
  | .slice owner start stop step => do
    let x ← shielded (constant e escapes owner)
    let start ← shielded (constantOption e escapes start)
    let stop ← shielded (constantOption e escapes stop)
    let step ← shielded (constantOption e escapes step)
    orNotConstant (slice x (start.getD .none) (stop.getD .none) (step.getD .none))
  | .call .. => .error .notConstant
  | .filter subject name arguments =>
    match filters.lookup name with
    | none => .error .notConstant
    | some f =>
      if !f.isEager then .error .notConstant
      else do
        let given ← constantArguments e escapes arguments
        let x ← constant e escapes subject
        orNotConstant (f.run e escapes { given with positional := x :: given.positional })
  | .test subject name arguments =>
    match tests.lookup name with
    | none => .error .notConstant
    | some t => do
      let given ← constantArguments e escapes arguments
      let x ← constant e escapes subject
      return .bool (← orNotConstant (t.run { given with positional := x :: given.positional }))
  | .captured => .error .notConstant

def constants (e : Environment) (escapes : Bool) : List Expr → Except NotConstant (List Value)
  | [] => return []
  | item :: rest => return (← constant e escapes item) :: (← constants e escapes rest)

def constantEntries (e : Environment) (escapes : Bool) :
    List (Expr × Expr) → Except NotConstant (List (Value × Value))
  | [] => return []
  | (key, value) :: rest => do
    let k ← constant e escapes key
    let v ← constant e escapes value
    return (k, v) :: (← constantEntries e escapes rest)

def constantNamed (e : Environment) (escapes : Bool) :
    List (String × Expr) → Except NotConstant (List (String × Value))
  | [] => return []
  | (name, value) :: rest => do
    let v ← constant e escapes value
    return (name, v) :: (← constantNamed e escapes rest)

def constantOption (e : Environment) (escapes : Bool) :
    Option Expr → Except NotConstant (Option Value)
  | none => return none
  | some value => return some (← constant e escapes value)

/-- Whether a chain of comparisons holds from a first value on. -/
def constantChain (e : Environment) (escapes : Bool) (x : Value) :
    List (Comparison × Expr) → Except NotConstant Bool
  | [] => return true
  | (comparison, operand) :: rest => do
    let y ← shielded (constant e escapes operand)
    if ← orNotConstant (comparison.holds x y) then constantChain e escapes y rest
    else return false

def constantArguments (e : Environment) (escapes : Bool) :
    Arguments → Except NotConstant Given
  | .mk positional named more moreNamed => do
    let positional ← constants e escapes positional
    let named ← constantNamed e escapes named
    let more ← shielded (constantOption e escapes more)
    let moreNamed ← shielded (constantOption e escapes moreNamed)
    orNotConstant (spread { positional, named := Association.merge [] named } more moreNamed)

end

mutual

/-- Values that can be written into a template in place of the expression they come from. -/
def isPlain : Value → Bool
  | .none => true
  | .bool _ => true
  | .int _ => true
  | .double _ => true
  | .range .. => true
  | .text _ => true
  | .markup _ => true
  | .list items => allPlain items
  | .tuple items => allPlain items
  | .dict entries => allPlainEntries entries
  | _ => false

def allPlain : List Value → Bool
  | [] => true
  | v :: rest => isPlain v && allPlain rest

def allPlainEntries : List (Value × Value) → Bool
  | [] => true
  | (k, v) :: rest => isPlain k && isPlain v && allPlainEntries rest

end

/-- The plain value of an expression that is constant. -/
def plainConstant? (e : Environment) (escapes : Bool) (x : Expr) : Option Value :=
  match constant e escapes x with
  | .ok v => if isPlain v then some v else none
  | .error _ => none

/-- An expression in whose place its plain value stands if it is constant. -/
def orConstant (e : Environment) (escapes : Bool) (x : Expr) : Expr :=
  match plainConstant? e escapes x with
  | some v => .constant v
  | none => x

mutual

/-- Replaces the constant parts of an expression by their values, the inner ones first. -/
def fold (e : Environment) (escapes : Bool) : Expr → Expr
  | .constant value => .constant value
  | .name name => .name name
  | .tuple items => orConstant e escapes (.tuple (foldAll e escapes items))
  | .list items => orConstant e escapes (.list (foldAll e escapes items))
  | .dict entries => orConstant e escapes (.dict (foldEntries e escapes entries))
  | .condition line test chosen otherwise =>
    orConstant e escapes (.condition line (fold e escapes test) (fold e escapes chosen)
      (foldOption e escapes otherwise))
  | .both left right => orConstant e escapes (.both (fold e escapes left) (fold e escapes right))
  | .either left right =>
    orConstant e escapes (.either (fold e escapes left) (fold e escapes right))
  | .not operand => orConstant e escapes (.not (fold e escapes operand))
  | .unary operator operand => orConstant e escapes (.unary operator (fold e escapes operand))
  | .binary operator left right =>
    orConstant e escapes (.binary operator (fold e escapes left) (fold e escapes right))
  | .compare first rest =>
    orConstant e escapes (.compare (fold e escapes first) (foldChain e escapes rest))
  | .concat items => orConstant e escapes (.concat (foldAll e escapes items))
  | .attribute owner name => orConstant e escapes (.attribute (fold e escapes owner) name)
  | .item owner key => orConstant e escapes (.item (fold e escapes owner) (fold e escapes key))
  | .slice owner start stop step =>
    orConstant e escapes (.slice (fold e escapes owner) (foldOption e escapes start)
      (foldOption e escapes stop) (foldOption e escapes step))
  | .call function arguments => .call (fold e escapes function) (foldArguments e escapes arguments)
  | .filter subject name arguments =>
    orConstant e escapes
      (.filter (fold e escapes subject) name (foldArguments e escapes arguments))
  | .test subject name arguments =>
    orConstant e escapes (.test (fold e escapes subject) name (foldArguments e escapes arguments))
  | .captured => .captured

def foldAll (e : Environment) (escapes : Bool) : List Expr → List Expr
  | [] => []
  | item :: rest => fold e escapes item :: foldAll e escapes rest

def foldEntries (e : Environment) (escapes : Bool) : List (Expr × Expr) → List (Expr × Expr)
  | [] => []
  | (key, value) :: rest =>
    (fold e escapes key, fold e escapes value) :: foldEntries e escapes rest

def foldNamed (e : Environment) (escapes : Bool) : List (String × Expr) → List (String × Expr)
  | [] => []
  | (name, value) :: rest => (name, fold e escapes value) :: foldNamed e escapes rest

def foldChain (e : Environment) (escapes : Bool) :
    List (Comparison × Expr) → List (Comparison × Expr)
  | [] => []
  | (comparison, operand) :: rest =>
    (comparison, fold e escapes operand) :: foldChain e escapes rest

def foldOption (e : Environment) (escapes : Bool) : Option Expr → Option Expr
  | none => none
  | some x => some (fold e escapes x)

def foldArguments (e : Environment) (escapes : Bool) : Arguments → Arguments
  | .mk positional named more moreNamed =>
    .mk (foldAll e escapes positional) (foldNamed e escapes named) (foldOption e escapes more)
      (foldOption e escapes moreNamed)

end

end DocumentServer.Template
