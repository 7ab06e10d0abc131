import DocumentServer.Fault
import DocumentServer.Value.Printer
import DocumentServer.Value.Equality

/-!
Values as sequences: their items, membership, positions and slices.
-/
namespace DocumentServer.Value

def letters (s : String) : List Value := s.toList.map fun c => .text (toString c)

/-- The items that a loop over a value passes, if it can be looped over. -/
def items? : Value → Option (List Value)
  | .text s => some (letters s)
  | .markup s => some (letters s)
  | .list items => some items
  | .tuple items => some items
  | .dict entries => some (entries.map (·.1))
  | .range start stop step => some (rangeItems start stop step)
  | .view kind entries => some (viewItems kind entries)
  | .missing _ => some []
  | _ => Option.none

def items (v : Value) : Except Fault (List Value) :=
  match items? v with
  | some items => .ok items
  | Option.none => .error (.wrongType s!"'{v.typeName}' object is not iterable")

/-- The number of items of a value, if it has one. -/
def size? (v : Value) : Option Nat :=
  match v with
  | .text s => some s.length
  | .markup s => some s.length
  | .range start stop step => some (rangeLength start stop step)
  | v => (items? v).map List.length

def size (v : Value) : Except Fault Nat :=
  match size? v with
  | some n => .ok n
  | Option.none => .error (.wrongType s!"object of type '{v.typeName}' has no len()")

/-! ## Membership -/

/-- Whether a word occurs in a text. -/
def occursIn (word : List Char) : List Char → Bool
  | [] => word.isEmpty
  | c :: rest => word.isPrefixOf (c :: rest) || occursIn word rest

def unhashable (name : String) : Fault := .wrongType s!"unhashable type: '{name}'"

/-- Whether a value is among the keys of a mapping. -/
def isKey (x : Value) (entries : List (Value × Value)) : Except Fault Bool :=
  match x.unhashable? with
  | some name => .error (unhashable name)
  | Option.none => .ok (lookup? x entries).isSome

def contains (container x : Value) : Except Fault Bool :=
  match container, container.text? with
  | _, some s => match x.text? with
    | some word => .ok (occursIn word.toList s.toList)
    | Option.none =>
      .error (.wrongType s!"'in <string>' requires string as left operand, not {x.typeName}")
  | .dict entries, _ => isKey x entries
  | .view .keys entries, _ => isKey x entries
  | container, _ => match items? container with
    | some items => .ok (items.any (same · x))
    | Option.none => .error (.wrongType s!"argument of type '{container.typeName}' is not iterable")

/-! ## Positions -/

/-- A position counted from the front, or from the end if it is negative. -/
def position? (length : Nat) (n : Int) : Option Nat :=
  let n := if n < 0 then n + length else n
  if 0 ≤ n && n < length then some n.toNat else Option.none

def itemAt? {α : Type} (items : List α) (n : Int) : Option α :=
  (position? items.length n).bind (items[·]?)

/-- What stands in a value at a position or under a key. -/
def lookUp? (owner key : Value) : Option Value :=
  match owner, key.int? with
  | .dict entries, _ => if key.unhashable?.isSome then Option.none else lookup? key entries
  | .text s, some n => (itemAt? s.toList n).map fun c => .text (toString c)
  | .markup s, some n => (itemAt? s.toList n).map fun c => .markup (toString c)
  | .list items, some n => itemAt? items n
  | .tuple items, some n => itemAt? items n
  | .range start stop step, some n => itemAt? (rangeItems start stop step) n
  | _, _ => Option.none

/-! ## Slices -/

def badSliceIndex : Fault :=
  .wrongType "slice indices must be integers or None or have an __index__ method"

/-- A bound of a slice; nothing stands for the end of the sequence. -/
def sliceIndex (v : Value) : Except Fault (Option Int) :=
  match v, v.int? with
  | .none, _ => .ok Option.none
  | _, some n => .ok (some n)
  | _, Option.none => .error badSliceIndex

/-- A bound brought between two limits, counted from the end if it is negative. -/
def clamp (length : Nat) (low high n : Int) : Int :=
  let n := if n < 0 then n + length else n
  max low (min high n)

/-- The first position that a slice takes, and the one at which it ends. -/
def sliceBounds (length : Nat) (start stop : Option Int) (step : Int) : Int × Int :=
  let (low, high) : Int × Int := if step > 0 then (0, length) else (-1, (length : Int) - 1)
  let first := match start with
    | some n => clamp length low high n
    | Option.none => if step > 0 then low else high
  let last := match stop with
    | some n => clamp length low high n
    | Option.none => if step > 0 then high else low
  (first, last)

/-- The items at the positions of a progression. -/
def pick {α : Type} (items : List α) (bounds : Int × Int) (step : Int) : List α :=
  let items := items.toArray
  (List.range (rangeLength bounds.1 bounds.2 step)).filterMap fun (i : Nat) =>
    items[(bounds.1 + step * i).toNat]?

def notSubscriptable (v : Value) : Fault := .wrongType s!"'{v.typeName}' object is not subscriptable"

/-- The part of a sequence between two bounds. -/
def sliceOf (v : Value) (start stop : Option Int) (step : Int) : Except Fault Value :=
  let bounds (length : Nat) := sliceBounds length start stop step
  match v with
  | .text s => .ok (.text (.ofList (pick s.toList (bounds s.length) step)))
  | .markup s => .ok (.markup (.ofList (pick s.toList (bounds s.length) step)))
  | .list items => .ok (.list (pick items (bounds items.length) step))
  | .tuple items => .ok (.tuple (pick items (bounds items.length) step))
  | .range a b c =>
    let (first, last) := bounds (rangeLength a b c)
    .ok (.range (a + c * first) (a + c * last) (c * step))
  | .dict _ => .error (unhashable "slice")
  | .missing m => .error (.undefinedValue m.message)
  | v => .error (notSubscriptable v)

def isSliceable : Value → Bool
  | .text _ => true
  | .markup _ => true
  | .list _ => true
  | .tuple _ => true
  | .range .. => true
  | _ => false

def slice (v start stop step : Value) : Except Fault Value := do
  if !isSliceable v then return ← sliceOf v Option.none Option.none 1
  let step := (← sliceIndex step).getD 1
  if step == 0 then throw (.wrongValue "slice step cannot be zero")
  sliceOf v (← sliceIndex start) (← sliceIndex stop) step

end DocumentServer.Value
