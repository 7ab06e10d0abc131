import DocumentServer.Calendar.DateTime
import DocumentServer.Number.Decimal

/-!
Values that templates compute with: the properties a caller passes, the constants a template
writes and the things that appear while it runs.
-/
namespace DocumentServer

/-- Why a value is missing; looking into a missing value reports it. -/
structure Missing where
  message : String
  deriving DecidableEq

/-- Things that live in the state of a running template and are named by a number there. -/
inductive Handle where
  | macroDefinition
  /-- The definitions of a block that lie below the one that runs. -/
  | blockChain
  /-- All blocks of a template. -/
  | blockTable
  | attributeBag
  deriving DecidableEq

/-- The parts of a mapping that can be listed. -/
inductive ViewKind where
  | keys
  | items
  | values
  deriving DecidableEq

inductive Value where
  | none
  | bool (b : Bool)
  | int (n : Int)
  | double (x : Double)
  | decimal (d : Decimal)
  | text (s : String)
  /-- Text that is markup already and is not escaped again. -/
  | markup (s : String)
  | list (items : List Value)
  | tuple (items : List Value)
  /-- Entries in the order of insertion, with keys that differ from each other. -/
  | dict (entries : List (Value × Value))
  | date (d : Calendar.Date)
  | dateTime (t : Calendar.DateTime)
  | zone (z : Calendar.Zone)
  | missing (m : Missing)
  | range (start stop step : Int)
  | view (kind : ViewKind) (entries : List (Value × Value))
  /-- A named operation of a value, not yet called. -/
  | method (receiver : Value) (name : String)
  /-- A named operation that belongs to no value. -/
  | function (name : String)
  | handle (kind : Handle) (name : String) (id : Nat)
  /-- The state of a loop at one of its items; `again` names the loop if it may call itself. -/
  | loop (items : List Value) (index depth : Nat) (again : Option Nat)
  /-- What an imported template exports, and its text. -/
  | module (name : String) (exports : List (String × Value)) (body : String)

instance : Inhabited Value := ⟨.none⟩

namespace Value

/-- The name of the kind of a value, as messages give it. -/
def typeName : Value → String
  | .none => "NoneType"
  | .bool _ => "bool"
  | .int _ => "int"
  | .double _ => "float"
  | .decimal _ => "decimal.Decimal"
  | .text _ => "str"
  | .markup _ => "Markup"
  | .list _ => "list"
  | .tuple _ => "tuple"
  | .dict _ => "dict"
  | .date _ => "datetime.date"
  | .dateTime _ => "datetime.datetime"
  | .zone (.fixed ..) => "datetime.timezone"
  | .zone (.region ..) => "zoneinfo.ZoneInfo"
  | .missing _ => "Undefined"
  | .range .. => "range"
  | .view .keys _ => "dict_keys"
  | .view .items _ => "dict_items"
  | .view .values _ => "dict_values"
  | .method .. => "builtin_function_or_method"
  | .function name => if name == "range" || name == "dict" then "type" else "function"
  | .handle .macroDefinition .. => "Macro"
  | .handle .blockChain .. => "BlockReference"
  | .handle .blockTable .. => "TemplateReference"
  | .handle .attributeBag .. => "Namespace"
  | .loop .. => "AsyncLoopContext"
  | .module .. => "TemplateModule"

/-- The number of terms of an arithmetic progression before its end. -/
def rangeLength (start stop step : Int) : Nat :=
  if step > 0 then ((stop - start + step - 1) / step).toNat
  else if step < 0 then ((start - stop - step - 1) / -step).toNat
  else 0

def rangeItems (start stop step : Int) : List Value :=
  (List.range (rangeLength start stop step)).map fun (i : Nat) => .int (start + step * i)

/-- The terms that a listing of a mapping shows. -/
def viewItems (kind : ViewKind) (entries : List (Value × Value)) : List Value :=
  match kind with
  | .keys => entries.map (·.1)
  | .values => entries.map (·.2)
  | .items => entries.map fun entry => .tuple [entry.1, entry.2]

/-- Zero, nothing, empty and missing values count as false. -/
def isTrue : Value → Bool
  | .none => false
  | .bool b => b
  | .int n => n != 0
  | .double x => !x.isZero
  | .decimal d => !d.isZero
  | .text s => !s.isEmpty
  | .markup s => !s.isEmpty
  | .list items => !items.isEmpty
  | .tuple items => !items.isEmpty
  | .dict entries => !entries.isEmpty
  | .view _ entries => !entries.isEmpty
  | .range start stop step => rangeLength start stop step != 0
  | .missing _ => false
  | .date _ => true
  | .dateTime _ => true
  | .zone _ => true
  | .method .. => true
  | .function _ => true
  | .handle .. => true
  | .loop items .. => !items.isEmpty
  | .module .. => true

/-- Text of either kind. -/
def text? : Value → Option String
  | .text s => some s
  | .markup s => some s
  | _ => Option.none

/-- A truth value counts as zero or one. -/
def int? : Value → Option Int
  | .int n => some n
  | .bool b => some (if b then 1 else 0)
  | _ => Option.none

end Value
end DocumentServer
