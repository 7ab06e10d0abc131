import DocumentServer.Json.Writer
import DocumentServer.Value.Order
import DocumentServer.Value.Printer

/-!
The JSON of template values. The members of an object are in the order of their keys. Dates become
text in ISO form, and all else that JSON does not know becomes text. A missing value has no JSON: to
ask it whether it is a date is to look into it.
-/
namespace DocumentServer
open Value (testOrder)

/-- Refuses keys next to each other that have no order. -/
def checkKeyOrder : List (Value × α) → Except Fault Unit
  | (x, _) :: (y, v) :: rest => do
    let _ ← testOrder .less y x
    checkKeyOrder ((y, v) :: rest)
  | _ => .ok ()

def isKeyBefore (x y : Value × α) : Bool :=
  match testOrder .less y.1 x.1 with
  | .ok less => !less
  | .error _ => true

/-- Entries in the order of their keys. -/
def sortByKey (entries : List (Value × α)) : Except Fault (List (Value × α)) := do
  checkKeyOrder entries
  return entries.mergeSort isKeyBefore

namespace Json

/-- The name that a key has as a member of an object. -/
def memberName (key : Value) : Except Fault String :=
  match key with
  | .text s => .ok s
  | .markup s => .ok s
  | .none => .ok "null"
  | .bool b => .ok (if b then "true" else "false")
  | .int n => .ok (.ofList (intChars n))
  | .double x => .ok (.ofList (doubleChars x))
  | key => .error (.wrongType s!"keys must be str, int, float, bool or None, not {key.typeName}")

/-- An object of entries in the order of their keys. -/
def objectOf (entries : List (Value × Except Fault Json)) : Except Fault Json := do
  let members ← (← sortByKey entries).mapM fun (key, item) => do
    let name ← memberName key
    return (name, ← item)
  return .object members

mutual

def ofValue : Value → Except Fault Json
  | .none => .ok .null
  | .bool b => .ok (.bool b)
  | .int n => .ok (.int n)
  | .double x => .ok (.double x)
  | .text s => .ok (.text s)
  | .markup s => .ok (.text s)
  | .list items => (ofItems items).map .array
  | .tuple items => (ofItems items).map .array
  | .dict entries => objectOf (ofEntries entries)
  | .date d => .ok (.text (Calendar.Iso.date d))
  | .dateTime t => .ok (.text (Calendar.Iso.dateTime t))
  | .missing m => .error (.undefinedValue m.message)
  | v => .ok (.text v.render)

def ofItems : List Value → Except Fault (List Json)
  | [] => .ok []
  | item :: rest => do
    let first ← ofValue item
    return first :: (← ofItems rest)

def ofEntries : List (Value × Value) → List (Value × Except Fault Json)
  | [] => []
  | (key, item) :: rest => (key, ofValue item) :: ofEntries rest

end

end Json
end DocumentServer
