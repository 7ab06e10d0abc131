import DocumentServer.Association
import DocumentServer.Number.Double
import DocumentServer.Value.Basic

/-!
JSON values. Objects keep the order of their members; integers and fractions are told apart.
-/
namespace DocumentServer

inductive Json where
  | null
  | bool (b : Bool)
  | int (n : Int)
  | double (x : Double)
  | text (s : String)
  | array (items : List Json)
  | object (members : List (String × Json))
  deriving Inhabited

namespace Json

mutual

/-- The template value with the same content. -/
def toValue : Json → Value
  | .null => .none
  | .bool b => .bool b
  | .int n => .int n
  | .double x => .double x
  | .text s => .text s
  | .array items => .list (toValues items)
  | .object members => .dict (toEntries members)

def toValues : List Json → List Value
  | [] => []
  | item :: rest => toValue item :: toValues rest

def toEntries : List (String × Json) → List (Value × Value)
  | [] => []
  | (key, item) :: rest => (.text key, toValue item) :: toEntries rest

end

mutual

/-- Whether an infinite number or a not-a-number occurs; such a value has no JSON text. -/
def hasNonFinite : Json → Bool
  | .double x => !x.isFinite
  | .array items => anyNonFinite items
  | .object members => memberNonFinite members
  | _ => false

def anyNonFinite : List Json → Bool
  | [] => false
  | item :: rest => hasNonFinite item || anyNonFinite rest

def memberNonFinite : List (String × Json) → Bool
  | [] => false
  | (_, item) :: rest => hasNonFinite item || memberNonFinite rest

end

/-- The member of an object. -/
def member? (key : String) : Json → Option Json
  | .object members => Association.get? key members
  | _ => none

end Json
end DocumentServer
