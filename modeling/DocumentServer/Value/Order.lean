import DocumentServer.Fault
import DocumentServer.Value.Equality

/-!
The order of values: numbers by size, text by code points, lists and tuples by their first
difference, dates by time. Values of other kinds have no order.
-/
namespace DocumentServer.Value
open Calendar

inductive OrderTest where
  | less
  | lessOrEqual
  | greater
  | greaterOrEqual
  deriving DecidableEq

def OrderTest.sign : OrderTest → String
  | .less => "<"
  | .lessOrEqual => "<="
  | .greater => ">"
  | .greaterOrEqual => ">="

def OrderTest.holds (test : OrderTest) (o : Ordering) : Bool :=
  match test with
  | .less => o == .lt
  | .lessOrEqual => o != .gt
  | .greater => o == .gt
  | .greaterOrEqual => o != .lt

def compareChars : List Char → List Char → Ordering
  | [], [] => .eq
  | [], _ :: _ => .lt
  | _ :: _, [] => .gt
  | c :: cs, d :: ds => if c == d then compareChars cs ds else compare c.toNat d.toNat

def compareText (s t : String) : Ordering := compareChars s.toList t.toList

def noOrder (test : OrderTest) (x y : Value) : Fault :=
  .wrongType
    s!"'{test.sign}' not supported between instances of '{x.typeName}' and '{y.typeName}'"

/-- Times with one zone, or none, are ordered as local times, and times with two zones as instants. -/
def timeOrder (t u : DateTime) : Except Fault Ordering :=
  if t.offset == u.offset then .ok (compare t.localMicros u.localMicros)
  else if t.offset.isSome && u.offset.isSome then .ok (compare t.instant u.instant)
  else .error (.wrongType "can't compare offset-naive and offset-aware datetimes")

/-- Values that are not built from others. -/
def testAtoms (test : OrderTest) (x y : Value) : Except Fault Bool :=
  match Numeric.ofValue? x, Numeric.ofValue? y with
  | some a, some b => .ok (((a.ordering? b).map test.holds).getD false)
  | _, _ => match x.text?, y.text? with
    | some s, some t => .ok (test.holds (compareText s t))
    | _, _ => match x, y with
      | .date d, .date e => .ok (test.holds (compare d.ordinal e.ordinal))
      | .dateTime t, .dateTime u => (timeOrder t u).map test.holds
      | .dateTime _, .date _ =>
        .error (.wrongType "can't compare datetime.datetime to datetime.date")
      | .date _, .dateTime _ =>
        .error (.wrongType "can't compare datetime.datetime to datetime.date")
      | .missing m, _ => .error (.undefinedValue m.message)
      | _, .missing m => .error (.undefinedValue m.message)
      | x, y => .error (noOrder test x y)

mutual

def testOrder (test : OrderTest) : Value → Value → Except Fault Bool
  | .list xs, .list ys => testOrderAll test xs ys
  | .tuple xs, .tuple ys => testOrderAll test xs ys
  | x, y => testAtoms test x y

/-- Decided by the first items that differ, or else by the lengths. -/
def testOrderAll (test : OrderTest) : List Value → List Value → Except Fault Bool
  | [], [] => .ok (test.holds .eq)
  | [], _ :: _ => .ok (test.holds .lt)
  | _ :: _, [] => .ok (test.holds .gt)
  | x :: xs, y :: ys => if same x y then testOrderAll test xs ys else testOrder test x y

end

end DocumentServer.Value
