import DocumentServer.Value.Basic

/-!
Equality and order of values. Numbers of all kinds are compared by their exact value, text of both
kinds by its characters, mappings without regard to order.
-/
namespace DocumentServer

/-- A number of any kind. -/
inductive Numeric where
  | int (n : Int)
  | double (x : Double)
  | decimal (d : Decimal)

namespace Numeric

def ofValue? : Value → Option Numeric
  | .bool b => some (.int (if b then 1 else 0))
  | .int n => some (.int n)
  | .double x => some (.double x)
  | .decimal d => some (.decimal d)
  | _ => none

def toDecimal : Numeric → Decimal
  | .int n => .ofInt n
  | .double x => .ofDouble x
  | .decimal d => d

def ordering? (x y : Numeric) : Option Ordering :=
  match x, y with
  | .int m, .int n => some (compare m n)
  | .double a, .double b => a.ordering? b
  | x, y => x.toDecimal.ordering? y.toDecimal

end Numeric

namespace Value
open Calendar

/-- Times with one zone, or none, are equal when they are the same local time, and times with two
zones when they are the same instant. -/
def sameTime (t u : DateTime) : Bool :=
  if t.offset == u.offset then t.localMicros == u.localMicros
  else t.offset.isSome && u.offset.isSome && t.instant == u.instant

mutual

def same : Value → Value → Bool
  | .none, .none => true
  | .text s, w => w.text? == some s
  | .markup s, w => w.text? == some s
  | .list xs, .list ys => sameAll xs ys
  | .tuple xs, .tuple ys => sameAll xs ys
  | .dict es, .dict fs => es.length == fs.length && sameEntries es fs
  | .date d, .date e => d == e
  | .dateTime t, .dateTime u => sameTime t u
  | .zone y, .zone z => y.same z
  | .missing _, .missing _ => true
  | .range a b c, .range d e f => rangeLength a b c == rangeLength d e f
      && (rangeLength a b c == 0 || (a == d && (rangeLength a b c == 1 || c == f)))
  | .function f, .function g => f == g
  | .handle k _ i, .handle l _ j => k == l && i == j
  | .module m _ _, .module n _ _ => m == n
  | v, w => match Numeric.ofValue? v, Numeric.ofValue? w with
    | some x, some y => x.ordering? y == some .eq
    | _, _ => false

def sameAll : List Value → List Value → Bool
  | [], [] => true
  | x :: xs, y :: ys => same x y && sameAll xs ys
  | _, _ => false

/-- Every entry of the first mapping is an entry of the second. -/
def sameEntries : List (Value × Value) → List (Value × Value) → Bool
  | [], _ => true
  | (k, v) :: rest, others => sameIn k v others && sameEntries rest others

def sameIn (k v : Value) : List (Value × Value) → Bool
  | [] => false
  | (l, w) :: rest => if same k l then same v w else sameIn k v rest

end

/-- The entry of a mapping under an equal key. -/
def lookup? (key : Value) : List (Value × Value) → Option Value
  | [] => Option.none
  | (k, v) :: rest => if same k key then some v else lookup? key rest

/-- Sets the value under a key; the key that is present stays. -/
def assign (key value : Value) : List (Value × Value) → List (Value × Value)
  | [] => [(key, value)]
  | (k, v) :: rest => if same k key then (k, value) :: rest else (k, v) :: assign key value rest

mutual

/-- The kind of the first part that cannot be a key, if any. -/
def unhashable? : Value → Option String
  | .list _ => some "list"
  | .dict _ => some "dict"
  | .tuple items => unhashableIn? items
  | .view .keys _ => some "dict_keys"
  | .view .items _ => some "dict_items"
  | _ => Option.none

def unhashableIn? : List Value → Option String
  | [] => Option.none
  | x :: xs => (unhashable? x).or (unhashableIn? xs)

end

end Value
end DocumentServer
