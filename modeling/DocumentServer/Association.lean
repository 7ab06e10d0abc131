/-!
Association lists that keep the order of insertion. Writing to a key that is present replaces its
value in place.
-/
namespace DocumentServer

abbrev Association (κ : Type u) (α : Type v) := List (κ × α)

namespace Association

variable {κ : Type u} {α : Type v} [BEq κ]

def get? (key : κ) : Association κ α → Option α
  | [] => none
  | (k, v) :: rest => if k == key then some v else get? key rest

def contains (key : κ) (entries : Association κ α) : Bool := (get? key entries).isSome

def put (key : κ) (value : α) : Association κ α → Association κ α
  | [] => [(key, value)]
  | (k, v) :: rest => if k == key then (k, value) :: rest else (k, v) :: put key value rest

def drop (key : κ) (entries : Association κ α) : Association κ α :=
  entries.filter fun entry => !(entry.1 == key)

def keys (entries : Association κ α) : List κ := entries.map (·.1)

def values (entries : Association κ α) : List α := entries.map (·.2)

/-- Writes all entries of the second list into the first, in order. -/
def merge (entries overrides : Association κ α) : Association κ α :=
  overrides.foldl (fun acc entry => put entry.1 entry.2 acc) entries

end Association
end DocumentServer
