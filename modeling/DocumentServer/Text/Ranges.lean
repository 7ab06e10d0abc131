/-!
Sets of characters given by sorted ranges of code points.
-/
namespace DocumentServer.Text

/-- Disjoint code point ranges in increasing order, both ends included. -/
abbrev Ranges := List (Nat × Nat)

/-- Membership stops at the first range that begins above the code point. -/
def Ranges.covers : Ranges → Nat → Bool
  | [], _ => false
  | (first, last) :: rest, n => if n < first then false else n ≤ last || covers rest n

end DocumentServer.Text
