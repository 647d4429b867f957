import Delimited.Text.Basic

/-!
# Sets of code points given by their boundaries

A character property is a union of ranges. It is stored as the ascending list of the points
where membership changes: the first is in the set, the second is the first one past it, and so
on. A final range may stay open.
-/

namespace Delimited

/-- The ascending boundaries of a set: members run from each boundary of even index to the one
before the next boundary. -/
structure CodePointSet where
  /-- Where membership changes, in ascending order. -/
  boundaries : List Nat

namespace CodePointSet

/-- Membership of `n`, where `inside` tells if the points before the first boundary are in. -/
def memberFrom (n : Nat) : Bool → List Nat → Bool
  | inside, [] => inside
  | inside, b :: rest => if n < b then inside else memberFrom n (!inside) rest

/-- Is the code point in the set? -/
def contains (s : CodePointSet) (c : CodePoint) : Bool := memberFrom c.val false s.boundaries

end CodePointSet

end Delimited
