/-!
# Sets of characters as ranges

The character properties that text operations consult are sets of code points.  A set is given by
the ranges it consists of, in increasing order.
-/

namespace Homoiconic

/-- Ranges of code points, both ends included, in increasing order. -/
abbrev CharRanges := List (Nat × Nat)

/-- Whether a character lies in one of the ranges. -/
def CharRanges.contains : CharRanges → Char → Bool
  | [], _ => false
  | (first, last) :: rest, c => (first ≤ c.toNat && c.toNat ≤ last) || CharRanges.contains rest c

end Homoiconic
