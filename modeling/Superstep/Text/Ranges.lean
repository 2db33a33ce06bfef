/-! # Sets of characters as ranges of code points

A property of characters is given as the increasing list of the inclusive
ranges of code points that have it.
-/

namespace Superstep.Text

/-- Inclusive ranges of code points, in increasing order. -/
abbrev Ranges := List (Nat × Nat)

namespace Ranges

/-- Whether a code point lies in one of the ranges. The search stops at the
    first range that starts above it. -/
def hasCode : Ranges → Nat → Bool
  | [], _ => false
  | (low, high) :: rest, code =>
      if code < low then false
      else if code ≤ high then true
      else hasCode rest code

def has (ranges : Ranges) (c : Char) : Bool :=
  ranges.hasCode c.toNat

end Ranges

end Superstep.Text
