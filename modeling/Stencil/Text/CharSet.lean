/-!
# Stencil.Text.CharSet — sets of characters

A set is written as the sorted list of the codes at which membership changes: the first
code that is in the set, the first behind it that is not, and so on. Such a list is half
as long as one of ranges, and it cannot hold ranges that overlap.
-/

namespace Stencil.Text

/-- A set of characters. -/
structure CharSet where
  /-- The codes at which membership changes, ascending. -/
  boundaries : List Nat

namespace CharSet

/-- Whether a code lies behind an odd number of the boundaries. -/
def isBehindOdd (n : Nat) : List Nat → Bool
  | [] => false
  | b :: bs => if n < b then false else !isBehindOdd n bs

/-- Whether a character is in the set. -/
def contains (s : CharSet) (c : Char) : Bool := isBehindOdd c.toNat s.boundaries

end CharSet

end Stencil.Text
