import Highlight.Text.Bisect

/-!
# Tables of character ranges

A property of characters is given by the ranges of code points that have it, first and last
included, in increasing order.
-/

namespace Highlight

/-- Ranges of code points, ends included, in increasing order. -/
abbrev Ranges := Array (Nat × Nat)

namespace Ranges

/-- On which side of the code point `n` a range lies. -/
def side (n : Nat) (range : Nat × Nat) : Ordering :=
  if range.2 < n then .lt else if n < range.1 then .gt else .eq

/-- Whether a character lies in one of the ranges. -/
def contains (ranges : Ranges) (c : Char) : Bool :=
  bisect (side c.toNat) ranges 0 ranges.size

end Ranges

end Highlight
