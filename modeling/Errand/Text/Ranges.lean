/-!
# Properties of characters as tables of ranges

A property of characters that a standard lists, rather than computes, is kept as a table of closed
ranges of code points in ascending order. `covers` looks a character up by halving the table.
-/

set_option autoImplicit false

namespace Errand.Text

/-- Closed ranges of code points, ascending and disjoint. -/
abbrev Ranges := Array (Nat × Nat)

namespace Ranges

/-- Halving search between two indices, for at most `fuel` halvings. -/
def search (table : Ranges) (point : Nat) : Nat → Nat → Nat → Bool
  | 0, _, _ => false
  | fuel + 1, low, high =>
    if low < high then
      let middle := (low + high) / 2
      let range := table.getD middle (0, 0)
      if point < range.1 then search table point fuel low middle
      else if range.2 < point then search table point fuel (middle + 1) high
      else true
    else false

/-- Whether a code point lies in one of the ranges. Sixteen halvings exhaust any table of a
property of characters. -/
def covers (table : Ranges) (c : Char) : Bool :=
  search table c.toNat 16 0 table.size

end Ranges

end Errand.Text
