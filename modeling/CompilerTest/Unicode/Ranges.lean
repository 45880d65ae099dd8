/-!
# Sets of code points

A set of code points is stored as the increasing list of the points at which membership flips: the
set holds `c` exactly if an odd number of flips is at or below `c`. Membership is then a binary
search in one flat table.
-/

namespace CompilerTest.Unicode

/-- A set of code points, as the increasing points at which membership flips. -/
structure Ranges where
  /-- The first point inside, the first point outside again, and so on. -/
  flips : Array Nat

namespace Ranges

/-- The number of entries of `flips` between `lo` and `hi` that are at or below `c`, plus `lo`, by
bisection. `fuel` bounds the number of halvings. -/
def bisect (flips : Array Nat) (c : Nat) : Nat → Nat → Nat → Nat
  | 0, lo, _ => lo
  | fuel + 1, lo, hi =>
    if lo < hi then
      let mid := (lo + hi) / 2
      if flips.getD mid 0 ≤ c then bisect flips c fuel (mid + 1) hi else bisect flips c fuel lo mid
    else lo

/-- Whether the set holds the code point `c`. -/
def contains (r : Ranges) (c : Nat) : Bool :=
  bisect r.flips c (r.flips.size + 1) 0 r.flips.size % 2 == 1

end Ranges

end CompilerTest.Unicode
