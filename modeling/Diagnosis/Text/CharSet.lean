/-!
# Sets of characters

A large set of characters is written as the sorted list of its *bounds*: the code points at which
membership changes, beginning with the first member. A code point belongs to the set exactly when an
odd number of bounds is at most that code point, and `rank` finds that number by halving.
-/

namespace Diagnosis.Text

/-- How many of the bounds from `lo` up to `hi` on are at most `n`, counted from the start. -/
def rankBetween (bounds : Array Nat) (n : Nat) : Nat → Nat → Nat → Nat
  | 0, lo, _ => lo
  | fuel + 1, lo, hi =>
    if lo < hi then
      let mid := (lo + hi) / 2
      if bounds.getD mid 0 ≤ n then rankBetween bounds n fuel (mid + 1) hi
      else rankBetween bounds n fuel lo mid
    else lo

/-- How many bounds are at most `n`. Sixteen halvings do for every table here. -/
def rank (bounds : Array Nat) (n : Nat) : Nat := rankBetween bounds n 16 0 bounds.size

/-- Whether a character belongs to the set with the given bounds. -/
def isWithin (bounds : Array Nat) (c : Char) : Bool := rank bounds c.toNat % 2 = 1

end Diagnosis.Text
