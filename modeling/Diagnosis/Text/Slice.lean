/-!
# Slices

A slice is named by two offsets. An offset below zero counts from the end, and one that lies past
either end means that end; a slice whose end does not come after its start is empty.
-/

namespace Diagnosis.Text

variable {α : Type}

/-- The place in `0 … length` that a signed offset names. -/
def clampOffset (length : Nat) (i : Int) : Nat :=
  if i < 0 then (length + i).toNat else min i.toNat length

/-- The items from `start` up to but not including `stop`. -/
def slice (xs : List α) (start stop : Int) : List α :=
  let a := clampOffset xs.length start
  let b := clampOffset xs.length stop
  (xs.drop a).take (b - a)

/-- The items from `start` on. -/
def sliceFrom (xs : List α) (start : Int) : List α := xs.drop (clampOffset xs.length start)

/-- The items between two offsets of which neither is below zero. -/
def between (xs : List α) (start stop : Nat) : List α := (xs.drop start).take (stop - start)

end Diagnosis.Text
