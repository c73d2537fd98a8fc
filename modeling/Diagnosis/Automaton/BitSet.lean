/-!
# Small sets of numbers

A `BitSet` is a set of natural numbers below 192, one bit each. Terminals and classes of characters
are such small numbers, and the construction of the automaton joins and compares sets of them very
often.
-/

namespace Diagnosis.Automaton

/-- A set of numbers below 192. -/
structure BitSet where
  /-- The numbers below 64. -/
  low : UInt64 := 0
  /-- The numbers from 64 up to 127. -/
  middle : UInt64 := 0
  /-- The numbers from 128 up to 191. -/
  high : UInt64 := 0
  deriving BEq, DecidableEq, Hashable, Inhabited, Repr

namespace BitSet

/-- How many numbers a set can tell apart. -/
def capacity : Nat := 192

/-- The empty set. -/
def empty : BitSet := {}

/-- The bit of a number in its word. -/
def bit (i : Nat) : UInt64 := (1 : UInt64) <<< (UInt64.ofNat (i % 64))

/-- The set with one more number. Larger numbers are left out. -/
def insert (s : BitSet) (i : Nat) : BitSet :=
  if i < 64 then { s with low := s.low ||| bit i }
  else if i < 128 then { s with middle := s.middle ||| bit i }
  else if i < 192 then { s with high := s.high ||| bit i }
  else s

/-- Whether a number belongs to the set. -/
def contains (s : BitSet) (i : Nat) : Bool :=
  let word := if i < 64 then s.low else if i < 128 then s.middle else if i < 192 then s.high else 0
  word &&& bit i != 0

/-- The numbers of either set. -/
def union (s t : BitSet) : BitSet := ⟨s.low ||| t.low, s.middle ||| t.middle, s.high ||| t.high⟩

/-- The numbers of both sets. -/
def inter (s t : BitSet) : BitSet := ⟨s.low &&& t.low, s.middle &&& t.middle, s.high &&& t.high⟩

/-- The numbers of the first set alone. -/
def diff (s t : BitSet) : BitSet :=
  ⟨s.low &&& ~~~t.low, s.middle &&& ~~~t.middle, s.high &&& ~~~t.high⟩

/-- Whether the set has no members. -/
def isEmpty (s : BitSet) : Bool := s.low == 0 && s.middle == 0 && s.high == 0

/-- Whether two sets have a member in common. -/
def meets (s t : BitSet) : Bool := !(s.inter t).isEmpty

/-- Whether all members of the first set belong to the second. -/
def subset (s t : BitSet) : Bool := (s.diff t).isEmpty

/-- The set of the given numbers. -/
def ofList (xs : List Nat) : BitSet := xs.foldl insert empty

/-- The members, in order. -/
def toList (s : BitSet) : List Nat :=
  if s.isEmpty then [] else (List.range capacity).filter s.contains

end BitSet

end Diagnosis.Automaton
