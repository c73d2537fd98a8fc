/-!
# Character classes

A `CharClass` is a set of code points, written as ranges that are sorted, disjoint and never
adjacent. The form is canonical, so two classes with the same members are equal.
-/

namespace Diagnosis.Grammar

/-- A set of code points. -/
structure CharClass where
  /-- The ranges, each with its first and its last member. -/
  ranges : List (Nat × Nat)
  deriving Repr, BEq, DecidableEq, Inhabited

namespace CharClass

/-- The last code point. -/
def lastCode : Nat := 0x10FFFF

/-- Joins sorted ranges that overlap or touch. -/
def join : List (Nat × Nat) → List (Nat × Nat)
  | [] => []
  | (a, b) :: rest =>
    match join rest with
    | [] => [(a, b)]
    | (c, d) :: more => if c ≤ b + 1 then (a, max b d) :: more else (a, b) :: (c, d) :: more

/-- The class with the given ranges. -/
def ofRanges (ranges : List (Nat × Nat)) : CharClass :=
  ⟨join (ranges.mergeSort fun a b => a.1 ≤ b.1)⟩

/-- The class of the characters of a text. -/
def anyOf (s : String) : CharClass := ofRanges (s.toList.map fun c => (c.toNat, c.toNat))

/-- The class of the characters from `a` to `b`. -/
def range (a b : Char) : CharClass := ⟨[(a.toNat, b.toNat)]⟩

/-- The members of either class. -/
def union (x y : CharClass) : CharClass := ofRanges (x.ranges ++ y.ranges)

/-- The ranges between the given ones, from the code point `start` on. -/
def gaps (start : Nat) : List (Nat × Nat) → List (Nat × Nat)
  | [] => if start ≤ lastCode then [(start, lastCode)] else []
  | (a, b) :: rest => (if start < a then [(start, a - 1)] else []) ++ gaps (b + 1) rest

/-- The code points that are no members. -/
def complement (x : CharClass) : CharClass := ⟨gaps 0 x.ranges⟩

/-- The class of the characters that a text does not hold. -/
def noneOf (s : String) : CharClass := (anyOf s).complement

/-- Whether a code point is a member. -/
def contains (x : CharClass) (n : Nat) : Bool := x.ranges.any fun (a, b) => a ≤ n && n ≤ b

/-- The characters of either class. -/
instance : Append CharClass := ⟨union⟩

/-- The decimal digits of ASCII. -/
def digit : CharClass := range '0' '9'

/-- The hexadecimal digits. -/
def hexDigit : CharClass := digit ++ range 'a' 'f' ++ range 'A' 'F'

/-- The ASCII blanks, line ends included. -/
def whiteSpace : CharClass := anyOf " \t\n\x0b\x0c\r"

/-- The space separators of Unicode. -/
def spaceSeparator : CharClass :=
  ofRanges [(0x20, 0x20), (0xA0, 0xA0), (0x1680, 0x1680), (0x2000, 0x200A), (0x202F, 0x202F),
    (0x205F, 0x205F), (0x3000, 0x3000)]

/-- All characters but the line feed. -/
def notLineFeed : CharClass := noneOf "\n"

end CharClass

end Diagnosis.Grammar
