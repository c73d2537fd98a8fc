/-!
# Searching and replacing

Whether a text occurs in another one, where, and putting something else in its place. Occurrences
are found from left to right and do not overlap.
-/

namespace Diagnosis.Text

variable {α : Type} [BEq α]

/-- Whether one list begins with another. -/
def startsWith (start : List α) (s : List α) : Bool := start.isPrefixOf s

/-- Whether one list occurs in another. -/
def occurs (part : List α) : List α → Bool
  | [] => part.isEmpty
  | c :: rest => part.isPrefixOf (c :: rest) || occurs part rest

/-- The place of the first occurrence of an item. -/
def indexOf? (x : α) (s : List α) : Option Nat := s.findIdx? (· == x)

/-- The place of the last occurrence of an item. -/
def lastIndexOf? (x : α) (s : List α) : Option Nat :=
  (s.reverse.findIdx? (· == x)).map fun i => s.length - 1 - i

/-- What comes before the first occurrence of a list and what comes after it. -/
def splitOn? (part : List α) : List α → Option (List α × List α)
  | [] => if part.isEmpty then some ([], []) else none
  | c :: rest =>
    if part.isPrefixOf (c :: rest) then some ([], (c :: rest).drop part.length)
    else (splitOn? part rest).map fun (before, after) => (c :: before, after)

/-- A list with `new` in place of each occurrence of `old`. `skip` items still belong to the last
occurrence. -/
def replaceFrom (old new : List α) : Nat → List α → List α
  | _, [] => []
  | skip + 1, _ :: rest => replaceFrom old new skip rest
  | 0, c :: rest =>
    if old.isPrefixOf (c :: rest) then new ++ replaceFrom old new (old.length - 1) rest
    else c :: replaceFrom old new 0 rest

/-- A list with `new` in place of each occurrence of `old`, which is not empty. -/
def replaceAll (old new s : List α) : List α := replaceFrom old new 0 s

/-- Whether a string occurs in another one. -/
def stringOccurs (part s : String) : Bool := occurs part.toList s.toList

end Diagnosis.Text
