/-!
# Lines

Two notions of a line are in use.

* Syntax trees and linter messages number the pieces between line feeds (`splitAt`), so a text
  that ends in a line feed has an empty last line.
* Tool output and configuration files are read line by line in the sense of `lines`: a line ends at
  any of the Unicode line boundaries, a carriage return before a line feed belongs to it, and there
  is no empty line after the last boundary. `linesWithEnds` keeps the boundaries, so its
  concatenation is the text.
-/

namespace Diagnosis.Text

variable {α : Type}

/-- The pieces between the items equal to `sep`, the empty ones included. -/
def splitAt [BEq α] (sep : α) : List α → List (List α)
  | [] => [[]]
  | x :: rest =>
    match splitAt sep rest with
    | [] => [[]]
    | line :: more => if x == sep then [] :: line :: more else (x :: line) :: more

/-- Whether a character ends a line of tool output. -/
def isLineBoundary (c : Char) : Bool :=
  let n := c.toNat
  (10 ≤ n && n ≤ 13) || (0x1C ≤ n && n ≤ 0x1E) || n = 0x85 || n = 0x2028 || n = 0x2029

/-- A line and the boundary that ends it; empty for an unfinished last line. -/
structure EndedLine where
  /-- The characters before the boundary. -/
  body : List Char
  /-- The boundary. -/
  ending : List Char
  deriving Repr, DecidableEq

/-- Puts a character in front of the first line. -/
def EndedLine.cons (c : Char) : List EndedLine → List EndedLine
  | [] => [⟨[c], []⟩]
  | l :: ls => ⟨c :: l.body, l.ending⟩ :: ls

/-- The lines of a text with their boundaries. -/
def linesWithEnds : List Char → List EndedLine
  | [] => []
  | '\r' :: '\n' :: rest => ⟨[], ['\r', '\n']⟩ :: linesWithEnds rest
  | c :: rest =>
    if isLineBoundary c then ⟨[], [c]⟩ :: linesWithEnds rest
    else EndedLine.cons c (linesWithEnds rest)

/-- The lines of a text without their boundaries. -/
def lines (s : List Char) : List (List Char) := (linesWithEnds s).map (·.body)

end Diagnosis.Text
