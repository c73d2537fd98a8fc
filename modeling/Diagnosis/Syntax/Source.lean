import Diagnosis.Text.Lines
import Diagnosis.Text.Slice
import Diagnosis.Text.Utf8
import Diagnosis.Text.Blank
import Diagnosis.Syntax.Tree

/-!
# Source text

A `Source` is a text as bytes, cut into lines at the line feeds. It converts between the three ways
to name a place:

* an offset counts bytes from the start of the text;
* a `Point` counts lines, and bytes from the start of the line, both from zero;
* a `Place` counts lines, and characters from the start of the line, both from one.

A character that a point cuts counts as one character, since a cut stretch reads as one replacement
character.
-/

namespace Diagnosis.Syntax

open Diagnosis.Text

/-- The byte that ends a line. -/
def lineFeed : UInt8 := 10

/-- A place as syntax trees count: from zero, in bytes. -/
structure Point where
  /-- The number of lines before. -/
  row : Nat
  /-- The number of bytes before on the line. -/
  column : Nat
  deriving Repr, DecidableEq

/-- A place as messages count: from one, in characters. -/
structure Place where
  /-- The line. -/
  line : Nat
  /-- The character on the line. -/
  column : Nat
  deriving Repr, DecidableEq

/-- A text and its lines. -/
structure Source where
  /-- The bytes of the text. -/
  data : Bytes
  /-- The stretches between line feeds. -/
  lines : List Bytes
  deriving Repr

namespace Source

/-- The source with the given bytes. -/
def ofBytes (data : Bytes) : Source := ⟨data, splitAt lineFeed data⟩

/-- The line of a row; empty when there is no such row. -/
def line (s : Source) (row : Nat) : Bytes := s.lines.getD row []

/-- The offset at which a row begins. -/
def rowStart (s : Source) (row : Nat) : Nat :=
  ((s.lines.take row).map (·.length + 1)).foldr (· + ·) 0

/-- The point of an offset, counted from the start of the given lines. -/
def pointIn (row : Nat) : List Bytes → Nat → Point
  | [], offset => ⟨row, offset⟩
  | [_], offset => ⟨row, offset⟩
  | l :: ls, offset =>
    if offset ≤ l.length then ⟨row, offset⟩ else pointIn (row + 1) ls (offset - (l.length + 1))

/-- The point of an offset. -/
def point (s : Source) (offset : Nat) : Point := pointIn 0 s.lines offset

/-- The point at which a node begins. -/
def startPoint (s : Source) (t : Tree) : Point := s.point t.start

/-- The point at which a node ends. -/
def stopPoint (s : Source) (t : Tree) : Point := s.point t.stop

/-- The place of a point. -/
def place (s : Source) (p : Point) : Place :=
  ⟨p.row + 1, (decode ((s.line p.row).take p.column)).length + 1⟩

/-- The characters that a node covers. -/
def chars (s : Source) (t : Tree) : List Char := decode (between s.data t.start t.stop)

/-- The text that a node covers. -/
def text (s : Source) (t : Tree) : String := String.ofList (s.chars t)

/-- Whether a byte is a space or a tab. -/
def isIndentByte (b : UInt8) : Bool := b = 32 || b = 9

/-- The spaces and tabs at the start of a row. -/
def indentation (s : Source) (row : Nat) : Bytes := (s.line row).takeWhile isIndentByte

/-- Whether only blanks stand before a point on its line. -/
def startsLine (s : Source) (p : Point) : Bool := ((s.line p.row).take p.column).all isBlankByte

end Source

end Diagnosis.Syntax
