/-!
# Blanks

The white space that separates words and pads texts.

* `isBlank` is the class for characters: the Unicode white space characters and the four
  information separators.
* `isBlankByte` is the class for bytes: the six ASCII blanks.
* `strip`, `stripStart` and `stripEnd` cut blanks from the ends of a text, `words` splits a text at
  its runs of blanks.
-/

namespace Diagnosis.Text

/-- Unicode white space, and the information separators U+001C to U+001F. -/
def isBlank (c : Char) : Bool :=
  let n := c.toNat
  (9 ≤ n && n ≤ 13) || (0x1C ≤ n && n ≤ 0x20) || n = 0x85 || n = 0xA0 || n = 0x1680
    || (0x2000 ≤ n && n ≤ 0x200A) || n = 0x2028 || n = 0x2029 || n = 0x202F || n = 0x205F
    || n = 0x3000

/-- The ASCII blanks: space, tab, line feed, vertical tab, form feed, carriage return. -/
def isBlankByte (b : UInt8) : Bool := b = 32 || (9 ≤ b && b ≤ 13)

variable {α : Type}

/-- Drops the longest end all of whose items satisfy `p`. -/
def dropEndWhile (p : α → Bool) (xs : List α) : List α := (xs.reverse.dropWhile p).reverse

/-- Drops the items that satisfy `p` from both ends. -/
def trimWhile (p : α → Bool) (xs : List α) : List α := dropEndWhile p (xs.dropWhile p)

/-- The text without the blanks at its ends. -/
def strip (s : List Char) : List Char := trimWhile isBlank s

/-- The string without the blanks at its ends. -/
def stripString (s : String) : String := String.ofList (strip s.toList)

/-- Whether a string consists of blanks alone. -/
def isBlankString (s : String) : Bool := s.toList.all isBlank

/-- Puts a finished word in front, unless it is empty. -/
def consWord (w : List Char) (ws : List (List Char)) : List (List Char) :=
  if w.isEmpty then ws else w :: ws

/-- The word at the front of the text and the words after it. -/
def splitWords : List Char → List Char × List (List Char)
  | [] => ([], [])
  | c :: rest =>
    let (w, ws) := splitWords rest
    if isBlank c then ([], consWord w ws) else (c :: w, ws)

/-- The maximal runs of characters that are no blanks, in order. -/
def words (s : List Char) : List (List Char) :=
  let (w, ws) := splitWords s
  consWord w ws

end Diagnosis.Text
