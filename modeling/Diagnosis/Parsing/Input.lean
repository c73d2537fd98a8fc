import Diagnosis.Text.Utf8

/-!
# What is parsed

An `Input` is a text that a parser can read at any offset: the code point that begins there, how
many bytes it takes, and how many lines end between two offsets.
-/

namespace Diagnosis.Parsing

open Diagnosis.Text

/-- A text with quick access to any place in it. -/
structure Input where
  /-- The bytes. -/
  bytes : Array UInt8
  /-- For each offset, the number of line feeds before it. -/
  feeds : Array Nat

namespace Input

/-- Counts line feeds. -/
def countFeeds (n : Nat) (counts : Array Nat) : Bytes → Array Nat
  | [] => counts.push n
  | b :: rest => countFeeds (if b = 10 then n + 1 else n) (counts.push n) rest

/-- The input with the given bytes. -/
def ofBytes (data : Bytes) : Input := ⟨data.toArray, countFeeds 0 #[] data⟩

variable (t : Input)

/-- The number of bytes. -/
def size : Nat := t.bytes.size

/-- The number of lines that end between two offsets. -/
def linesBetween (a b : Nat) : Nat := t.feeds.getD b 0 - t.feeds.getD a 0

/-- The byte at an offset, or zero after the end. -/
def byteAt (i : Nat) : UInt8 := t.bytes.getD i 0

/-- The code point at an offset and the number of its bytes; zero and zero at the end. -/
def codeAt (i : Nat) : Nat × Nat :=
  if i ≥ t.size then (0, 0)
  else
    let b := t.byteAt i
    if b < 0x80 then (b.toNat, 1)
    else match decode [b, t.byteAt (i + 1), t.byteAt (i + 2), t.byteAt (i + 3)] with
      | c :: _ => if c = replacement ∧ b ≠ 0xEF then (c.toNat, 1) else (c.toNat, c.utf8Size)
      | [] => (0, 1)

/-- Whether the text begins with a byte order mark. -/
def hasMark : Bool := t.byteAt 0 == 0xEF && t.byteAt 1 == 0xBB && t.byteAt 2 == 0xBF

/-- The offset from which reading begins: at the start of the text, after a byte order mark. -/
def skipMark (i : Nat) : Nat := if i = 0 ∧ t.hasMark then 3 else i

end Input

end Diagnosis.Parsing
