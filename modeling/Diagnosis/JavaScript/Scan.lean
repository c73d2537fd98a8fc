import Diagnosis.Automaton.BitSet
import Diagnosis.Parsing.Input
import Diagnosis.Text.Word

/-!
# Tokens of JavaScript that depend on what is around them

Five kinds of tokens cannot be told by their characters alone.

* A semicolon may be left out at the end of a line, before a closing brace and at the end of the
  text, unless what follows continues the statement.
* The text of a template goes up to an escape, a substitution or the end of the template.
* The question mark of a conditional is neither `??` nor `?.`, but `?.5` begins a conditional.
* A comment of markup goes to the end of the line.
* The text of a markup element goes up to a tag, a brace or a reference; it holds more than
  line breaks and the blanks around them.

`scan` looks for whichever of them is expected. It reads on from an offset, at which blanks may come
first.
-/

namespace Diagnosis.JavaScript.Scan

open Diagnosis.Parsing Diagnosis.Automaton

/-! ## The tokens -/

/-- The semicolon that is left out. -/
def semicolon : Nat := 0

/-- A stretch of the text of a template. -/
def templateChars : Nat := 1

/-- The question mark of a conditional. -/
def questionMark : Nat := 2

/-- A comment of markup. -/
def markupComment : Nat := 3

/-- The operator `||`. It is expected wherever an operator is. -/
def orOperator : Nat := 4

/-- An escape in a text. It is expected inside of texts. -/
def escape : Nat := 5

/-- The pattern of a regular expression. -/
def regexPattern : Nat := 6

/-- The text of a markup element. -/
def markupText : Nat := 7

/-! ## Reading -/

/-- A place in the text that moves on. -/
structure Cursor where
  /-- The text. -/
  input : Input
  /-- The offset. -/
  offset : Nat
  /-- The offset at which the token begins. -/
  start : Nat
  /-- The offset at which the token ends, if that is known. -/
  stop : Option Nat := none

namespace Cursor

variable (c : Cursor)

/-- The code point at the cursor; zero at the end of the text. -/
def code : Nat := (c.input.codeAt c.offset).1

/-- Whether a character is at the cursor. -/
def isAt (x : Char) : Bool := c.code == x.toNat

/-- Moves on by one code point. -/
def next : Cursor := { c with offset := c.offset + (c.input.codeAt c.offset).2 }

/-- Moves on by one code point that does not belong to the token. -/
def skip : Cursor := { c.next with start := c.next.offset }

/-- Lets the token end here. -/
def mark : Cursor := { c with stop := some c.offset }

/-- Moves on as long as a condition holds, with `move`. -/
def moveWhile (p : Nat → Bool) (move : Cursor → Cursor) : Nat → Cursor → Cursor
  | 0, c => c
  | fuel + 1, c => if p c.code then moveWhile p move fuel (move c) else c

/-- Skips as long as a condition holds; the end of the text ends it too. -/
def skipWhile (p : Nat → Bool) : Cursor :=
  moveWhile (fun x => x != 0 && p x) skip (c.input.size + 1) c

/-- The token that has been found. One that ends before what was skipped begins where it ends. -/
def token (i : Nat) : Option (Nat × Nat × Nat) :=
  let stop := c.stop.getD c.offset
  some (i, min c.start stop, stop)

end Cursor

/-- Whether a code point is a blank that a line may be broken at. -/
def isBlankCode (n : Nat) : Bool :=
  (9 ≤ n && n ≤ 13) || n == 0x20 || n == 0x1680 || (0x2000 ≤ n && n ≤ 0x2006)
    || (0x2008 ≤ n && n ≤ 0x200A) || n == 0x2028 || n == 0x2029 || n == 0x205F || n == 0x3000

/-- Whether a code point ends a line. -/
def endsLine (n : Nat) : Bool := n == 10 || n == 0x2028 || n == 0x2029

/-- Whether a code point is an ASCII digit. -/
def isDigitCode (n : Nat) : Bool := 48 ≤ n && n ≤ 57

/-- Whether a code point is a letter. -/
def isLetterCode (n : Nat) : Bool :=
  let c := Char.ofNat n
  n != 0 && Text.isWordChar c && !Text.isDigit c && c != '_'

/-! ## Templates and markup -/

/-- Reads the text of a template. -/
def readTemplate : Nat → Bool → Cursor → Option (Nat × Nat × Nat)
  | 0, _, _ => none
  | fuel + 1, isNonempty, c =>
    let c := c.mark
    let done := if isNonempty then c.token templateChars else none
    if c.isAt '\x60' || c.isAt '\\' || (c.isAt '$' && c.next.isAt '\x7b') then done
    else if c.code = 0 then none
    else readTemplate fuel true c.next

/-- Whether a code point ends the text of a markup element. -/
def endsMarkupText (n : Nat) : Bool :=
  n == 0 || [60, 62, 123, 125, 38].contains n

/-- Reads the text of a markup element. `counts` says whether it holds more than line breaks and the
blanks around them, `broken` whether only blanks have come since a line break. -/
def readMarkupText : Nat → Bool → Bool → Cursor → Bool × Cursor
  | 0, counts, _, c => (counts, c)
  | fuel + 1, counts, broken, c =>
    if endsMarkupText c.code then (counts, c)
    else if c.code = 10 then readMarkupText fuel counts true c.next
    else
      let broken := broken && isBlankCode c.code
      readMarkupText fuel (counts || !broken) broken c.next

/-- Moves over a text, if it is there. -/
def readText? : List Char → Cursor → Option Cursor
  | [], c => some c
  | x :: xs, c => if c.isAt x then readText? xs c.next else none

/-- Reads a comment of markup. -/
def readMarkupComment (c : Cursor) : Option (Nat × Nat × Nat) :=
  let c := c.skipWhile fun n => isBlankCode n || n == 0x2028 || n == 0x2029
  let opening := if c.isAt '<' then some "<!--" else if c.isAt '-' then some "-->" else none
  match opening.bind fun s => readText? s.toList c with
  | none => none
  | some c =>
    (Cursor.moveWhile (fun n => n != 0 && !endsLine n) Cursor.next (c.input.size + 1) c).token
      markupComment

/-! ## Question marks -/

/-- Reads the question mark of a conditional. -/
def readQuestionMark (c : Cursor) : Option (Nat × Nat × Nat) :=
  let c := c.skipWhile isBlankCode
  if !c.isAt '?' then none
  else
    let c := c.next
    if c.isAt '?' then none
    else
      let c := c.mark
      if !c.isAt '.' then c.token questionMark
      else if isDigitCode c.next.code then c.token questionMark
      else none

/-! ## Semicolons that are left out -/

/-- What blanks and comments lead to. -/
inductive Gap where
  /-- A place where the line may have ended. -/
  | lineEnd
  /-- The same line, after a comment in which none ended. -/
  | sameLine
  /-- A slash that begins no comment. -/
  | slash
  deriving BEq

/-- Skips the rest of a comment between `/*` and `*/`. Says whether it is closed, and whether a line
ends in it or has ended before. -/
def skipBlockComment : Nat → Bool → Cursor → Bool × Bool × Cursor
  | 0, broken, c => (false, broken, c)
  | fuel + 1, broken, c =>
    if c.code = 0 then (false, broken, c)
    else if c.isAt '*' then
      let c := c.skip
      if c.isAt '/' then (true, broken, c.skip) else skipBlockComment fuel broken c
    else skipBlockComment fuel (broken || endsLine c.code) c.skip

/-- Skips blanks and comments. Unless `all` of them are to be skipped, a closed comment ends the gap
where no slash follows. `broken` says whether a line has ended in a comment, `seen` whether there
was a comment. -/
def skipGap (all : Bool) : Nat → Bool → Bool → Cursor → Gap × Bool × Cursor
  | 0, _, seen, c => (.lineEnd, seen, c)
  | fuel + 1, broken, seen, c =>
    let c := c.skipWhile isBlankCode
    if !c.isAt '/' then (.lineEnd, seen, c)
    else
      let c := c.skip
      if c.isAt '/' then
        skipGap all fuel broken true (c.skip.skipWhile fun n => !endsLine n)
      else if c.isAt '*' then
        let (closed, broken, c) := skipBlockComment (c.input.size + 1) broken c.skip
        let seen := seen || closed
        if closed && !c.isAt '/' && !all then (if broken then .lineEnd else .sameLine, seen, c)
        else skipGap all fuel broken seen c
      else (.slash, seen, c)

/-- Skips letters one by one as long as they are those of a text; says whether all of them were. -/
def skipText : List Char → Cursor → Bool × Cursor
  | [], c => (true, c)
  | x :: xs, c => if c.isAt x then skipText xs c.skip else (false, c)

/-- Whether what follows a line break begins a new statement. -/
def beginsStatement (c : Cursor) : Bool × Cursor :=
  if "\x60,:;*%><=[(?^|&/".toList.any c.isAt then (false, c)
  else if c.isAt '.' then (isDigitCode c.skip.code, c.skip)
  else if c.isAt '+' then (c.skip.isAt '+', c.skip)
  else if c.isAt '-' then (c.skip.isAt '-', c.skip)
  else if c.isAt '!' then (!c.skip.isAt '=', c.skip)
  else if c.isAt 'i' then
    let c := c.skip
    if !c.isAt 'n' then (true, c)
    else
      let c := c.skip
      if !isLetterCode c.code then (false, c)
      else
        let (isInstanceof, c) := skipText "stanceof".toList c
        if !isInstanceof then (true, c) else (isLetterCode c.code, c)
  else (true, c)

/-- Looks for the end of a line where a semicolon may have been left out. -/
def findLineEnd (afterComment : Bool) : Nat → Bool → Cursor → Bool × Bool × Cursor
  | 0, seen, c => (false, seen, c)
  | fuel + 1, seen, c =>
    if c.code = 0 then (true, seen, c)
    else
      let (gap, seen, c) :=
        if c.isAt '/' then
          let (gap, found, c) := skipGap false (c.input.size + 1) false false c
          (some gap, seen || found, c)
        else (none, seen, c)
      if gap == some .slash then (false, seen, c)
      else if gap == some .lineEnd && afterComment && !c.isAt ',' && !c.isAt '=' then
        (true, seen, c)
      else if c.isAt '\x7d' then (true, seen, c)
      else if endsLine c.code then
        let (gap, found, c) := skipGap true (c.input.size + 1) false false c.skip
        let seen := seen || found
        if gap == .slash then (false, seen, c)
        else
          let (begins, c) := beginsStatement c
          (begins, seen, c)
      else if !isBlankCode c.code then (false, seen, c)
      else findLineEnd afterComment fuel seen c.skip

/-- Looks for a semicolon that is left out, and, where there is none, for a question mark. -/
def readSemicolon (expected : BitSet) (c : Cursor) : Option (Nat × Nat × Nat) :=
  let limit := c.input.size + 1
  let (isThere, seen, c) := findLineEnd (!expected.contains orOperator) limit false c.mark
  if isThere then c.token semicolon
  else if !seen && expected.contains questionMark && c.isAt '?' then readQuestionMark c
  else none

/-! ## All of them -/

/-- Looks for whichever of the tokens is expected: the token, and where it begins and ends. -/
def scan (expected : BitSet) (input : Input) (offset : Nat) : Option (Nat × Nat × Nat) :=
  let c : Cursor := { input, offset, start := offset }
  let limit := input.size + 1
  if expected.contains templateChars then
    if expected.contains semicolon then none else readTemplate limit false c
  else
    let (isText, c) :=
      if expected.contains markupText then readMarkupText limit false false c else (false, c)
    if isText then c.token markupText
    else if expected.contains semicolon then readSemicolon expected c
    else if expected.contains questionMark then readQuestionMark c
    else if expected.contains markupComment && !expected.contains orOperator
        && !expected.contains escape && !expected.contains regexPattern then readMarkupComment c
    else none

end Diagnosis.JavaScript.Scan
