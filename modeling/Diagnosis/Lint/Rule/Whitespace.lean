import Diagnosis.Lint.Rule.Semi

/-!
# White space at the ends

Two rules on white space that no one sees: `no-trailing-spaces` on the ends of lines, `eol-last` on
the end of the text.
-/

namespace Diagnosis.Lint

open Diagnosis.Text Diagnosis.Syntax

namespace Whitespace

/-- The byte of a carriage return. -/
def carriageReturn : UInt8 := 13

/-- Whether a row ends inside a template, where blanks are content. -/
def isProtected (subject : Subject) (row : Nat) : Bool :=
  subject.sites.any fun s =>
    s.kind == "template_string" && (subject.source.startPoint s.node).row ≤ row
      && row < (subject.source.stopPoint s.node).row

/-- A line without the carriage return that belongs to its end. -/
def lineBody (line : Bytes) : Bytes :=
  if line.getLast? = some carriageReturn then line.dropLast else line

/-- The finding for a row that ends in spaces or tabs. -/
def trailing? (src : Source) (row : Nat) : Option Finding :=
  let line := lineBody (src.line row)
  let kept := (dropEndWhile Source.isIndentByte line).length
  if kept = line.length then none
  else
    let start := src.rowStart row
    some
      { message := "Trailing spaces not allowed."
        start := src.place ⟨row, kept⟩
        stop := some (src.place ⟨row, line.length⟩)
        fix := some ⟨(start + kept : Nat), (start + line.length : Nat), []⟩ }

/-- The findings of `no-trailing-spaces`. -/
def checkTrailing (subject : Subject) : List Finding :=
  ((List.range subject.source.lines.length).filter (!isProtected subject ·)).filterMap
    (trailing? subject.source)

/-- Whether a byte belongs to a line end. -/
def isLineEnd (b : UInt8) : Bool := b = lineFeed || b = carriageReturn

/-- The finding for a text that does not end with a line feed. -/
def missingLast (src : Source) : Finding :=
  let row := src.lines.length - 1
  { message := "Newline required at end of file but not found."
    start := src.place ⟨row, (src.line row).length⟩
    fix := some ⟨src.data.length, src.data.length, [lineFeed]⟩ }

/-- The finding for a text that ends with a line feed where none is wanted. -/
def extraLast (src : Source) : Finding :=
  let kept := dropEndWhile isLineEnd src.data
  let row := kept.count lineFeed
  { message := "Newline not allowed at end of file."
    start := src.place ⟨row, (src.line row).length⟩
    fix := some ⟨kept.length, src.data.length, []⟩ }

/-- The findings of `eol-last`. -/
def checkLast (style : Presence) (subject : Subject) : List Finding :=
  let src := subject.source
  let ends := src.data.getLast? = some lineFeed
  match src.data, style with
  | [], _ => []
  | _, .always => if ends then [] else [missingLast src]
  | _, .never => if ends then [extraLast src] else []

end Whitespace

end Diagnosis.Lint
