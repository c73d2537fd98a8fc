import Diagnosis.Severity
import Diagnosis.Text.Blank
import Diagnosis.Text.Search
import Diagnosis.Text.Word

/-!
# Compiler lines

The lines in which a compiler names a problem and its place:

    path:line:column: severity: message

`LocatedLine.read?` finds the first place in a line from where on it has that form; what comes
before is the path, which is one line and may hold colons and digits itself. The message is one line
too, and only a single line break may follow it.
-/

namespace Diagnosis.Compiler

open Diagnosis.Text

/-- A problem and its place as the compiler has written them. -/
structure LocatedLine where
  /-- The digits of the line. -/
  line : List Char
  /-- The digits of the column. -/
  column : List Char
  /-- How grave the problem is. -/
  severity : Severity
  /-- What is wrong, without blanks at its ends. -/
  message : List Char
  deriving Repr, DecidableEq

/-- The words for severities. -/
def severityWords : List (List Char × Severity) :=
  [("fatal error:".toList, .error), ("error:".toList, .error), ("warning:".toList, .warning)]

/-- The severity in front and what comes after it. -/
def readSeverity? (s : List Char) : Option (Severity × List Char) :=
  (severityWords.find? fun w => w.1.isPrefixOf s).map fun w => (w.2, s.drop w.1.length)

/-- A colon and a number, and what comes after it. -/
def readNumber? : List Char → Option (List Char × List Char)
  | ':' :: rest =>
    let digits := rest.takeWhile isDigit
    if digits.isEmpty then none else some (digits, rest.dropWhile isDigit)
  | _ => none

/-- The message that the rest of a line is, unless something follows it. -/
def readMessage? (s : List Char) : Option (List Char) :=
  let body := s.dropWhile isBlank
  let message := body.takeWhile (· != '\n')
  let after := body.dropWhile (· != '\n')
  if after = [] ∨ after = ['\n'] then some (strip message) else none

/-- What comes after the path. -/
def readAfterPath? (s : List Char) : Option LocatedLine := do
  let (line, afterLine) ← readNumber? s
  let (column, afterColumn) ← readNumber? afterLine
  match afterColumn with
  | ':' :: rest =>
    let (severity, afterSeverity) ← readSeverity? (rest.dropWhile isBlank)
    let message ← readMessage? afterSeverity
    return ⟨line, column, severity, message⟩
  | _ => none

/-- The problem that a line names together with its place. -/
def LocatedLine.read? : List Char → Option LocatedLine
  | [] => none
  | c :: rest =>
    match readAfterPath? (c :: rest) with
    | some found => some found
    | none => if c = '\n' then none else LocatedLine.read? rest

/-- Whether a character may stand in the name of a warning option. -/
def isOptionChar (c : Char) : Bool := isWordChar c || c = '=' || c = '+' || c = '-'

/-- The option in the bracket that ends a message, such as `-Wunused` in `[-Wunused]`. -/
def warningOption? (message : List Char) : Option (List Char) :=
  match message.reverse with
  | ']' :: rest =>
    let option := (rest.takeWhile isOptionChar).reverse
    match rest.dropWhile isOptionChar with
    | '[' :: _ => if ['-', 'W'].isPrefixOf option && 2 < option.length then some option else none
    | _ => none
  | _ => none

end Diagnosis.Compiler
