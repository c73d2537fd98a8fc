import Diagnosis.Pattern.Read
import Diagnosis.Text.Numeral
import Diagnosis.Text.Quoted

/-!
# Replacement templates

What is put in place of a match. A template is a text in which a backslash begins an escape or
refers to a group: `\n` is a line feed, `\g<0>` the whole match. A text without a backslash stands
for itself.

A template is read for a pattern, since it may refer to that pattern's groups only.
-/

namespace Diagnosis.Pattern

open Diagnosis.Text

/-- A part of a template. -/
inductive TemplatePart where
  /-- A character that stands for itself. -/
  | char (c : Char)
  /-- The match, or one of its groups. -/
  | group (n : Nat)
  deriving Repr, DecidableEq

/-- Whether a text is a name. -/
def isName (s : List Char) : Bool :=
  match s with
  | [] => false
  | c :: rest => isWordChar c && !isDigit c && rest.all isWordChar

/-- The name in a reference, up to the bracket that closes it. -/
def readName : Nat → List Char → Reader (List Char)
  | 0, found => return found
  | fuel + 1, found => do
    match ← take with
    | none =>
      if found.isEmpty then refuse (.missingReference "group name") 0
      else refuse (.missingReference ">, unterminated name") found.length
    | some ['>'] =>
      if found.isEmpty then refuse (.missingReference "group name") 1 else return found
    | some t => readName fuel (found ++ t)

/-- A reference to a group, if there is one of that number. -/
def readGroup (groups n back : Nat) : Reader TemplatePart :=
  if groups < n then refuse (.badReference n) back else return .group n

/-- A reference by name or number. -/
def readNamedGroup (groups : Nat) : Reader TemplatePart := do
  if !(← takeIf '<') then refuse (.missingReference "<") 0
  let name ← readName ((← get).rest.length + 1) []
  if isName name then throw ⟨.unknownName (quoted (String.ofList name)), 0⟩
  match whole? name with
  | some (.ofNat n) => readGroup groups n (name.length + 1)
  | _ => refuse (.badName (quoted (String.ofList name))) (name.length + 1)

/-- A reference by number, or an octal escape of three digits. -/
def readNumberedGroup (groups : Nat) (c : Char) : Reader TemplatePart := do
  let second ← takeWhile isAsciiDigit 1
  let third ← match second with
    | [d] => if isOctalDigit c && isOctalDigit d then takeWhile isOctalDigit 1 else pure []
    | _ => pure []
  let digits := c :: second
  if third.isEmpty then readGroup groups (numberIn 10 digits) digits.length
  else return .char (← readOctal (digits ++ third))

/-- The part that an escape stands for. -/
def readTemplateEscape (groups : Nat) (c : Char) : Reader (List TemplatePart) := do
  if c = 'g' then return [← readNamedGroup groups]
  else if c = '0' then
    let digits ← takeWhile isOctalDigit 2
    return [.char (Char.ofNat (numberIn 8 digits % 256))]
  else if isAsciiDigit c then return [← readNumberedGroup groups c]
  else if c = 'b' then return [.char '\x08']
  else match controlOf? c with
    | some x => return [.char x]
    | none =>
      if isAsciiLetter c then refuse (.badEscape (String.ofList ['\\', c])) 2
      else return [.char '\\', .char c]

/-- The parts of a template. -/
def readParts (groups : Nat) : Nat → List TemplatePart → Reader (List TemplatePart)
  | 0, found => return found
  | fuel + 1, found => do
    match ← take with
    | none => return found
    | some ['\\', c] => readParts groups fuel (found ++ (← readTemplateEscape groups c))
    | some t => readParts groups fuel (found ++ t.map .char)

/-- The template that a text writes, for a pattern with so many groups. -/
def readTemplate (groups : Nat) (source : List Char) : Except Fault (List TemplatePart) :=
  let reader : Reader (List TemplatePart) := do
    checkNext
    readParts groups (source.length + 1) []
  reader.run' ⟨0, tokens source, false⟩

/-- What a template gives for a match. Groups other than the whole match are left out. -/
def fillTemplate (parts : List TemplatePart) (found : List Char) : List Char :=
  parts.flatMap fun
    | .char c => [c]
    | .group 0 => found
    | .group _ => []

/-- The wording of a fault in a template. -/
def templateMessage (source : List Char) (f : Fault) : String :=
  match f.reason with
  | .unknownName _ => f.reason.message
  | _ => f.message source

end Diagnosis.Pattern
