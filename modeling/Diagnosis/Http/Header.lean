import Diagnosis.Http.Percent
import Diagnosis.Text.Case
import Diagnosis.Text.Search

/-!
# Headers with options

A header may have options behind its value: `form-data; name="code"; filename="a.js"`. Options are
separated by semicolons outside quotation marks. An option may come in numbered pieces (`name*0`,
`name*1`), and one whose name ends in a star has percent escapes behind the names of a character set
and a language (`filename*=utf-8''a.js`).
-/

namespace Diagnosis.Http

open Diagnosis.Text

/-- A header and its options. -/
structure Header where
  /-- The value. -/
  value : List Char
  /-- The names and values of the options; of two with one name the later counts. -/
  options : List (List Char × List Char)
  deriving Repr, DecidableEq

/-- The text up to the first semicolon that is not between quotation marks, and the pieces behind
it. -/
def splitPieces (inQuotes : Bool) : List Char → List Char × List (List Char)
  | [] => ([], [])
  | '\\' :: '"' :: rest =>
    let (piece, pieces) := splitPieces inQuotes rest
    ('\\' :: '"' :: piece, pieces)
  | c :: rest =>
    if c = ';' && !inQuotes then
      let (piece, pieces) := splitPieces false rest
      ([], piece :: pieces)
    else
      let (piece, pieces) := splitPieces (inQuotes != (c = '"')) rest
      (c :: piece, pieces)

/-- The value of an option without the marks around it. -/
def unquoteOption (s : List Char) : List Char :=
  if s.length < 2 then s
  else
    let inner := s.tail.dropLast
    match s.head?, s.getLast? with
    | some '"', some '"' => replaceAll ['\\', '"'] ['"'] (replaceAll ['\\', '\\'] ['\\'] inner)
    | some '<', some '>' => inner
    | _, _ => s

/-- The name and the value of an option as they are written. -/
def readOption (piece : List Char) : List Char × List Char :=
  let name := piece.takeWhile (· ≠ '=')
  match piece.dropWhile (· ≠ '=') with
  | [] => (strip piece, [])
  | _ :: value => ((lower (String.ofList (strip name))).toList, unquoteOption (strip value))

/-! ## Options in pieces -/

/-- A piece of an option. -/
structure OptionPiece where
  /-- The name of the option. -/
  name : List Char
  /-- The number of the piece. -/
  number : Nat
  /-- Whether it has percent escapes. -/
  escaped : Bool
  /-- What is written. -/
  value : List Char
  deriving Repr, DecidableEq

/-- Whether a character may stand in the name of an option that comes in pieces. -/
def isNameChar (c : Char) : Bool := c.isAlphanum || c = '_'

/-- The piece of an option that a name and a value are, if they are one. -/
def optionPiece? (option : List Char × List Char) : Option OptionPiece :=
  let name := option.1.takeWhile isNameChar
  match option.1.dropWhile isNameChar with
  | '*' :: mark =>
    let digits := mark.takeWhile (·.isDigit)
    let star := mark.dropWhile (·.isDigit)
    let number := digits.foldl (fun n d => n * 10 + (d.toNat - '0'.toNat)) 0
    if name.isEmpty then none
    else if mark.isEmpty then some ⟨name, 0, true, option.2⟩
    else if digits.isEmpty then none
    else if star.isEmpty then some ⟨name, number, false, option.2⟩
    else if star = ['*'] then some ⟨name, number, true, option.2⟩
    else none
  | _ => none

/-- What comes behind the second apostrophe, if there are two. -/
def withoutCharset (s : List Char) : List Char :=
  match splitOn? ['\''] s with
  | none => s
  | some (_, rest) =>
    match splitOn? ['\''] rest with
    | none => s
    | some (_, text) => text

/-- The value that the pieces of an option make up. -/
def joinPieces (pieces : List OptionPiece) : List Char :=
  let sorted := pieces.mergeSort fun a b => a.number ≤ b.number
  let text := sorted.flatMap fun p => if p.escaped then latin (percentBytes p.value) else p.value
  if pieces.any (·.escaped) then withoutCharset text else text

/-- The options that come in pieces, put together. -/
def joinedOptions (pieces : List OptionPiece) : List (List Char × List Char) :=
  (pieces.map (·.name)).eraseDups.map fun name =>
    (name, joinPieces (pieces.filter (·.name = name)))

/-! ## Headers -/

namespace Header

/-- The header that a text writes. -/
def read (text : List Char) : Header :=
  match splitPieces false text with
  | (value, []) => ⟨(lower (String.ofList (strip value))).toList, []⟩
  | (value, more) =>
    let options := more.map readOption
    let whole := options.filter fun o => (optionPiece? o).isNone
    ⟨(readOption value).1, whole ++ joinedOptions (options.filterMap optionPiece?)⟩

/-- The value of an option. -/
def option? (h : Header) (name : String) : Option (List Char) :=
  (h.options.reverse.lookup name.toList)

end Header

end Diagnosis.Http
