import Diagnosis.Json.Read
import Diagnosis.Text.Utf8

/-!
# Loose texts

A text from outside may hold surrogates without a partner. Such a text can be passed on, but it has
no bytes; `LooseText.strict` gives the text, or says where the first surrogates stand.
-/

namespace Diagnosis.Text

/-- A text that may hold lone surrogates. -/
inductive LooseText where
  /-- A text without lone surrogates. -/
  | text (s : String)
  /-- The code points of a text with lone surrogates. -/
  | illFormed (codes : List Nat)
  deriving Repr, DecidableEq, Inhabited

/-- The first run of lone surrogates of a text. -/
structure SurrogateFault where
  /-- The place of the first of them, in characters. -/
  start : Nat
  /-- The first of them. -/
  code : Nat
  /-- How many there are. -/
  count : Nat
  deriving Repr, DecidableEq

/-- The wording of a fault. -/
def SurrogateFault.message (f : SurrogateFault) : String :=
  let place :=
    if f.count = 1 then
      "character '" ++ numericEscape f.code ++ "' in position " ++ toString f.start
    else "characters in position " ++ toString f.start ++ "-" ++ toString (f.start + f.count - 1)
  "'utf-8' codec can't encode " ++ place ++ ": surrogates not allowed"

namespace LooseText

/-- The text of a JSON value that is one. -/
def ofJson? : Json → Option LooseText
  | .string s => some (.text s)
  | .illFormed codes => some (.illFormed codes)
  | _ => none

/-- The code points. -/
def codes : LooseText → List Nat
  | text s => s.toList.map (·.toNat)
  | illFormed cs => cs

/-- The text of code points. -/
def ofCodes (codes : List Nat) : LooseText :=
  if codes.any Json.isSurrogate then illFormed codes
  else text (String.ofList (codes.map Char.ofNat))

/-- The text, if it has bytes. -/
def strict : LooseText → Except SurrogateFault String
  | text s => .ok s
  | illFormed codes =>
    let start := (codes.takeWhile (!Json.isSurrogate ·)).length
    let run := (codes.drop start).takeWhile Json.isSurrogate
    .error ⟨start, run.headD 0, run.length⟩

/-- Whether a code point is a blank. -/
def isBlankCode (n : Nat) : Bool := !Json.isSurrogate n && Text.isBlank (Char.ofNat n)

/-- Whether there are blanks alone. -/
def isBlank (t : LooseText) : Bool := t.codes.all isBlankCode

/-- The text without the blanks at its ends. -/
def strip : LooseText → LooseText
  | text s => text (stripString s)
  | illFormed cs => ofCodes (trimWhile isBlankCode cs)

end LooseText

end Diagnosis.Text
