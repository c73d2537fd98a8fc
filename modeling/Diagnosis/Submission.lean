import Diagnosis.Text.Case
import Diagnosis.Text.Loose
import Diagnosis.Text.Path

/-!
# Submissions

A submitted text and its language. The language of an uploaded file is told by the ending of its
name; whoever pastes a text may say its language. Where no language is known it is JavaScript.
-/

namespace Diagnosis

open Diagnosis.Text

/-- How a text has been submitted. -/
inductive Submission.Origin where
  /-- As a file of the given name, which may say nothing about the language. -/
  | upload (filename : String) (languageUnknown : Bool)
  /-- As a text. -/
  | paste
  deriving Repr, DecidableEq

/-- A submitted text. -/
structure Submission where
  /-- The text. -/
  code : LooseText
  /-- Its language. -/
  language : LooseText
  /-- How it has been submitted. -/
  origin : Submission.Origin
  deriving Repr, DecidableEq

namespace Submission

/-- The language of texts whose language is not known. -/
def defaultLanguage : String := "javascript"

/-- The languages that endings of file names tell. -/
def endings : List (String × String) :=
  [(".js", "javascript"), (".py", "python"), (".cpp", "c++"), (".cxx", "c++"), (".cc", "c++")]

/-- The language that a file name tells. -/
def languageOf? (filename : String) : Option String :=
  endings.lookup (lower (String.ofList (suffixOf (FilePath.read filename.toList).name)))

/-- The submission holds no code. -/
inductive Fault where
  /-- There is no text, or there are blanks alone. -/
  | noCode
  deriving Repr, DecidableEq

/-- The wording of a fault. -/
def Fault.message : Fault → String
  | noCode => "No code provided for debugging."

/-- The text, unless it is blank. -/
def requireCode (code : LooseText) : Except Fault LooseText :=
  if code.isBlank then .error .noCode else .ok code

/-- An uploaded file. Bytes that are no text are replaced. -/
def ofUpload (filename : String) (data : Bytes) : Except Fault Submission := do
  let code ← requireCode (.text (decodeString data))
  let known := languageOf? filename
  return ⟨code, .text (known.getD defaultLanguage), .upload filename known.isNone⟩

/-- A pasted text and the language that is said to be its own. -/
def ofPaste (code language : Option LooseText) : Except Fault Submission := do
  let text ← requireCode (code.getD (.text ""))
  let declared := (language.getD (.text "")).strip
  return ⟨text, if declared.codes.isEmpty then .text defaultLanguage else declared, .paste⟩

end Submission

end Diagnosis
