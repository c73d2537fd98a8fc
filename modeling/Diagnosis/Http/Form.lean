import Diagnosis.Text.Utf8

/-!
# Forms

A form has named fields, each a text or a file. How a form travels is told in `Http.Form.Parts`, for
those with files, and in `Http.Form.Read`, for those of texts alone.
-/

namespace Diagnosis.Http

open Diagnosis.Text

/-- What a field holds. -/
inductive FieldValue where
  /-- A text. -/
  | text (s : String)
  /-- A file. -/
  | file (filename : String) (data : Bytes)
  deriving Repr, DecidableEq

/-- Whether a field holds a file. -/
def FieldValue.isFile : FieldValue → Bool
  | text _ => false
  | file _ _ => true

/-- The names and values of fields, in the order in which they are sent. -/
abbrev Form := List (String × FieldValue)

namespace Form

/-- The value of a field; of two with one name the later counts. -/
def value? (form : Form) (name : String) : Option FieldValue := form.reverse.lookup name

/-- The text in a field. -/
def text? (form : Form) (name : String) : Option String :=
  match form.value? name with
  | some (.text s) => some s
  | _ => none

/-- The file in a field. -/
def file? (form : Form) (name : String) : Option (String × Bytes) :=
  match form.value? name with
  | some (.file filename data) => some (filename, data)
  | _ => none

end Form

/-- Why a form cannot be read. -/
inductive FormFault where
  /-- The header does not name a boundary. -/
  | noBoundary
  /-- A part does not have a name. -/
  | noName
  /-- There are too many files. -/
  | tooManyFiles
  /-- There are too many texts. -/
  | tooManyTexts
  /-- A text is too long. -/
  | textTooLong
  /-- Boundaries or headers are not as they should be. -/
  | malformed
  deriving Repr, DecidableEq

/-- The files, or texts, that a form may have. -/
def fieldLimit : Nat := 1000

/-- The kilobytes that a text in a part may have. -/
def textLimit : Nat := 1024

/-- The wording of a fault. -/
def FormFault.message : FormFault → String
  | noBoundary => "Missing boundary in multipart."
  | noName => "The Content-Disposition header field \"name\" must be provided."
  | tooManyFiles => s!"Too many files. Maximum number of files is {fieldLimit}."
  | tooManyTexts => s!"Too many fields. Maximum number of fields is {fieldLimit}."
  | textTooLong => s!"Part exceeded maximum size of {textLimit}KB."
  | malformed => "The form cannot be read."

end Diagnosis.Http
