import Diagnosis.Http.Form.Read
import Diagnosis.Submission
import Diagnosis.Text.Encoding

/-!
# Requests

What a request for an analysis, or for the text in an image, hands in. A form may hold an uploaded
file or a pasted text, the file coming first; any other body is read as JSON. Where a request hands in
nothing of use, a `Refusal` says why.
-/

namespace Diagnosis.Http

open Diagnosis.Text

/-- A request. -/
structure Request where
  /-- The method. -/
  method : String
  /-- The path. -/
  path : String
  /-- The content type; empty if none is given. -/
  contentType : String := ""
  /-- The body. -/
  body : Bytes := []
  deriving Repr

/-- Why nothing of use is read from a request. -/
inductive Refusal where
  /-- It holds no code. -/
  | noCode
  /-- It holds no image. -/
  | noImage
  /-- Its file has more bytes than the limit. -/
  | fileTooLarge (limit : Int)
  /-- Its form cannot be read. -/
  | badForm (fault : FormFault)
  /-- Its JSON goes beyond what can be read. -/
  | badJson (fault : Json.Fault)
  deriving Repr, DecidableEq

/-- The bytes of a file that is not too large. -/
def checkSize (limit : Int) (data : Bytes) : Except Refusal Bytes :=
  if limit < data.length then .error (.fileTooLarge limit) else .ok data

namespace Request

/-- Whether the body is announced as a form. -/
def holdsForm (r : Request) : Bool := announcesForm r.contentType

/-- The form in the body. -/
def form (r : Request) : Except Refusal Form := (readForm r.contentType r.body).mapError .badForm

/-- The object in the body. -/
def fields (r : Request) : Except Refusal (List (String × Json)) :=
  match Json.readBytes r.body with
  | .ok (.object fields) => .ok fields
  | .error (.unreadable (.tooManyDigits n)) => .error (.badJson (.tooManyDigits n))
  | .error (.unreadable .tooDeep) => .error (.badJson .tooDeep)
  | _ => .error .noCode

/-- The text in a field of an object. -/
def textIn (fields : List (String × Json)) (name : String) : Option LooseText :=
  (Json.find? name fields).bind LooseText.ofJson?

/-- The submission in a form. -/
def submissionIn (limit : Int) (form : Form) : Except Refusal Submission :=
  match form.file? "codeFile" with
  | some (filename, data) => do
    (Submission.ofUpload filename (← checkSize limit data)).mapError fun .noCode => .noCode
  | none =>
    let code := (form.text? "code").map LooseText.text
    let language := (form.text? "language").map LooseText.text
    (Submission.ofPaste code language).mapError fun .noCode => .noCode

/-- The submission in a request, whose file may not have more bytes than the limit. -/
def submission (r : Request) (limit : Int) : Except Refusal Submission := do
  if r.holdsForm then submissionIn limit (← r.form)
  else
    let fields ← r.fields
    (Submission.ofPaste (textIn fields "code") (textIn fields "language")).mapError
      fun .noCode => .noCode

/-- The image in a request, which may not have more bytes than the limit. -/
def image (r : Request) (limit : Int) : Except Refusal Bytes := do
  if r.holdsForm then
    match (← r.form).file? "image" with
    | some (_, data) => checkSize limit data
    | none => .error .noImage
  else .error .noImage

end Request

end Diagnosis.Http
