import Diagnosis.Analysis.Outcome
import Diagnosis.Http.Request
import Diagnosis.Json.Write
import Diagnosis.Report.Result

/-!
# Responses

How the service answers: with a result, or by saying what is wrong with the request or what has gone
wrong with the analysis. Some things go wrong that it does not expect. Such a `Fault` is not answered but
passed on to whoever hosts the service, who answers for it (`Response.broken`).
-/

namespace Diagnosis.Http

open Diagnosis.Text

/-- What goes wrong with a request and is not answered by the service. -/
inductive Fault where
  /-- The JSON of the body goes beyond what can be read. -/
  | unreadable (fault : Json.Fault)
  /-- The parts of a form are malformed. -/
  | malformedForm
  /-- The response would hold a double that is not finite. -/
  | notFinite
  /-- The response would hold lone surrogates. -/
  | unencodable (fault : SurrogateFault)
  deriving Repr, DecidableEq

/-- The wording of a fault. -/
def Fault.message : Fault → String
  | unreadable fault => fault.message
  | malformedForm => FormFault.malformed.message
  | notFinite => "Out of range float values are not JSON compliant"
  | unencodable fault => fault.message

/-- What a response holds. -/
inductive Content where
  /-- A text. -/
  | text (s : String)
  /-- A JSON value. -/
  | json (v : Json)
  deriving Repr

/-- A response. -/
structure Response where
  /-- The status code. -/
  status : Nat
  /-- What it holds. -/
  content : Content
  deriving Repr

namespace Response

/-- A value that has been asked for. -/
def ok (v : Json) : Response := ⟨200, .json v⟩

/-- A value that has been asked for, if it can be sent. -/
def ofJson (v : Json) : Except Fault Response :=
  if !v.isFinite then .error .notFinite
  else
    match (LooseText.ofCodes v.compactCodes).strict with
    | .ok _ => .ok (ok v)
    | .error fault => .error (.unencodable fault)

/-- An error that the service describes. -/
def error (status : Nat) (what : String) (details : Option String := none) : Response :=
  ⟨status, .json (.object
    (("error", .string what) :: details.toList.map fun d => ("details", .string d)))⟩

/-- An error that concerns the request as such. -/
def fault (status : Nat) (detail : String) : Response :=
  ⟨status, .json (.object [("detail", .string detail)])⟩

/-- There is nothing at the path. -/
def notFound : Response := fault 404 "Not Found"

/-- There is something at the path, but not for the method. -/
def wrongMethod : Response := fault 405 "Method Not Allowed"

/-- Something has gone wrong that the service has not answered. -/
def broken : Response := ⟨500, .text "Internal Server Error"⟩

/-- What is said when an analysis has no result. -/
def analysisFailed : String := "Failed to debug code due to an internal server error."

/-- What is said when there is no image. -/
def noImage : String := "No image provided for OCR."

/-- What is said when no text can be found in an image. -/
def recognitionFailed : String := "Failed to extract text from image."

/-- The response to a request that is refused. -/
def ofRefusal : Refusal → Except Fault Response
  | .noCode => .ok (error 400 Submission.Fault.noCode.message)
  | .noImage => .ok (error 400 noImage)
  | .fileTooLarge limit => .ok (error 413 s!"Uploaded file exceeds {limit} bytes.")
  | .badForm .malformed => .error .malformedForm
  | .badForm f => .ok (.fault 400 f.message)
  | .badJson f => .error (.unreadable f)

/-- The response with the result of an analysis. -/
def ofOutcome (o : Analysis.Outcome) : Except Fault Response :=
  match o.result with
  | .ok result => ofJson result.toJson
  | .error e => .ok (error 500 analysisFailed (some e.message))

/-- The response with the text in an image, or the reason why there is none. -/
def ofRecognition : Except String String → Except Fault Response
  | .ok text => ofJson (.object [("extractedText", .string text)])
  | .error reason => .ok (error 500 recognitionFailed (some reason))

end Response

end Diagnosis.Http
