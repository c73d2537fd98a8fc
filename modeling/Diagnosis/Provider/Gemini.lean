import Diagnosis.Config.Settings
import Diagnosis.Provider.Failure
import Diagnosis.Text.Encoding

/-!
# Gemini

What Gemini is asked and what its answers mean. The text of an answer is made of the texts in the
parts of its first candidate.
-/

namespace Diagnosis.Provider.Gemini

open Diagnosis.Config Diagnosis.Text

/-- The address of the model. -/
def endpoint (settings : Config.Gemini) : String :=
  String.ofList (dropEndWhile (· == '/') settings.baseUrl.toList) ++ "/models/" ++ settings.model
    ++ ":generateContent"

/-- The request for a prompt. -/
def request (settings : Config.Gemini) (prompt : String) : Json :=
  .object
    [("contents", .array
        [.object [("role", .string "user"),
          ("parts", .array [.object [("text", .string prompt)]])]]),
      ("generationConfig", .object
        [("temperature", .float settings.temperature),
          ("maxOutputTokens", .int settings.maxOutputTokens)])]

/-- The value of a key of what must be an object. -/
def fieldOf (key : String) : Json → Except Failure (Option Json)
  | .object fields => .ok (Json.find? key fields)
  | _ => .error .notAnObject

/-- The value of a key, or the default if it is missing or empty. -/
def fieldOr (key : String) (default v : Json) : Except Failure Json := do
  match ← fieldOf key v with
  | some x => return if x.isTruthy then x else default
  | none => return default

/-- The first candidate. -/
def firstCandidate : Json → Except Failure Json
  | .array (c :: _) => .ok c
  | .array [] => .error .noItem
  | .object _ => .error .noItem
  | .string _ => .error .notAnObject
  | .illFormed _ => .error .notAnObject
  | _ => .error .wrongType

/-- The parts of a candidate; what does not consist of objects has none. -/
def partsOf : Json → Except Failure (List Json)
  | .array parts => .ok (parts.filter fun p => p.asObject?.isSome)
  | .object _ => .ok []
  | .string _ => .ok []
  | .illFormed _ => .ok []
  | _ => .error .wrongType

/-- The text in a part. -/
def partText (part : Json) : Json := (part.get? "text").getD (.string "")

/-- The text in an answer. -/
def extractText (payload : Json) : Except Failure String := do
  let candidates ← fieldOr "candidates" (.array []) payload
  if !candidates.isTruthy then
    let feedback := ((← fieldOf "promptFeedback" payload).getD (.object [])).display
    throw (.failed ("Gemini returned no candidates: " ++ feedback))
  let candidate ← firstCandidate candidates
  let content ← fieldOr "content" (.object []) candidate
  let parts ← partsOf (← fieldOr "parts" (.array []) content)
  let answer ← joinTexts (parts.map partText)
  if answer.isEmpty then
    let reason := ((← fieldOf "finishReason" candidate).getD (.string "unknown")).display
    throw (.failed ("Gemini returned an empty response (finish reason: " ++ reason ++ ")"))
  return answer

/-- What has come back. -/
inductive Response where
  /-- An answer with its status, its body, and when to try again. -/
  | answer (status : Int) (body : Bytes) (retryAfter : Option String)
  /-- Nothing, in time. -/
  | timedOut (message : String)
  /-- Nothing, since the call has failed. -/
  | broken (message : String)

/-- The failure of a body that is no JSON. -/
def badBody : Json.BytesFault → Failure
  | .unreadable .tooDeep => .tooDeep
  | fault => .failed ("Gemini returned invalid JSON: " ++ fault.message)

/-- The text of an answer. -/
def readResponse : Response → Except Failure String
  | .timedOut message => .error (.timedOut ("Gemini request timed out: " ++ message))
  | .broken message => .error (.failed ("Gemini request failed: " ++ message))
  | .answer status body retryAfter =>
    if status = 429 then rateLimit "Gemini rate limit exceeded" retryAfter
    else if 400 ≤ status then
      let shown := String.ofList ((decode body).take 200)
      .error (.failed ("Gemini API error " ++ toString status ++ ": " ++ shown))
    else do
      let payload ← (Json.readBytes body).mapError badBody
      limited (← extractText payload)

end Diagnosis.Provider.Gemini
