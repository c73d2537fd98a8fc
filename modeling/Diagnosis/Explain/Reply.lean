import Diagnosis.Json.Read
import Diagnosis.Report.Result
import Diagnosis.Text.Blank
import Diagnosis.Text.Search

/-!
# Replies

What the explanation service answers: a JSON object with an explanation, a suggestion and the mended
text, which may stand in a fenced block or somewhere among other words. An answer without such an
object is itself the explanation.
-/

namespace Diagnosis.Explain

open Diagnosis.Text Diagnosis.Report

/-! ## Finding the object -/

/-- What opens a fenced block. -/
def openingFence : List Char := "```json".toList

/-- What closes a fenced block. -/
def closingFence : List Char := "```".toList

/-- The text up to the first line break that is followed, blanks apart, by a closing fence. -/
def upToFence? : List Char → Option (List Char)
  | [] => none
  | c :: rest =>
    if c = '\n' ∧ closingFence.isPrefixOf (rest.dropWhile isBlank) then some []
    else (upToFence? rest).map (c :: ·)

/-- The body of a fenced block, after its opening fence. It begins after one of the line breaks that
come first, the last one that works. `blanks` are the blanks before `s`. -/
def fencedBody? : List Char → Option (List Char)
  | [] => none
  | c :: rest =>
    if !isBlank c then none
    else
      match fencedBody? rest with
      | some body => some body
      | none => if c = '\n' then upToFence? rest else none

/-- The body of the first fenced block. -/
def fenced? : List Char → Option (List Char)
  | [] => none
  | c :: rest =>
    if openingFence.isPrefixOf (c :: rest) then
      match fencedBody? ((c :: rest).drop openingFence.length) with
      | some body => some body
      | none => fenced? rest
    else fenced? rest

/-- The text from the first opening brace to the last closing brace. -/
def braced (s : List Char) : List Char :=
  match indexOf? '\x7b' s, lastIndexOf? '\x7d' s with
  | some start, some stop => if start < stop then (s.drop start).take (stop + 1 - start) else []
  | _, _ => []

/-- The part of an answer that should be the object. -/
def candidate (s : List Char) : List Char := (fenced? s).getD (braced s)

/-- The part of an answer that should be the object, unless there is nothing. -/
def isolate? (s : String) : Option String :=
  let found := candidate s.toList
  if found.all isBlank then none else some (String.ofList found)

/-! ## Reading the object -/

/-- A field that is a text or missing. -/
def textField? (fields : List (String × Json)) (key : String) : Option (Option String) :=
  match Json.find? key fields with
  | none => some none
  | some .null => some none
  | some (.string s) => some (some s)
  | some _ => none

/-- The key of the mended text: of its two spellings the one that is there. -/
def fixedCodeKey (fields : List (String × Json)) : String :=
  if (Json.find? "fixedCode" fields).isSome then "fixedCode" else "fixed_code"

/-- The reply that an object is, if its fields are texts. -/
def Reply.ofJson? (v : Json) : Option Reply := do
  let fields ← v.asObject?
  return { explanation := ← textField? fields "explanation"
           suggestion := ← textField? fields "suggestion"
           fixedCode := ← textField? fields (fixedCodeKey fields) }

/-- The suggestion that goes with an answer without an object. -/
def unreadableSuggestion : String :=
  "Could not parse AI response into JSON. Check original AI response."

/-- An answer that is itself the explanation. -/
def Reply.plain (answer : String) : Reply :=
  { explanation := some answer, suggestion := some unreadableSuggestion }

/-- The reply in an answer. Numbers of too many digits and values that nest too deeply are faults;
anything else that is no such object makes the answer the explanation. -/
def readReply (answer : String) : Except Json.Fault Reply :=
  match isolate? answer with
  | none => .ok (Reply.plain answer)
  | some s =>
    match Json.read s with
    | .ok v => .ok ((Reply.ofJson? v).getD (Reply.plain answer))
    | .error (.malformed ..) => .ok (Reply.plain answer)
    | .error fault => .error fault

end Diagnosis.Explain
