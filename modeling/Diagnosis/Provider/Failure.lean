import Diagnosis.Json.Display
import Diagnosis.Text.Numeral

/-!
# Failures of explanation services

Why an explanation service gives no text. What one service means by a failure is told in that
service's module; here is what failures have in common.
-/

namespace Diagnosis.Provider

open Diagnosis.Text

/-- Why an explanation service gives no text. -/
inductive Failure where
  /-- The call has failed, or the answer cannot be used. -/
  | failed (message : String)
  /-- There have been too many calls; `retryAfter` says when to try again, in seconds. -/
  | rateLimited (message : String) (retryAfter : Option Int)
  /-- There was no answer in time. -/
  | timedOut (message : String)
  /-- It is not said in a number when to try again. -/
  | badDelay (fault : NumeralFault)
  /-- Something that should be an object is none. -/
  | notAnObject
  /-- Something that should be in a list is not there. -/
  | noItem
  /-- Something that should be a list or a text is none. -/
  | wrongType
  /-- The answer nests too deep. -/
  | tooDeep
  deriving Repr, DecidableEq

/-- The wording of a failure. -/
def Failure.message : Failure → String
  | failed message => message
  | rateLimited message _ => message
  | timedOut message => message
  | badDelay fault => fault.message
  | notAnObject => "an object was expected"
  | noItem => "an item is missing"
  | wrongType => "a value of another type was expected"
  | tooDeep => Json.Fault.message .tooDeep

/-- The bounds of the characters that are digits, but not decimal ones: digits in circles,
superscripts and the like, of Unicode 14. -/
def otherDigitBounds : Array Nat :=
  #[178, 180, 185, 186, 4969, 4978, 6618, 6619, 8304, 8305, 8308, 8314, 8320, 8330, 9312, 9321,
    9332, 9341, 9352, 9361, 9450, 9451, 9461, 9470, 9471, 9472, 10102, 10111, 10112, 10121, 10122,
    10131, 68160, 68164, 69216, 69225, 69714, 69723, 127232, 127243]

/-- Whether a character is a digit of any kind. -/
def isAnyDigit (c : Char) : Bool := isDigit c || isWithin otherDigitBounds c

/-- When to try again. What does not consist of digits says nothing. -/
def readDelay (header : Option String) : Except Failure (Option Int) :=
  match header with
  | none => .ok none
  | some s =>
    if s.isEmpty || !s.toList.all isAnyDigit then .ok none
    else (some <$> readWhole s.toList).mapError .badDelay

/-- The failure of too many calls. -/
def rateLimit {α : Type} (message : String) (header : Option String) : Except Failure α := do
  throw (.rateLimited message (← readDelay header))

/-- The most characters that an answer may have. -/
def answerLimit : Nat := 50000

/-- An answer, unless it is too long. -/
def limited (answer : String) : Except Failure String :=
  if answerLimit < answer.length then
    .error (.failed ("Response exceeds maximum length: " ++ toString answer.length))
  else .ok answer

/-- The text that pieces make together. Each must be a text. -/
def joinTexts (pieces : List Json) : Except Failure String := do
  let texts ← pieces.mapM fun
    | .string s => .ok s
    | .illFormed codes => .ok (Json.keyOfCodes codes)
    | _ => .error .wrongType
  return String.join texts

end Diagnosis.Provider
