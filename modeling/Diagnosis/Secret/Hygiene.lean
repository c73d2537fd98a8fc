import Diagnosis.Text.Case
import Diagnosis.Text.Search

/-!
# Log hygiene

`sanitize` takes colours and control characters out of the output of tools, `mask` hides the values
of settings that are named like credentials.
-/

namespace Diagnosis.Secret

open Diagnosis.Text

/-- Whether a character may stand between the start and the end of a colour sequence. -/
def isColourParameter (c : Char) : Bool := ('0' ≤ c && c ≤ '9') || c = ';'

/-- What comes after a colour sequence, if the text after an escape character is one. -/
def afterColour? : List Char → Option (List Char)
  | '[' :: rest =>
    match rest.dropWhile isColourParameter with
    | c :: tail => if c = 'm' ∨ c = 'K' then some tail else none
    | [] => none
  | _ => none

/-- What comes behind a colour sequence is shorter. -/
theorem length_afterColour {s t : List Char} (h : afterColour? s = some t) :
    t.length < s.length := by
  unfold afterColour? at h
  split at h
  case h_1 rest =>
    have hrest : (rest.dropWhile isColourParameter).length ≤ rest.length :=
      (List.dropWhile_suffix isColourParameter).length_le
    cases hend : rest.dropWhile isColourParameter with
    | nil => simp [hend] at h
    | cons c tail =>
      obtain ⟨-, rfl⟩ : (c = 'm' ∨ c = 'K') ∧ tail = t := by simpa [hend] using h
      rw [hend, List.length_cons] at hrest
      rw [List.length_cons]
      omega
  case h_2 => cases h

/-- The character that begins a colour sequence. -/
def escapeChar : Char := '\x1b'

/-- The text without colour sequences. -/
def stripColours : List Char → List Char
  | [] => []
  | c :: rest =>
    if c = escapeChar then
      match _h : afterColour? rest with
      | some tail => stripColours tail
      | none => c :: stripColours rest
    else c :: stripColours rest
termination_by s => s.length
decreasing_by
  · exact Nat.lt_succ_of_lt (length_afterColour ‹_›)
  · exact Nat.lt_succ_self _
  · exact Nat.lt_succ_self _

/-- Whether a character is a control character other than tab, line feed and carriage return. -/
def isControl (c : Char) : Bool :=
  let n := c.toNat
  n ≤ 8 || n = 0x0b || n = 0x0c || (0x0e ≤ n && n ≤ 0x1f) || n = 0x7f

/-- The text without colour sequences and control characters. -/
def sanitize (s : List Char) : List Char := (stripColours s).filter (!isControl ·)

/-- The string without colour sequences and control characters. -/
def sanitizeString (s : String) : String := String.ofList (sanitize s.toList)

/-- The words that mark the name of a credential. -/
def credentialWords : List String := ["token", "key", "secret", "password", "credential"]

/-- Whether something is named like a credential. -/
def namesCredential (key : String) : Bool := credentialWords.any (stringOccurs · (lower key))

/-- A value as it may be shown. A credential keeps its first and last four characters, if it is
long. -/
def mask (key value : String) : String :=
  if !namesCredential key then value
  else
    let s := value.toList
    if 8 < s.length then
      String.ofList (s.take 4) ++ "..." ++ String.ofList (s.drop (s.length - 4))
    else "***"

end Diagnosis.Secret
