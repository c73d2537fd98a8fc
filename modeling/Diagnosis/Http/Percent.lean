import Diagnosis.Json.Read
import Diagnosis.Text.Encoding

/-!
# Percent escapes

In addresses and forms a percent sign with two hexadecimal digits is a byte. One without digits
stands for itself.
-/

namespace Diagnosis.Http

open Diagnosis.Text

/-- The bytes of a text with escapes. -/
def percentBytes : List Char → Bytes
  | '%' :: a :: b :: rest =>
    match Json.hexValue? a, Json.hexValue? b with
    | some x, some y => UInt8.ofNat (x * 16 + y) :: percentBytes rest
    | _, _ => UInt8.ofNat '%'.toNat :: percentBytes (a :: b :: rest)
  | c :: rest => UInt8.ofNat c.toNat :: percentBytes rest
  | [] => []

/-- Whether a character is one of the first 128. -/
def isAscii (c : Char) : Bool := c.toNat < 0x80

/-- The text without its escapes. The bytes between characters that are not ASCII are UTF-8 of their
own, in which faults are replaced. -/
def percentDecoded (s : List Char) : List Char :=
  (s.splitBy fun a b => isAscii a == isAscii b).flatMap fun run =>
    if run.all isAscii then decode (percentBytes run) else run

/-- The text of a form field, in which plus signs are spaces. -/
def plusDecoded (s : List Char) : List Char :=
  percentDecoded (s.map fun c => if c = '+' then ' ' else c)

end Diagnosis.Http
