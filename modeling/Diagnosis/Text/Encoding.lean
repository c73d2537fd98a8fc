import Diagnosis.Json.Read
import Diagnosis.Text.Utf8

/-!
# Encodings

JSON texts come in UTF-8, UTF-16 or UTF-32, with or without a byte order mark. `Encoding.detect`
tells which from the first bytes, `Encoding.decode` reads the code points. Lone surrogates are let
through; everything else that is malformed is a fault.
-/

namespace Diagnosis.Text

/-- The order of the bytes of a number. -/
inductive ByteOrder where
  /-- The least significant byte comes first. -/
  | little
  /-- The most significant byte comes first. -/
  | big
  deriving Repr, DecidableEq

/-- An encoding. `marked` says that a byte order mark comes first. -/
inductive Encoding where
  /-- UTF-8. -/
  | utf8 (marked : Bool)
  /-- UTF-16. -/
  | utf16 (order : ByteOrder) (marked : Bool)
  /-- UTF-32. -/
  | utf32 (order : ByteOrder) (marked : Bool)
  deriving Repr, DecidableEq

/-- Bytes that are no text of an encoding. -/
structure DecodeFault where
  /-- The encoding. -/
  codec : String
  /-- The first of the bytes. -/
  byte : UInt8
  /-- Where the bytes begin. -/
  start : Nat
  /-- Where the last of them stands. -/
  last : Nat
  /-- What is wrong with them. -/
  reason : String
  deriving Repr, DecidableEq

/-- The wording of a fault. -/
def DecodeFault.message (f : DecodeFault) : String :=
  let what :=
    if f.start = f.last then
      "byte 0x" ++ hexDigits 2 f.byte.toNat ++ " in position " ++ toString f.start
    else "bytes in position " ++ toString f.start ++ "-" ++ toString f.last
  "'" ++ f.codec ++ "' codec can't decode " ++ what ++ ": " ++ f.reason

/-! ## UTF-8 -/

/-- The surrogate that comes first, and what follows it. -/
def surrogateAt? : Bytes → Option (Nat × Bytes)
  | a :: b :: c :: rest =>
    if a = 0xED ∧ 0xA0 ≤ b ∧ b ≤ 0xBF ∧ isContinuation c then
      some (addBits (addBits 13 b) c, rest)
    else none
  | _ => none

/-- What comes before the first surrogate, and the surrogate with what follows it. -/
def splitSurrogate : Bytes → Bytes × Option (Nat × Bytes)
  | [] => ([], none)
  | b :: rest =>
    match surrogateAt? (b :: rest) with
    | some found => ([], some found)
    | none =>
      let (before, found) := splitSurrogate rest
      (b :: before, found)

/-- A fault of UTF-8. A sequence that a surrogate breaks off does not end the text. -/
def utf8Fault (broken : Bool) : Utf8Fault → DecodeFault
  | .badStart offset byte => ⟨"utf-8", byte, offset, offset, "invalid start byte"⟩
  | .badContinuation offset byte last =>
    ⟨"utf-8", byte, offset, last, "invalid continuation byte"⟩
  | .truncated offset byte last =>
    ⟨"utf-8", byte, offset, last,
      if broken then "invalid continuation byte" else "unexpected end of data"⟩

/-- The code points of UTF-8. -/
def utf8Codes (offset : Nat) : Nat → Bytes → Except DecodeFault (List Nat)
  | 0, _ => .ok []
  | fuel + 1, bytes => do
    let (before, found) := splitSurrogate bytes
    let chars ← (decodeStrictFrom offset before).mapError (utf8Fault found.isSome)
    let codes := chars.map (·.toNat)
    match found with
    | none => return codes
    | some (code, rest) =>
      return codes ++ code :: (← utf8Codes (offset + before.length + 3) fuel rest)

/-! ## UTF-16 and UTF-32 -/

/-- The name of an order in the name of a codec. -/
def ByteOrder.suffix : ByteOrder → String
  | little => "-le"
  | big => "-be"

/-- The number that bytes write. -/
def ByteOrder.number (order : ByteOrder) (bytes : Bytes) : Nat :=
  let high := match order with
    | little => bytes.reverse
    | big => bytes
  high.foldl (fun n b => n * 256 + b.toNat) 0

/-- The code units of UTF-16. -/
def units (order : ByteOrder) (offset : Nat) : Bytes → Except DecodeFault (List Nat)
  | [] => .ok []
  | [b] => .error ⟨"utf-16" ++ order.suffix, b, offset, offset, "truncated data"⟩
  | a :: b :: rest => (order.number [a, b] :: ·) <$> units order (offset + 2) rest

/-- The code points of code units. -/
def joinUnits : List Nat → List Nat
  | [] => []
  | [u] => [u]
  | u :: v :: rest =>
    if Json.isHighSurrogate u && Json.isLowSurrogate v then
      Json.joinSurrogates u v :: joinUnits rest
    else u :: joinUnits (v :: rest)

/-- The code points of UTF-32. -/
def utf32Codes (order : ByteOrder) (offset : Nat) : Bytes → Except DecodeFault (List Nat)
  | [] => .ok []
  | a :: b :: c :: d :: rest =>
    let n := order.number [a, b, c, d]
    if n < 0x110000 then (n :: ·) <$> utf32Codes order (offset + 4) rest
    else
      .error ⟨"utf-32" ++ order.suffix, a, offset, offset + 3, "code point not in range(0x110000)"⟩
  | b :: rest =>
    .error ⟨"utf-32" ++ order.suffix, b, offset, offset + rest.length, "truncated data"⟩

namespace Encoding

/-- The encoding without a mark, told by where zero bytes stand. -/
def ofZeros : Bytes → Encoding
  | 0 :: 0 :: _ :: _ :: _ => utf32 .big false
  | 0 :: _ :: _ :: _ :: _ => utf16 .big false
  | _ :: 0 :: 0 :: 0 :: _ => utf32 .little false
  | _ :: 0 :: _ :: _ :: _ => utf16 .little false
  | [0, _] => utf16 .big false
  | [_, 0] => utf16 .little false
  | _ => utf8 false

/-- The encoding of a JSON text. -/
def detect : Bytes → Encoding
  | 0 :: 0 :: 0xFE :: 0xFF :: _ => utf32 .big true
  | 0xFF :: 0xFE :: 0 :: 0 :: _ => utf32 .little true
  | 0xFE :: 0xFF :: _ => utf16 .big true
  | 0xFF :: 0xFE :: _ => utf16 .little true
  | 0xEF :: 0xBB :: 0xBF :: _ => utf8 true
  | bytes => ofZeros bytes

/-- The code points of bytes. -/
def decode (bytes : Bytes) : Encoding → Except DecodeFault (List Nat)
  | utf8 marked =>
    let body := if marked then bytes.drop 3 else bytes
    utf8Codes 0 (body.length + 1) body
  | utf16 order marked =>
    let k := if marked then 2 else 0
    joinUnits <$> units order k (bytes.drop k)
  | utf32 order marked =>
    let k := if marked then 4 else 0
    utf32Codes order k (bytes.drop k)

end Encoding

/-! ## Latin-1

Headers are bytes of which each stands for the character with its number. A text that should be
UTF-8 but is not is read the same way. -/

/-- The text in which each byte is the character with its number. -/
def latin (bytes : Bytes) : List Char := bytes.map fun b => Char.ofNat b.toNat

/-- The bytes of a text whose characters all have numbers below 256. -/
def latinBytes (s : List Char) : Bytes := s.map fun c => UInt8.ofNat c.toNat

/-- The text of bytes in UTF-8, or in Latin-1 if they are no UTF-8. -/
def decodeOrLatin (bytes : Bytes) : List Char :=
  match decodeStrict bytes with
  | .ok s => s
  | .error _ => latin bytes

end Diagnosis.Text

namespace Diagnosis.Json

open Diagnosis.Text

/-- Why bytes are no JSON. -/
inductive BytesFault where
  /-- They are no text. -/
  | undecodable (fault : DecodeFault)
  /-- The text is no JSON. -/
  | unreadable (fault : Fault)
  deriving Repr, DecidableEq

/-- The wording of a fault. -/
def BytesFault.message : BytesFault → String
  | undecodable fault => fault.message
  | unreadable fault => fault.message

/-! ## Lone surrogates

No character is a surrogate. While a text with lone surrogates is read, characters that do not occur in
it stand for them. -/

/-- Code points for private use that do not occur among the given ones, so many as are wanted. -/
def unusedCodes (wanted : Nat) (codes : List Nat) : List Nat :=
  let occurring := codes.filter (0xF0000 ≤ ·)
  let candidates := (List.range (wanted + occurring.length)).map (0x10FFFF - ·)
  (candidates.filter (!occurring.contains ·)).take wanted

/-- The lone surrogates of a text, each with the code point that stands for it. -/
def substitutes (codes : List Nat) : List (Nat × Nat) :=
  let surrogates := (codes.filter isSurrogate).eraseDups
  surrogates.zip (unusedCodes surrogates.length codes)

/-- The characters of a text; others stand for its lone surrogates. -/
def spelled (codes : List Nat) : List Char :=
  let table := substitutes codes
  codes.map fun n => Char.ofNat ((table.lookup n).getD n)

/-- The lone surrogate that a code point stands for, or the code point itself. -/
def restoredCode (table : List (Nat × Nat)) (n : Nat) : Nat :=
  ((table.find? fun entry => entry.2 == n).map (·.1)).getD n

mutual

/-- A value with the lone surrogates of the table in the places of what stood for them. -/
def restore (table : List (Nat × Nat)) : Json → Json
  | string s => ofCodes (s.toList.map fun c => restoredCode table c.toNat)
  | illFormed codes => illFormed (codes.map (restoredCode table))
  | array items => array (restoreItems table items)
  | object fields => object (restoreFields table fields)
  | v => v

/-- The same for the items of an array. -/
def restoreItems (table : List (Nat × Nat)) : List Json → List Json
  | [] => []
  | item :: rest => restore table item :: restoreItems table rest

/-- The same for the fields of an object. -/
def restoreFields (table : List (Nat × Nat)) : List (String × Json) → List (String × Json)
  | [] => []
  | (key, value) :: rest =>
    (keyOfCodes (key.toList.map fun c => restoredCode table c.toNat), restore table value) ::
      restoreFields table rest

end

/-- The value that bytes write. -/
def readBytes (bytes : Bytes) : Except BytesFault Json := do
  let codes ← ((Encoding.detect bytes).decode bytes).mapError .undecodable
  let value ← (readNested defaultNesting (spelled codes)).mapError .unreadable
  let table := substitutes codes
  return if table.isEmpty then value else restore table value

end Diagnosis.Json
