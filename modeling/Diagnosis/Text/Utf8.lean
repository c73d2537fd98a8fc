/-!
# UTF-8

Texts travel as bytes: syntax trees and fixes count bytes, messages count characters. This module
converts between the two.

* `encode` writes characters as bytes; it cannot fail.
* `decode` reads any bytes. A malformed stretch becomes one replacement character per *maximal
  ill-formed prefix*: the longest start of a well-formed sequence that the next byte cannot
  continue.
* `decodeStrict` reads well-formed bytes only and otherwise names the first fault.

What is not here: other encodings (`Text.Encoding`).
-/

namespace Diagnosis.Text

/-- A byte string. Offsets into it start at zero. -/
abbrev Bytes := List UInt8

/-- The bytes of a text. -/
def encode (s : List Char) : Bytes := s.flatMap String.utf8EncodeChar

/-- The bytes of a string. -/
def encodeString (s : String) : Bytes := encode s.toList

/-- The character that stands for bytes that are no text. -/
def replacement : Char := '\uFFFD'

/-- What a lead byte announces: how many continuation bytes follow, and which range the first of
them may have. -/
structure Lead where
  /-- The number of continuation bytes. -/
  tail : Nat
  /-- The smallest admissible second byte. -/
  lo : UInt8 := 0x80
  /-- The largest admissible second byte. -/
  hi : UInt8 := 0xBF
  /-- The payload bits of the lead byte. -/
  bits : Nat

/-- The announcement of a lead byte, or `none` for a byte that begins no sequence. The bounds on
the second byte rule out overlong forms, surrogates and code points past the last one. -/
def Lead.of? (b : UInt8) : Option Lead :=
  if b < 0x80 then some { tail := 0, bits := b.toNat }
  else if b < 0xC2 then none
  else if b < 0xE0 then some { tail := 1, bits := b.toNat % 32 }
  else if b = 0xE0 then some { tail := 2, lo := 0xA0, bits := 0 }
  else if b = 0xED then some { tail := 2, hi := 0x9F, bits := 13 }
  else if b < 0xF0 then some { tail := 2, bits := b.toNat % 16 }
  else if b = 0xF0 then some { tail := 3, lo := 0x90, bits := 0 }
  else if b < 0xF4 then some { tail := 3, bits := b.toNat % 8 }
  else if b = 0xF4 then some { tail := 3, hi := 0x8F, bits := 4 }
  else none

/-- Whether a byte continues a sequence. -/
def isContinuation (b : UInt8) : Bool := 0x80 ≤ b && b ≤ 0xBF

/-- Adds the six payload bits of a continuation byte. -/
def addBits (acc : Nat) (b : UInt8) : Nat := acc * 64 + b.toNat % 64

/-- Reads all bytes; each maximal ill-formed prefix gives one replacement character. -/
def decode : Bytes → List Char
  | [] => []
  | b :: rest =>
    match Lead.of? b with
    | none => replacement :: decode rest
    | some lead =>
      if lead.tail = 0 then Char.ofNat lead.bits :: decode rest
      else match rest with
        | [] => [replacement]
        | b₁ :: rest₁ =>
          if !(lead.lo ≤ b₁ && b₁ ≤ lead.hi) then replacement :: decode (b₁ :: rest₁)
          else if lead.tail = 1 then Char.ofNat (addBits lead.bits b₁) :: decode rest₁
          else match rest₁ with
            | [] => [replacement]
            | b₂ :: rest₂ =>
              if !isContinuation b₂ then replacement :: decode (b₂ :: rest₂)
              else if lead.tail = 2 then
                Char.ofNat (addBits (addBits lead.bits b₁) b₂) :: decode rest₂
              else match rest₂ with
                | [] => [replacement]
                | b₃ :: rest₃ =>
                  if !isContinuation b₃ then replacement :: decode (b₃ :: rest₃)
                  else Char.ofNat (addBits (addBits (addBits lead.bits b₁) b₂) b₃) :: decode rest₃

/-- The text of a byte string, faults replaced. -/
def decodeString (bytes : Bytes) : String := String.ofList (decode bytes)

/-! ## Strict reading -/

/-- Why bytes are not UTF-8. -/
inductive Utf8Fault where
  /-- The byte at the offset begins no sequence. -/
  | badStart (offset : Nat) (byte : UInt8)
  /-- The sequence that begins at the offset is broken off by a byte that cannot continue it;
  `last` is the offset of its last well-formed byte. -/
  | badContinuation (offset : Nat) (byte : UInt8) (last : Nat)
  /-- The text ends inside the sequence that begins at the offset; `last` is its last byte. -/
  | truncated (offset : Nat) (byte : UInt8) (last : Nat)
  deriving Repr, DecidableEq

/-- Reads well-formed bytes; the first fault otherwise. The offset counts the bytes read so far. -/
def decodeStrictFrom (offset : Nat) : Bytes → Except Utf8Fault (List Char)
  | [] => .ok []
  | b :: rest =>
    match Lead.of? b with
    | none => .error (.badStart offset b)
    | some lead =>
      if lead.tail = 0 then (Char.ofNat lead.bits :: ·) <$> decodeStrictFrom (offset + 1) rest
      else match rest with
        | [] => .error (.truncated offset b offset)
        | b₁ :: rest₁ =>
          if !(lead.lo ≤ b₁ && b₁ ≤ lead.hi) then .error (.badContinuation offset b offset)
          else if lead.tail = 1 then
            (Char.ofNat (addBits lead.bits b₁) :: ·) <$> decodeStrictFrom (offset + 2) rest₁
          else match rest₁ with
            | [] => .error (.truncated offset b (offset + 1))
            | b₂ :: rest₂ =>
              if !isContinuation b₂ then .error (.badContinuation offset b (offset + 1))
              else if lead.tail = 2 then
                (Char.ofNat (addBits (addBits lead.bits b₁) b₂) :: ·)
                  <$> decodeStrictFrom (offset + 3) rest₂
              else match rest₂ with
                | [] => .error (.truncated offset b (offset + 2))
                | b₃ :: rest₃ =>
                  if !isContinuation b₃ then .error (.badContinuation offset b (offset + 2))
                  else (Char.ofNat (addBits (addBits (addBits lead.bits b₁) b₂) b₃) :: ·)
                    <$> decodeStrictFrom (offset + 4) rest₃

/-- Reads well-formed bytes; the first fault otherwise. -/
def decodeStrict (bytes : Bytes) : Except Utf8Fault (List Char) := decodeStrictFrom 0 bytes

end Diagnosis.Text
