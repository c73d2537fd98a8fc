import Diagnosis.Json.Display

/-!
# Writing JSON

* `compact` writes a value on one line, with every character above the ASCII controls as it is;
  `compactCodes` gives the code points of that line, in which surrogates are left alone.
* `pretty` writes one item a line, two blanks deeper per level, in ASCII only.

Both write doubles with the fewest digits that read back.
-/

namespace Diagnosis

/-- Doubles in written JSON. -/
def Decimal.jsonLayout : Decimal.Layout :=
  { Decimal.plainLayout with nan := "NaN", infinity := "Infinity" }

namespace Json

/-- The short escape of a character in a JSON string. -/
def shortEscape? : Char → Option String
  | '"' => some "\\\""
  | '\\' => some "\\\\"
  | '\n' => some "\\n"
  | '\r' => some "\\r"
  | '\t' => some "\\t"
  | '\x08' => some "\\b"
  | '\x0c' => some "\\f"
  | _ => none

/-- A code unit as an escape. -/
def unitEscape (n : Nat) : String := "\\u" ++ Text.hexDigits 4 n

/-- A code point in ASCII escapes: one, or a surrogate pair. -/
def asciiEscape (n : Nat) : String :=
  if n < 0x10000 then unitEscape n
  else unitEscape (0xD800 + (n - 0x10000) / 0x400) ++ unitEscape (0xDC00 + (n - 0x10000) % 0x400)

/-- A character of a string; outside ASCII it is escaped if `ascii`. -/
def escapedChar (ascii : Bool) (c : Char) : String :=
  match shortEscape? c with
  | some e => e
  | none =>
    if c.toNat < 32 then unitEscape c.toNat
    else if ascii && c.toNat > 126 then asciiEscape c.toNat
    else String.ofList [c]

/-- A string with its quotes. -/
def writeString (ascii : Bool) (s : String) : String :=
  s.toList.foldl (fun acc c => acc ++ escapedChar ascii c) "\"" ++ "\""

/-- A code point of an ill-formed text. -/
def escapedCode (n : Nat) : String :=
  if isSurrogate n then unitEscape n else escapedChar true (Char.ofNat n)

/-- A scalar; containers are left to the caller. -/
def writeScalar (ascii : Bool) : Json → String
  | null => "null"
  | bool b => if b then "true" else "false"
  | int n => toString n
  | float x => Decimal.jsonLayout.write x
  | string s => writeString ascii s
  | illFormed codes => "\"" ++ String.join (codes.map escapedCode) ++ "\""
  | array _ => "[]"
  | object _ => "\x7b\x7d"

mutual

/-- A value on one line. -/
def compact : Json → String
  | array items => "[" ++ String.intercalate "," (compactItems items) ++ "]"
  | object fields => "\x7b" ++ String.intercalate "," (compactFields fields) ++ "\x7d"
  | v => writeScalar false v

/-- Items on one line each for itself. -/
def compactItems : List Json → List String
  | [] => []
  | v :: vs => compact v :: compactItems vs

/-- Fields on one line each for itself. -/
def compactFields : List (String × Json) → List String
  | [] => []
  | (k, v) :: rest => (writeString false k ++ ":" ++ compact v) :: compactFields rest

end

/-- A new line at the given level. -/
def newLine (level : Nat) : String := "\n" ++ String.ofList (List.replicate (2 * level) ' ')

/-- Lines between brackets, one level deeper than the brackets. -/
def block (opening closing : String) (level : Nat) : List String → String
  | [] => opening ++ closing
  | lines =>
    opening ++ newLine (level + 1) ++ String.intercalate ("," ++ newLine (level + 1)) lines
      ++ newLine level ++ closing

mutual

/-- A value that begins on a line of the given level. -/
def prettyAt (level : Nat) : Json → String
  | array items => block "[" "]" level (prettyItems (level + 1) items)
  | object fields => block "\x7b" "\x7d" level (prettyFields (level + 1) fields)
  | v => writeScalar true v

/-- Items of the given level. -/
def prettyItems (level : Nat) : List Json → List String
  | [] => []
  | v :: vs => prettyAt level v :: prettyItems level vs

/-- Fields of the given level. -/
def prettyFields (level : Nat) : List (String × Json) → List String
  | [] => []
  | (k, v) :: rest =>
    (writeString true k ++ ": " ++ prettyAt level v) :: prettyFields level rest

end

/-- A value with one item a line. -/
def pretty (v : Json) : String := prettyAt 0 v

/-! ## Sending

What is sent as JSON are bytes, so there may be no lone surrogates in it, and no double that is not finite.
-/

mutual

/-- Whether all doubles in a value are finite. -/
def isFinite : Json → Bool
  | float x => x.isFinite
  | array items => areFinite items
  | object fields => fieldsAreFinite fields
  | _ => true

/-- Whether this holds of several values. -/
def areFinite : List Json → Bool
  | [] => true
  | v :: vs => isFinite v && areFinite vs

/-- Whether this holds of the values of fields. -/
def fieldsAreFinite : List (String × Json) → Bool
  | [] => true
  | (_, v) :: rest => isFinite v && fieldsAreFinite rest

end

/-- The code points of a string. -/
def codesOf (s : String) : List Nat := s.toList.map (·.toNat)

/-- A code point of an ill-formed text between quotes; a lone surrogate is left as it is. -/
def looseCode (n : Nat) : List Nat :=
  if isSurrogate n then [n] else codesOf (escapedChar false (Char.ofNat n))

mutual

/-- The code points of a value on one line. -/
def compactCodes : Json → List Nat
  | illFormed codes => codesOf "\"" ++ codes.flatMap looseCode ++ codesOf "\""
  | array items => codesOf "[" ++ List.intercalate (codesOf ",") (compactItemCodes items) ++ codesOf "]"
  | object fields =>
    codesOf "\x7b" ++ List.intercalate (codesOf ",") (compactFieldCodes fields) ++ codesOf "\x7d"
  | v => codesOf (writeScalar false v)

/-- The code points of items, for each item by itself. -/
def compactItemCodes : List Json → List (List Nat)
  | [] => []
  | v :: vs => compactCodes v :: compactItemCodes vs

/-- The code points of fields, for each field by itself. -/
def compactFieldCodes : List (String × Json) → List (List Nat)
  | [] => []
  | (k, v) :: rest =>
    (codesOf (writeString false k) ++ codesOf ":" ++ compactCodes v) :: compactFieldCodes rest

end

end Json

end Diagnosis
