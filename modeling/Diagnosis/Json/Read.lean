import Diagnosis.Json.Value
import Diagnosis.Decimal.Layout
import Diagnosis.Text.Numeral

/-!
# Reading JSON

`Json.read` reads one value and refuses everything that follows it. A refusal is a `Fault`; a fault
of syntax says what was missing and at which character, `Fault.message` words it.

Beyond the standard three names are numbers: `NaN`, `Infinity` and `-Infinity`. A repeated key keeps
its first place and its last value. Two limits apply: a whole number has at most `Text.numeralLimit`
digits and values nest at most as deep as the caller allows.

The readers work on the characters that are left, and a fault notes how many were left when it
arose. Only `read`, which knows the whole text, turns that count into a place.
-/

namespace Diagnosis.Json

/-- What the reader missed. -/
inductive Reason where
  /-- No value begins here. -/
  | value
  /-- An object's key must begin here. -/
  | propertyName
  /-- A colon must stand between a key and its value. -/
  | colon
  /-- A comma must stand between two items. -/
  | comma
  /-- Something follows the value. -/
  | extraData
  /-- The string that begins here has no end. -/
  | unterminated
  /-- A control character stands in a string. -/
  | controlCharacter
  /-- A backslash does not begin an escape. -/
  | badEscape
  /-- The four hexadecimal digits of an escape are not there. -/
  | badUnicodeEscape
  /-- The text begins with a byte order mark. -/
  | byteOrderMark
  deriving Repr, DecidableEq

/-- The wording of a reason. -/
def Reason.message : Reason → String
  | value => "Expecting value"
  | propertyName => "Expecting property name enclosed in double quotes"
  | colon => "Expecting ':' delimiter"
  | comma => "Expecting ',' delimiter"
  | extraData => "Extra data"
  | unterminated => "Unterminated string starting at"
  | controlCharacter => "Invalid control character at"
  | badEscape => "Invalid \\escape"
  | badUnicodeEscape => "Invalid \\uXXXX escape"
  | byteOrderMark => "Unexpected UTF-8 BOM (decode using utf-8-sig)"

/-- Why a text is not read. -/
inductive Fault where
  /-- The text is no JSON. `line` and `column` count from one, `offset` from zero. -/
  | malformed (reason : Reason) (line column offset : Nat)
  /-- A whole number is too long. -/
  | tooManyDigits (digits : Nat)
  /-- Values nest too deep. -/
  | tooDeep
  deriving Repr, DecidableEq

/-- How deep values may nest in texts from outside, and in values that messages quote. Each level takes
a call of its own, and about a thousand calls fit into each other. -/
def defaultNesting : Nat := 990

/-- The wording of a fault. -/
def Fault.message : Fault → String
  | malformed reason line column offset =>
    s!"{reason.message}: line {line} column {column} (char {offset})"
  | tooManyDigits n => Text.tooLongMessage n
  | tooDeep => "maximum recursion depth exceeded while decoding a JSON document"

/-- A fault as the readers raise it: places are counted from the end of the text. -/
inductive Stop where
  /-- Malformed text, with so many characters left. -/
  | malformed (reason : Reason) (left : Nat)
  /-- A whole number is too long. -/
  | tooManyDigits (digits : Nat)
  /-- Values nest too deep. -/
  | tooDeep

/-- A fault at the given rest. -/
def stopAt {α : Type} (reason : Reason) (rest : List Char) : Except Stop α :=
  .error (.malformed reason rest.length)

/-- The blanks between tokens. -/
def isSpace (c : Char) : Bool := c = ' ' || c = '\t' || c = '\n' || c = '\r'

/-- Skips blanks. -/
def skipSpace (s : List Char) : List Char := s.dropWhile isSpace

/-! ## Strings -/

/-- The value of a hexadecimal digit. -/
def hexValue? (c : Char) : Option Nat :=
  if '0' ≤ c ∧ c ≤ '9' then some (c.toNat - 48)
  else if 'a' ≤ c ∧ c ≤ 'f' then some (c.toNat - 87)
  else if 'A' ≤ c ∧ c ≤ 'F' then some (c.toNat - 55)
  else none

/-- The number that four hexadecimal digits at the front of a text write. -/
def hex4? : List Char → Option (Nat × List Char)
  | a :: b :: c :: d :: rest => do
    let a ← hexValue? a
    let b ← hexValue? b
    let c ← hexValue? c
    let d ← hexValue? d
    return (((a * 16 + b) * 16 + c) * 16 + d, rest)
  | _ => none

/-- Whether a code point is the first half of a surrogate pair. -/
def isHighSurrogate (n : Nat) : Bool := 0xD800 ≤ n && n ≤ 0xDBFF

/-- Whether a code point is the second half of a surrogate pair. -/
def isLowSurrogate (n : Nat) : Bool := 0xDC00 ≤ n && n ≤ 0xDFFF

/-- The code point of a surrogate pair. -/
def joinSurrogates (high low : Nat) : Nat := 0x10000 + (high - 0xD800) * 0x400 + (low - 0xDC00)

/-- What a one-letter escape stands for. -/
def simpleEscape? : Char → Option Char
  | '"' => some '"'
  | '\\' => some '\\'
  | '/' => some '/'
  | 'b' => some '\x08'
  | 'f' => some '\x0c'
  | 'n' => some '\n'
  | 'r' => some '\r'
  | 't' => some '\t'
  | _ => none

/-- The partner of a high surrogate: a second escape that follows it and is not the end of the
text. An escape that is no low surrogate is left alone, one without digits is a fault. -/
def readPartner (high : Nat) (rest : List Char) : Except Stop (Nat × List Char) :=
  match rest with
  | '\\' :: 'u' :: more =>
    if isHighSurrogate high && more.length > 4 then
      match hex4? more with
      | none => .error (.malformed .badUnicodeEscape (more.length + 1))
      | some (low, after) =>
        if isLowSurrogate low then .ok (joinSurrogates high low, after) else .ok (high, rest)
    else .ok (high, rest)
  | _ => .ok (high, rest)

/-- The escape after a backslash; `atSlash` is the rest that begins with the backslash. -/
def readEscape (quote : Nat) (atSlash : List Char) : List Char → Except Stop (Nat × List Char)
  | [] => .error (.malformed .unterminated quote)
  | 'u' :: digits =>
    if digits.length ≤ 4 then .error (.malformed .badUnicodeEscape (digits.length + 1))
    else match hex4? digits with
      | none => .error (.malformed .badUnicodeEscape (digits.length + 1))
      | some (n, rest) => readPartner n rest
  | c :: rest =>
    match simpleEscape? c with
    | some d => .ok (d.toNat, rest)
    | none => stopAt .badEscape atSlash

/-- The code points of a string up to its closing quote. `quote` says how many characters were left
at the opening quote. -/
def readStringBody (fuel quote : Nat) (s : List Char) : Except Stop (List Nat × List Char) :=
  match fuel with
  | 0 => .error (.malformed .unterminated quote)
  | fuel + 1 =>
    match s with
    | [] => .error (.malformed .unterminated quote)
    | '"' :: rest => .ok ([], rest)
    | '\\' :: rest => do
      let (n, rest) ← readEscape quote s rest
      let (ns, rest) ← readStringBody fuel quote rest
      return (n :: ns, rest)
    | c :: rest =>
      if c.toNat ≤ 0x1F then stopAt .controlCharacter s
      else do
        let (ns, rest) ← readStringBody fuel quote rest
        return (c.toNat :: ns, rest)

/-- Whether a code point is a surrogate. -/
def isSurrogate (n : Nat) : Bool := isHighSurrogate n || isLowSurrogate n

/-- The string of code points, or the ill-formed text that they are. -/
def ofCodes (codes : List Nat) : Json :=
  if codes.any isSurrogate then illFormed codes
  else string (String.ofList (codes.map Char.ofNat))

/-- The key that code points make; a lone surrogate becomes the replacement character. -/
def keyOfCodes (codes : List Nat) : String :=
  String.ofList (codes.map fun n => if isSurrogate n then '\uFFFD' else Char.ofNat n)

/-- The code points of the string whose opening quote comes first in `s`. -/
def readString (s : List Char) : Except Stop (List Nat × List Char) :=
  readStringBody s.length s.length s.tail

/-! ## Numbers -/

/-- The number that decimal digits write. -/
def digitsValue (ds : List Char) : Nat := ds.foldl (fun n c => n * 10 + (c.toNat - 48)) 0

/-- The digits after a point, and what follows them. Nothing when no digit follows the point. -/
def readFraction : List Char → List Char × List Char
  | '.' :: rest =>
    match rest.takeWhile Char.isDigit with
    | [] => ([], '.' :: rest)
    | ds => (ds, rest.dropWhile Char.isDigit)
  | s => ([], s)

/-- The sign and the digits of an exponent. -/
def signedDigits : List Char → Bool × List Char × List Char
  | '-' :: rest => (true, rest.takeWhile Char.isDigit, rest.dropWhile Char.isDigit)
  | '+' :: rest => (false, rest.takeWhile Char.isDigit, rest.dropWhile Char.isDigit)
  | s => (false, s.takeWhile Char.isDigit, s.dropWhile Char.isDigit)

/-- The exponent and what follows it. Nothing when no digit follows the letter. -/
def readExponent (s : List Char) : Option Int × List Char :=
  match s with
  | c :: rest =>
    if c = 'e' ∨ c = 'E' then
      match signedDigits rest with
      | (_, [], _) => (none, s)
      | (negative, ds, rest) =>
        let n : Int := digitsValue ds
        (some (if negative then -n else n), rest)
    else (none, s)
  | [] => (none, s)

/-- The digits before the point: a zero alone, or digits that begin with none. -/
def wholeDigits (s : List Char) : List Char × List Char :=
  match s with
  | '0' :: rest => (['0'], rest)
  | _ => (s.takeWhile Char.isDigit, s.dropWhile Char.isDigit)

/-- A number after its sign; `start` is the rest where the number began. -/
def readNumber (negative : Bool) (start s : List Char) : Except Stop (Json × List Char) :=
  match wholeDigits s with
  | ([], _) => stopAt .value start
  | (whole, rest) =>
    let (fraction, rest) := readFraction rest
    let (exponent, rest) := readExponent rest
    if fraction.isEmpty && exponent.isNone then
      if whole.length > Text.numeralLimit then .error (.tooManyDigits whole.length)
      else
        let n : Int := digitsValue whole
        .ok (int (if negative then -n else n), rest)
    else
      let x := Decimal.toFloat (digitsValue (whole ++ fraction))
        (exponent.getD 0 - fraction.length)
      .ok (float (if negative then -x else x), rest)

/-! ## Values -/

/-- The double that is not a number. -/
def notANumber : Float := 0.0 / 0.0

/-- The infinite double. -/
def infinity : Float := 1.0 / 0.0

/-- The rest of a text after a word at its front. -/
def afterWord? (word : String) (s : List Char) : Option (List Char) :=
  if word.toList.isPrefixOf s then some (s.drop word.length) else none

/-- The names of values and what they name. -/
def literals : List (String × Json) :=
  [("null", null), ("true", bool true), ("false", bool false), ("NaN", float notANumber),
    ("Infinity", float infinity), ("-Infinity", float (-infinity))]

/-- A value that a name at the front of the text stands for. -/
def readLiteral? (s : List Char) : Option (Json × List Char) :=
  literals.findSome? fun (word, v) => (afterWord? word s).map (v, ·)

/-- A name or a number. -/
def readAtom (s : List Char) : Except Stop (Json × List Char) :=
  match readLiteral? s with
  | some r => .ok r
  | none =>
    match s with
    | '-' :: rest => readNumber true s rest
    | _ => readNumber false s s

mutual

/-- The value at the front of the text. `depth` values may still nest in each other. -/
def readValue (fuel depth : Nat) (s : List Char) : Except Stop (Json × List Char) :=
  match fuel, depth, s with
  | 0, _, _ => stopAt .value s
  | _ + 1, 0, '{' :: _ => .error .tooDeep
  | _ + 1, 0, '[' :: _ => .error .tooDeep
  | fuel + 1, depth + 1, '{' :: rest =>
    match skipSpace rest with
    | '}' :: rest => .ok (object [], rest)
    | rest => do
      let (fields, rest) ← readFields fuel depth rest
      return (ofFields fields, rest)
  | fuel + 1, depth + 1, '[' :: rest =>
    match skipSpace rest with
    | ']' :: rest => .ok (array [], rest)
    | rest => do
      let (items, rest) ← readItems fuel depth rest
      return (array items, rest)
  | _ + 1, _, '"' :: _ => do
    let (codes, rest) ← readString s
    return (ofCodes codes, rest)
  | _ + 1, _, s => readAtom s

/-- The items of an array and the bracket that closes it. -/
def readItems (fuel depth : Nat) (s : List Char) : Except Stop (List Json × List Char) :=
  match fuel with
  | 0 => stopAt .value s
  | fuel + 1 => do
    let (v, rest) ← readValue fuel depth s
    match skipSpace rest with
    | ']' :: rest => return ([v], rest)
    | ',' :: rest =>
      let (vs, rest) ← readItems fuel depth (skipSpace rest)
      return (v :: vs, rest)
    | rest => stopAt .comma rest

/-- The fields of an object and the brace that closes it. -/
def readFields (fuel depth : Nat) (s : List Char) :
    Except Stop (List (String × Json) × List Char) :=
  match fuel, s with
  | fuel + 1, '"' :: _ => do
    let (codes, rest) ← readString s
    match skipSpace rest with
    | ':' :: rest =>
      let (v, rest) ← readValue fuel depth (skipSpace rest)
      match skipSpace rest with
      | '}' :: rest => return ([(keyOfCodes codes, v)], rest)
      | ',' :: rest =>
        let (fields, rest) ← readFields fuel depth (skipSpace rest)
        return ((keyOfCodes codes, v) :: fields, rest)
      | rest => stopAt .comma rest
    | rest => stopAt .colon rest
  | _, _ => stopAt .propertyName s

end

/-- One value and nothing after it. -/
def readAll (nesting : Nat) (s : List Char) : Except Stop Json := do
  if s.head? = some '\uFEFF' then stopAt .byteOrderMark s
  let (v, rest) ← readValue (2 * s.length + 2) nesting (skipSpace s)
  match skipSpace rest with
  | [] => return v
  | rest => stopAt .extraData rest

/-- Line and column, from one, of the place after the given characters. -/
def placeAfter (before : List Char) : Nat × Nat :=
  (before.count '\n' + 1, (before.reverse.takeWhile (· ≠ '\n')).length + 1)

/-- Counts a fault's place from the start of the text. -/
def Stop.toFault (text : List Char) : Stop → Fault
  | .malformed reason left =>
    let offset := text.length - left
    let (line, column) := placeAfter (text.take offset)
    .malformed reason line column offset
  | .tooManyDigits n => .tooManyDigits n
  | .tooDeep => .tooDeep

/-- The value that a text writes, in which values nest at most `nesting` deep. -/
def readNested (nesting : Nat) (text : List Char) : Except Fault Json :=
  (readAll nesting text).mapError (Stop.toFault text)

/-- The value that a text writes. -/
def read (text : String) : Except Fault Json := readNested defaultNesting text.toList

end Diagnosis.Json
