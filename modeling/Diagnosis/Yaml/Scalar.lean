import Diagnosis.Decimal.Layout
import Diagnosis.Text.Lines
import Diagnosis.Yaml.Value

/-!
# Bare scalars

What a scalar without quotes stands for: a truth value, a number, a date, null, or else its text.
The words are those of YAML 1.1, so `no` and `off` are false, a leading zero makes a number octal,
and colons separate the places of base sixty.
-/

namespace Diagnosis.Yaml

/-- Why a text is no YAML. -/
inductive Fault where
  /-- It does not have the form of YAML. -/
  | malformed
  deriving Repr, DecidableEq

/-- The words for true. -/
def trueWords : List String :=
  ["yes", "Yes", "YES", "true", "True", "TRUE", "on", "On", "ON"]

/-- The words for false. -/
def falseWords : List String :=
  ["no", "No", "NO", "false", "False", "FALSE", "off", "Off", "OFF"]

/-- The words for null. -/
def nullWords : List String := ["", "~", "null", "Null", "NULL"]

/-- The words that have a meaning of their own and are no values. -/
def reservedWords : List String := ["=", "<<"]

/-- The value of a digit up to `f`. -/
def digitOf (c : Char) : Nat :=
  if c.isDigit then c.toNat - 48
  else if 'a' ≤ c ∧ c ≤ 'f' then c.toNat - 87
  else c.toNat - 55

/-- The number that digits write in a base; underscores count for nothing. -/
def numberIn (base : Nat) (digits : List Char) : Nat :=
  (digits.filter (· != '_')).foldl (fun n c => n * base + digitOf c) 0

/-- Whether a character is a digit of a base or an underscore. -/
def isDigitIn (base : Nat) (c : Char) : Bool :=
  c = '_' || (c.isAlphanum && !(c.isAlpha && base ≤ 10) && digitOf c < base
    && (c.isDigit || ('a' ≤ c && c ≤ 'f') || ('A' ≤ c && c ≤ 'F')))

/-- Whether a text is a place of base sixty. -/
def isSixtieth : List Char → Bool
  | [a] => a.isDigit
  | [a, b] => '0' ≤ a && a ≤ '5' && b.isDigit
  | _ => false

/-- Whether a text is a decimal number without a leading zero. -/
def isDecimal : List Char → Bool
  | c :: rest => '1' ≤ c && c ≤ '9' && rest.all (isDigitIn 10)
  | [] => false

/-- The natural number that a text writes. -/
def natural? : List Char → Option Nat
  | ['0'] => some 0
  | '0' :: 'b' :: digits =>
    if !digits.isEmpty && digits.all (isDigitIn 2) then some (numberIn 2 digits) else none
  | '0' :: 'x' :: digits =>
    if !digits.isEmpty && digits.all (isDigitIn 16) then some (numberIn 16 digits) else none
  | '0' :: digits => if digits.all (isDigitIn 8) then some (numberIn 8 digits) else none
  | s =>
    match Text.splitAt ':' s with
    | [only] => if isDecimal only then some (numberIn 10 only) else none
    | first :: places =>
      if isDecimal first && places.all isSixtieth then
        some (places.foldl (fun n p => n * 60 + numberIn 10 p) (numberIn 10 first))
      else none
    | [] => none

/-- The sign in front, and the rest. -/
def splitSign : List Char → Bool × List Char
  | '-' :: rest => (true, rest)
  | '+' :: rest => (false, rest)
  | rest => (false, rest)

/-- The whole number that a text writes. -/
def whole? (s : List Char) : Option Int :=
  let (negative, body) := splitSign s
  (natural? body).map fun n => if negative then -(n : Int) else n

/-- The exponent that a text writes after the digits; it has a sign. -/
def exponent? : List Char → Option Int
  | [] => some 0
  | e :: sign :: digits =>
    if (e = 'e' || e = 'E') && (sign = '+' || sign = '-') && !digits.isEmpty
        && digits.all Char.isDigit then
      some (if sign = '-' then -(numberIn 10 digits : Int) else numberIn 10 digits)
    else none
  | _ => none

/-- The double that digits with a point write. -/
def pointed? (signed : Bool) (s : List Char) : Option Float :=
  let before := s.takeWhile (isDigitIn 10)
  match s.dropWhile (isDigitIn 10) with
  | '.' :: rest =>
    let after := rest.takeWhile (isDigitIn 10)
    let fits :=
      match before with
      | [] => !signed && after.head?.any Char.isDigit
      | c :: _ => c.isDigit
    if !fits then none
    else
      (exponent? (rest.dropWhile (isDigitIn 10))).map fun e =>
        let places : Int := (after.filter (· != '_')).length
        Decimal.toFloat (numberIn 10 (before ++ after)) (e - places)
  | _ => none

/-- The double that a text writes. -/
def double? (s : List Char) : Option Float :=
  let (negative, body) := splitSign s
  let signed := body.length < s.length
  if [".inf", ".Inf", ".INF"].contains (String.ofList body) then
    some (if negative then -(1.0 / 0.0) else 1.0 / 0.0)
  else if [".nan", ".NaN", ".NAN"].contains (String.ofList s) then some (0.0 / 0.0)
  else (pointed? signed body).map fun x => if negative then -x else x

/-- Whether a text has the form of a date. -/
def isDate (s : List Char) : Bool :=
  s.length = 10
    && (s.zipIdx).all fun (c, i) => if i = 4 || i = 7 then c = '-' else c.isDigit

/-- What a bare scalar stands for. -/
def ofBare (s : List Char) : Except Fault Yaml :=
  let word := String.ofList s
  if nullWords.contains word then .ok null
  else if trueWords.contains word then .ok (bool true)
  else if falseWords.contains word then .ok (bool false)
  else if reservedWords.contains word then .error .malformed
  else if isDate s then .ok (date word)
  else
    match whole? s, double? s with
    | some n, _ => .ok (int n)
    | none, some x => .ok (float x)
    | none, none => .ok (text word)

end Diagnosis.Yaml
