import Diagnosis.Text.Blank
import Diagnosis.Text.Path
import Diagnosis.Decimal.Shortest
import Diagnosis.Text.Numeral
import Diagnosis.Yaml.Convert

/-!
# Checking settings

A value from a configuration file or the environment is checked against what a setting may be, and
converted where that loses nothing: texts that write numbers become numbers, and so on. All problems
of a configuration are reported together, each with its place; `Checked` joins them.
-/

namespace Diagnosis.Config

open Diagnosis.Text

/-- What is wrong with a value. -/
inductive Complaint where
  /-- It is no truth value. -/
  | notBool
  /-- It names no truth value. -/
  | badBool
  /-- It is no whole number. -/
  | notInt
  /-- It has a fraction. -/
  | fractional
  /-- It does not write a whole number. -/
  | badInt
  /-- It writes too long a number. -/
  | longInt
  /-- It is no finite number. -/
  | notFinite
  /-- It is no number. -/
  | notNumber
  /-- It does not write a number. -/
  | badNumber
  /-- It is no text. -/
  | notText
  /-- It is no list. -/
  | notList
  /-- It is no mapping. -/
  | notMap
  /-- It is no section of the given name. -/
  | notSection (name : String)
  /-- It is no path. -/
  | notPath
  /-- It is none of the choices. -/
  | notAmong (choices : List String)
  /-- It is not above a bound. -/
  | notAbove (bound : Int)
  /-- It is below a bound. -/
  | below (bound : Int)
  /-- It is above a bound. -/
  | above (bound : Int)
  /-- It is refused for a reason of its own. -/
  | refused (reason : String)
  deriving Repr, DecidableEq

namespace Complaint

/-- The name of the kind of problem. -/
def kind : Complaint → String
  | notBool => "bool_type"
  | badBool => "bool_parsing"
  | notInt => "int_type"
  | fractional => "int_from_float"
  | badInt => "int_parsing"
  | longInt => "int_parsing_size"
  | notFinite => "finite_number"
  | notNumber => "float_type"
  | badNumber => "float_parsing"
  | notText => "string_type"
  | notList => "list_type"
  | notMap => "dict_type"
  | notSection _ => "model_type"
  | notPath => "path_type"
  | notAmong _ => "literal_error"
  | notAbove _ => "greater_than"
  | below _ => "greater_than_equal"
  | above _ => "less_than_equal"
  | refused _ => "value_error"

/-- The choices as a phrase. -/
def phrase (choices : List String) : String :=
  let shown := choices.map fun c => "'" ++ c ++ "'"
  match shown.getLast? with
  | none => ""
  | some last =>
    match shown.dropLast with
    | [] => last
    | others => ", ".intercalate others ++ " or " ++ last

/-- The wording of a complaint. -/
def message : Complaint → String
  | notBool => "Input should be a valid boolean"
  | badBool => "Input should be a valid boolean, unable to interpret input"
  | notInt => "Input should be a valid integer"
  | fractional => "Input should be a valid integer, got a number with a fractional part"
  | badInt => "Input should be a valid integer, unable to parse string as an integer"
  | longInt => "Unable to parse input string as an integer, exceeded maximum size"
  | notFinite => "Input should be a finite number"
  | notNumber => "Input should be a valid number"
  | badNumber => "Input should be a valid number, unable to parse string as a number"
  | notText => "Input should be a valid string"
  | notList => "Input should be a valid list"
  | notMap => "Input should be a valid dictionary"
  | notSection name => "Input should be a valid dictionary or instance of " ++ name
  | notPath => "Input is not a valid path for <class 'pathlib.Path'>"
  | notAmong choices => "Input should be " ++ phrase choices
  | notAbove bound => "Input should be greater than " ++ toString bound
  | below bound => "Input should be greater than or equal to " ++ toString bound
  | above bound => "Input should be less than or equal to " ++ toString bound
  | refused reason => "Value error, " ++ reason

end Complaint

/-- A problem of a configuration. -/
structure Problem where
  /-- The keys that lead to the value. -/
  place : List String
  /-- What is wrong with it. -/
  complaint : Complaint
  deriving Repr, DecidableEq

/-- A checked value, or all its problems. -/
inductive Checked (α : Type) where
  /-- There is no problem. -/
  | ok (a : α)
  /-- The problems. -/
  | bad (problems : List Problem)

namespace Checked

variable {α β : Type}

/-- Applies a function to a checked value. -/
def map (f : α → β) : Checked α → Checked β
  | ok a => ok (f a)
  | bad ps => bad ps

/-- Applies a checked function to a checked value; the problems of both are joined. -/
def apply : Checked (α → β) → Checked α → Checked β
  | ok f, ok a => ok (f a)
  | ok _, bad ps => bad ps
  | bad ps, ok _ => bad ps
  | bad ps, bad qs => bad (ps ++ qs)

/-- Problems of all parts are kept. -/
instance : Applicative Checked where
  pure := ok
  map := map
  seq f a := apply f (a ())

/-- Checks a checked value further. -/
def andThen (c : Checked α) (f : α → Checked β) : Checked β :=
  match c with
  | ok a => f a
  | bad ps => bad ps

/-- A value with one problem. -/
def fault (c : Complaint) : Checked α := bad [⟨[], c⟩]

/-- A checked value below a key. -/
def under (key : String) : Checked α → Checked α
  | ok a => ok a
  | bad ps => bad (ps.map fun p => { p with place := key :: p.place })

/-- The value, or its problems. -/
def toExcept : Checked α → Except (List Problem) α
  | ok a => .ok a
  | bad ps => .error ps

end Checked

open Checked

/-! ## Scalars -/

/-- A text. -/
def asText : Yaml → Checked String
  | .text s => ok s
  | _ => fault .notText

/-- The words for true. -/
def trueWords : List String := ["1", "t", "y", "on", "yes", "true"]

/-- The words for false. -/
def falseWords : List String := ["0", "f", "n", "no", "off", "false"]

/-- The truth value of a whole number. -/
def boolOfInt (n : Int) : Checked Bool :=
  if n = 0 then ok false else if n = 1 then ok true else fault .badBool

/-- A truth value. -/
def asBool : Yaml → Checked Bool
  | .bool b => ok b
  | .int n => boolOfInt n
  | .float x =>
    match Decimal.exactWhole? x with
    | some n => boolOfInt n
    | none => fault .notBool
  | .text s =>
    let word := s.toLower
    if trueWords.contains word then ok true
    else if falseWords.contains word then ok false
    else fault .badBool
  | _ => fault .notBool

/-- The text without the single underscores between its characters, if it has no others. -/
def withoutUnderscores? (s : List Char) : Option (List Char) :=
  let parts := splitAt '_' s
  if parts.any (·.isEmpty) && s ≠ [] then none else some parts.flatten

/-- The sign in front, and the rest. -/
def splitSign : List Char → Bool × List Char
  | '-' :: rest => (true, rest)
  | '+' :: rest => (false, rest)
  | rest => (false, rest)

/-- The whole number that a text writes: a sign, digits with single underscores between them, and
perhaps a point with nothing but zeros after it. -/
def readInt (s : List Char) : Checked Int :=
  let (negative, body) := splitSign (trimWhile isNumeralBlank s)
  let zeros := body.dropWhile (· ≠ '.')
  match withoutUnderscores? (body.takeWhile (· ≠ '.')) with
  | none => fault .badInt
  | some digits =>
    if digits.isEmpty || !digits.all Char.isDigit || !(zeros.drop 1).all (· = '0') then
      fault .badInt
    else if numeralLimit < digits.length then fault .longInt
    else
      let n : Int := ofDigitValues (digits.map fun c => c.toNat - 48)
      ok (if negative then -n else n)

/-- A whole number. -/
def asInt : Yaml → Checked Int
  | .bool b => ok b.toNat
  | .int n => ok n
  | .float x =>
    if x.isNaN || x.isInf then fault .notFinite
    else
      match Decimal.exactWhole? x with
      | some n => ok n
      | none => fault .fractional
  | .text s => readInt s.toList
  | _ => fault .notInt

/-- A whole number between bounds. -/
def asIntWithin (lo : Int) (hi : Option Int) (v : Yaml) : Checked Int :=
  (asInt v).andThen fun n =>
    match hi with
    | some h => if h < n then fault (.above h) else if n < lo then fault (.below lo) else ok n
    | none => if n < lo then fault (.below lo) else ok n

/-- The exponent that a text writes. -/
def readExponent? : List Char → Option Int
  | [] => some 0
  | e :: rest =>
    let (negative, digits) := splitSign rest
    if (e = 'e' || e = 'E') && !digits.isEmpty && digits.all Char.isDigit then
      let n : Int := ofDigitValues (digits.map fun c => c.toNat - 48)
      some (if negative then -n else n)
    else none

/-- The nonnegative double that a text writes. -/
def readPositive? (s : List Char) : Option Float :=
  let word := (String.ofList s).toLower
  if word == "inf" || word == "infinity" then some (1.0 / 0.0)
  else if word == "nan" then some (0.0 / 0.0)
  else
    let before := s.takeWhile Char.isDigit
    let rest := s.dropWhile Char.isDigit
    let (after, tail) := match rest with
      | '.' :: more => (more.takeWhile Char.isDigit, more.dropWhile Char.isDigit)
      | more => ([], more)
    if before.isEmpty && after.isEmpty then none
    else
      (readExponent? tail).map fun e =>
        let digits := ofDigitValues ((before ++ after).map fun c => c.toNat - 48)
        Decimal.toFloat digits (e - after.length)

/-- The double that a text writes. -/
def readDouble? (s : List Char) : Option Float := do
  let plain ← withoutUnderscores? (trimWhile isNumeralBlank s)
  let (negative, body) := splitSign plain
  let x ← readPositive? body
  return if negative then -x else x

/-- A number. -/
def asNumber : Yaml → Checked Float
  | .bool b => ok (if b then 1.0 else 0.0)
  | .int n => ok (Float.ofInt n)
  | .float x => ok x
  | .text s =>
    match readDouble? s.toList with
    | some x => ok x
    | none => fault .badNumber
  | _ => fault .notNumber

/-- A number above zero. -/
def asPositive (v : Yaml) : Checked Float :=
  (asNumber v).andThen fun x => if x > 0.0 then ok x else fault (.notAbove 0)

/-- One of several choices. -/
def asChoice {α : Type} (choices : List (String × α)) (v : Yaml) : Checked α :=
  let found := match v with
    | .text s => choices.lookup s
    | _ => none
  match found with
  | some a => ok a
  | none => fault (.notAmong (choices.map (·.1)))

/-- A path. -/
def asPath : Yaml → Checked String
  | .text s => ok (FilePath.read s.toList).write
  | _ => fault .notPath

/-- A value that may be null. -/
def asOptional {α : Type} (read : Yaml → Checked α) : Yaml → Checked (Option α)
  | .null => ok none
  | v => (read v).map some

/-! ## Collections -/

/-- Items, of which the first has the given number. -/
def asItems {α : Type} (read : Yaml → Checked α) : Nat → List Yaml → Checked (List α)
  | _, [] => ok []
  | i, v :: vs => (· :: ·) <$> (read v).under (toString i) <*> asItems read (i + 1) vs

/-- A list. -/
def asList {α : Type} (read : Yaml → Checked α) : Yaml → Checked (List α)
  | .list items => asItems read 0 items
  | _ => fault .notList

/-- A key as problems name it. -/
def keyPlace : Yaml → String
  | .bool b => if b then "1" else "0"
  | k => k.keyText

/-- The entries of a mapping whose keys must be texts. -/
def asEntries : List (Yaml × Yaml) → Checked (List (String × Json))
  | [] => ok []
  | (k, v) :: rest =>
    let key := ((asText k).under "[key]").under (keyPlace k)
    (fun name more => (name, v.toJson) :: more) <$> key <*> asEntries rest

/-- A mapping from texts to any values. -/
def asMap : Yaml → Checked (List (String × Json))
  | .map entries => asEntries entries
  | _ => fault .notMap

/-! ## Sections -/

/-- The entries of a section. -/
abbrev Entries := List (Yaml × Yaml)

/-- A section of the given name. -/
def asSection {α : Type} (name : String) (read : Entries → Checked α) : Yaml → Checked α
  | .map entries => read entries
  | _ => fault (.notSection name)

/-- A setting of a section; it has a default. -/
def setting {α : Type} (entries : Entries) (key : String) (default : α) (read : Yaml → Checked α) :
    Checked α :=
  match Yaml.lookup? key entries with
  | some v => (read v).under key
  | none => ok default

end Diagnosis.Config
