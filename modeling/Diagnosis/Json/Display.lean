import Diagnosis.Json.Read
import Diagnosis.Text.Quoted

/-!
# Values in messages

How a JSON value is shown when a message quotes it: `None`, `True` and `False` for the names, quoted
texts, brackets and braces with a blank after each comma and colon. `display` shows a text by itself
without quotes, `shown` always quotes it.

Not every value can be quoted. Two limits apply, as they do to reading: a whole number has at most
`Text.numeralLimit` digits, and values nest at most `defaultNesting` deep. `quoteFault?` says which of
them a value misses first.
-/

namespace Diagnosis

/-- Doubles in messages and in answers: an exponent from `10 ^ 16` on and below `10 ^ -4`, with two
digits at least. -/
def Decimal.plainLayout : Decimal.Layout :=
  { positionalFrom := -4, positionalBelow := 16, exponentDigits := 2, nan := "nan",
    infinity := "inf" }

namespace Json

/-- A code point of an ill-formed text as a message shows it. -/
def shownCode (n : Nat) : String :=
  if isSurrogate n then Text.numericEscape n else Text.quotedChar '\'' (Char.ofNat n)

mutual

/-- A value as a message quotes it. -/
def shown : Json → String
  | null => "None"
  | bool true => "True"
  | bool false => "False"
  | int n => toString n
  | float x => Decimal.plainLayout.write x
  | string s => Text.quoted s
  | illFormed codes => "'" ++ String.join (codes.map shownCode) ++ "'"
  | array items => "[" ++ String.intercalate ", " (shownItems items) ++ "]"
  | object fields => "\x7b" ++ String.intercalate ", " (shownFields fields) ++ "\x7d"

/-- The items of an array, each as a message quotes it. -/
def shownItems : List Json → List String
  | [] => []
  | v :: vs => shown v :: shownItems vs

/-- The fields of an object, each as a message quotes it. -/
def shownFields : List (String × Json) → List String
  | [] => []
  | (k, v) :: rest => (Text.quoted k ++ ": " ++ shown v) :: shownFields rest

end

/-- A value as the text of a message. -/
def display : Json → String
  | string s => s
  | v => shown v

/-! ## Limits -/

/-- Why a value cannot be quoted. -/
inductive QuoteFault where
  /-- A whole number in it has too many digits. -/
  | tooManyDigits
  /-- Values nest too deep in it. -/
  | tooDeep
  deriving Repr, DecidableEq

/-- The wording of a fault. -/
def QuoteFault.message : QuoteFault → String
  | tooManyDigits =>
    s!"Exceeds the limit ({Text.numeralLimit} digits) for integer string conversion; " ++
      "use sys.set_int_max_str_digits() to increase the limit"
  | tooDeep => "maximum recursion depth exceeded while getting the repr of an object"

mutual

/-- The first fault of a value, from left to right, if values may nest `depth` deep. -/
def faultWithin? (depth : Nat) : Json → Option QuoteFault
  | int n => if Text.isWritable n.natAbs then none else some .tooManyDigits
  | array items =>
    match depth with
    | 0 => some .tooDeep
    | depth + 1 => faultInItems? depth items
  | object fields =>
    match depth with
    | 0 => some .tooDeep
    | depth + 1 => faultInFields? depth fields
  | _ => none

/-- The first fault of the items of an array. -/
def faultInItems? (depth : Nat) : List Json → Option QuoteFault
  | [] => none
  | v :: vs => (faultWithin? depth v).or (faultInItems? depth vs)

/-- The first fault of the values of fields. -/
def faultInFields? (depth : Nat) : List (String × Json) → Option QuoteFault
  | [] => none
  | (_, v) :: rest => (faultWithin? depth v).or (faultInFields? depth rest)

end

/-- Why a value cannot be quoted in a message, if it cannot. -/
def quoteFault? (v : Json) : Option QuoteFault := faultWithin? defaultNesting v

end Json

end Diagnosis
