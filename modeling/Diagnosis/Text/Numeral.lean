import Diagnosis.Text.Blank
import Diagnosis.Text.Quoted
import Diagnosis.Text.Word

/-!
# Numerals

Whole numbers as people and programs write them: blanks around, a sign, decimal digits of any
script, and single underscores between digits. A numeral of more than `numeralLimit` digits is
refused, and refused as too long even if something else than an underscore follows its digits.
-/

namespace Diagnosis.Text

/-- The digits that a numeral may have. -/
def numeralLimit : Nat := 4300

/-- Whether a number has few enough digits to be written. The bound is a number that no proof should
compute. -/
@[irreducible]
def isWritable (n : Nat) : Bool := n < Nat.pow 10 numeralLimit

/-- Why a text is no numeral. -/
inductive NumeralFault where
  /-- It does not have the form of one. -/
  | malformed (text : List Char)
  /-- It has too many digits. -/
  | tooLong (digits : Nat)
  deriving Repr, DecidableEq

/-- What is said of a numeral with too many digits. -/
def tooLongMessage (digits : Nat) : String :=
  s!"Exceeds the limit ({numeralLimit} digits) for integer string conversion: value has {digits} "
    ++ "digits; use sys.set_int_max_str_digits() to increase the limit"

/-- The wording of a fault. A long text is shown in part. -/
def NumeralFault.message : NumeralFault → String
  | malformed text =>
    "invalid literal for int() with base 10: "
      ++ String.ofList ((quoted (String.ofList text)).toList.take 200)
  | tooLong digits => tooLongMessage digits

/-- The values of the digits at the front, between which single underscores may stand, and what
comes after them. -/
def leadingDigits : List Char → List Nat × List Char
  | [] => ([], [])
  | [c] =>
    match digitValue? c with
    | some d => ([d], [])
    | none => ([], [c])
  | c :: next :: rest =>
    match digitValue? c with
    | none => ([], c :: next :: rest)
    | some d =>
      if next = '_' then
        match leadingDigits rest with
        | ([], _) => ([d], next :: rest)
        | (ds, left) => (d :: ds, left)
      else
        let (ds, left) := leadingDigits (next :: rest)
        (d :: ds, left)

/-- The number that digits write. -/
def ofDigitValues (digits : List Nat) : Nat := digits.foldl (fun n d => n * 10 + d) 0

/-- The number that digits without a sign write; `text` is the whole text. -/
def readNatural (text digits : List Char) : Except NumeralFault Nat :=
  let (ds, left) := leadingDigits digits
  if ds.isEmpty || left.head? == some '_' then .error (.malformed text)
  else if numeralLimit < ds.length then .error (.tooLong ds.length)
  else if !left.isEmpty then .error (.malformed text)
  else .ok (ofDigitValues ds)

/-- The blanks around numerals: those of texts without the information separators. -/
def isNumeralBlank (c : Char) : Bool := isBlank c && !(0x1C ≤ c.toNat && c.toNat ≤ 0x1F)

/-- The whole number that a text writes. -/
def readWhole (text : List Char) : Except NumeralFault Int :=
  match trimWhile isNumeralBlank text with
  | '-' :: rest => (fun n : Nat => -(n : Int)) <$> readNatural text rest
  | '+' :: rest => Int.ofNat <$> readNatural text rest
  | rest => Int.ofNat <$> readNatural text rest

/-- The whole number that a text writes, if it writes one. -/
def whole? (s : List Char) : Option Int := (readWhole s).toOption

end Diagnosis.Text
