import Diagnosis.Text.Printable

/-!
# Quoted texts

How a text is shown inside a message: between quotes, with escapes for what cannot be shown as it
is. The quote is the apostrophe, unless the text holds apostrophes and no double quotes.
-/

namespace Diagnosis.Text

/-- The digits of a number in base sixteen, small, at least `width` of them. -/
def hexDigits (width n : Nat) : String :=
  let digits := String.ofList (Nat.toDigits 16 n)
  String.ofList (List.replicate (width - digits.length) '0') ++ digits

/-- The shortest numeric escape of a code point. -/
def numericEscape (n : Nat) : String :=
  if n < 0x100 then "\\x" ++ hexDigits 2 n
  else if n < 0x10000 then "\\u" ++ hexDigits 4 n
  else "\\U" ++ hexDigits 8 n

/-- A character as a text between the given quotes shows it. -/
def quotedChar (quote c : Char) : String :=
  if c = quote ∨ c = '\\' then String.ofList ['\\', c]
  else if c = '\t' then "\\t"
  else if c = '\n' then "\\n"
  else if c = '\r' then "\\r"
  else if isPrintable c then String.ofList [c]
  else numericEscape c.toNat

/-- The quote that a text is shown with. -/
def quoteFor (s : List Char) : Char := if s.contains '\'' && !s.contains '"' then '"' else '\''

/-- A text between quotes. -/
def quoted (s : String) : String :=
  let q := quoteFor s.toList
  String.ofList [q] ++ String.join (s.toList.map (quotedChar q)) ++ String.ofList [q]

end Diagnosis.Text
