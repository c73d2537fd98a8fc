import Diagnosis.Decimal.Shortest

/-!
# Decimal text

How the digits of a double are laid out. The choices that a format leaves open are the fields of a
`Layout`; `Layout.write` follows them, and `read` reads decimal text back.
-/

namespace Diagnosis.Decimal

/-- The choices of a format for doubles. -/
structure Layout where
  /-- The least power of ten of the first digit that is written without an exponent. -/
  positionalFrom : Int
  /-- The first power of ten that needs an exponent again. -/
  positionalBelow : Int
  /-- Digits that the exponent has at least. -/
  exponentDigits : Nat
  /-- The text for what is not a number. -/
  nan : String
  /-- The text for infinity, without a sign. -/
  infinity : String

/-- Pads a number with zeros on the left. -/
def padded (width n : Nat) : String :=
  let digits := toString n
  String.ofList (List.replicate (width - digits.length) '0') ++ digits

/-- Digits with the point after the first `k` of them. A whole number keeps one zero after the
point. -/
def positional (digits : String) (k : Int) : String :=
  let n := digits.length
  if k ≤ 0 then "0." ++ String.ofList (List.replicate k.natAbs '0') ++ digits
  else if k ≥ n then digits ++ String.ofList (List.replicate (k.toNat - n) '0') ++ ".0"
  else
    String.ofList (digits.toList.take k.toNat) ++ "."
      ++ String.ofList (digits.toList.drop k.toNat)

/-- Digits with the point after the first one and a signed exponent. -/
def scientific (layout : Layout) (digits : String) (k : Int) : String :=
  let e := k - 1
  let first := String.ofList (digits.toList.take 1)
  let rest := String.ofList (digits.toList.drop 1)
  first ++ (if rest.isEmpty then "" else "." ++ rest) ++ "e" ++ (if e < 0 then "-" else "+")
    ++ padded layout.exponentDigits e.natAbs

/-- The text of a double: the fewest digits that read back. -/
def Layout.write (layout : Layout) (x : Float) : String :=
  if x.isNaN then layout.nan
  else
    let sign := if x.toBits.toNat ≥ Nat.pow 2 63 then "-" else ""
    if x.isInf then sign ++ layout.infinity
    else
      let b := Binary.ofFloat x
      if b.mantissa = 0 then sign ++ "0.0"
      else
        let d := shortest b
        let digits := toString d.digits
        let k : Int := digits.length + d.exponent
        sign ++ (if layout.positionalFrom ≤ k - 1 ∧ k - 1 < layout.positionalBelow
          then positional digits k else scientific layout digits k)

/-- The double nearest to `digits · 10 ^ exponent`. Exponents far outside the range of doubles are
answered without computing the power. -/
def toFloat (digits : Nat) (exponent : Int) : Float :=
  if digits = 0 then 0.0
  else
    let k : Int := digitCount digits + exponent
    if k > 310 then 1.0 / 0.0
    else if k < -330 then 0.0
    else Float.ofScientific digits (exponent < 0) exponent.natAbs

end Diagnosis.Decimal
