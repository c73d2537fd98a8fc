/-!
# The shortest decimal of a binary number

A finite nonzero double is a number `m · 2 ^ q`. Every real number close enough to it is read back
as the same double; those numbers form an interval. `shortest` finds the decimal in that interval
that has the fewest digits and, among those, lies nearest.

All of it is exact arithmetic on natural numbers: a number is a fraction, and a decimal with `n`
digits is looked for on the grid of step `10 ^ e` that gives it `n` digits.

The whole part of a double is exact as well: `truncate` drops what comes after the point, and
`exactWhole?` asks whether there is anything.

What is not here: how the digits are laid out as text (`Decimal.Layout`).
-/

namespace Diagnosis.Decimal

/-- The number `mantissa · 2 ^ exponent`. -/
structure Binary where
  /-- The integer factor. -/
  mantissa : Nat
  /-- The power of two. -/
  exponent : Int
  deriving Repr, DecidableEq

/-- The size of a finite double, its sign left out. -/
def Binary.ofFloat (x : Float) : Binary :=
  let bits : Nat := x.toBits.toNat
  let fraction : Nat := bits % Nat.pow 2 52
  let biased : Nat := bits / Nat.pow 2 52 % Nat.pow 2 11
  if biased = 0 then ⟨fraction, -1074⟩ else ⟨Nat.pow 2 52 + fraction, (biased : Int) - 1075⟩

/-- A nonnegative fraction. -/
structure Fraction where
  /-- The numerator. -/
  num : Nat
  /-- The denominator, never zero. -/
  den : Nat
  deriving Repr

/-- The fraction `n · 2 ^ e`. -/
def Fraction.scaled (n : Nat) (e : Int) : Fraction :=
  if e < 0 then ⟨n, Nat.pow 2 e.natAbs⟩ else ⟨n * Nat.pow 2 e.natAbs, 1⟩

/-- The fraction divided by `10 ^ e`. -/
def Fraction.inStepsOf (x : Fraction) (e : Int) : Fraction :=
  if e < 0 then ⟨x.num * Nat.pow 10 e.natAbs, x.den⟩ else ⟨x.num, x.den * Nat.pow 10 e.natAbs⟩

/-- Whether `x` is less than `y`. -/
def Fraction.lt (x y : Fraction) : Bool := x.num * y.den < y.num * x.den

/-- Whether `x` and `y` are the same number. -/
def Fraction.same (x y : Fraction) : Bool := x.num * y.den = y.num * x.den

/-- The numbers that are read back as `x`: the halves of the gaps to its two neighbours. The gap
below a power of two is half as wide as the gap above it. The ends belong to the interval exactly
when the mantissa is even. -/
structure Basin where
  /-- The lower end. -/
  lo : Fraction
  /-- The upper end. -/
  hi : Fraction
  /-- Whether the ends belong to it. -/
  closed : Bool

/-- The basin of a double. -/
def Binary.basin (x : Binary) : Basin :=
  let step := if x.mantissa = Nat.pow 2 52 ∧ x.exponent > -1074 then 1 else 2
  { lo := .scaled (4 * x.mantissa - step) (x.exponent - 2)
    hi := .scaled (4 * x.mantissa + 2) (x.exponent - 2)
    closed := x.mantissa % 2 == 0 }

/-- Whether a number lies in the basin. -/
def Basin.holds (b : Basin) (x : Fraction) : Bool :=
  (b.lo.lt x && x.lt b.hi) || (b.closed && (b.lo.same x || b.hi.same x))

/-- A decimal number `digits · 10 ^ exponent`. -/
structure Scaled where
  /-- The digits, read as one number. -/
  digits : Nat
  /-- The power of ten. -/
  exponent : Int
  deriving Repr, DecidableEq

/-- The number that a decimal denotes. -/
def Scaled.value (d : Scaled) : Fraction :=
  if d.exponent < 0 then ⟨d.digits, Nat.pow 10 d.exponent.natAbs⟩
  else ⟨d.digits * Nat.pow 10 d.exponent.natAbs, 1⟩

/-- The number of digits of a natural number. -/
def digitCount (n : Nat) : Nat := (Nat.toDigits 10 n).length

/-- How many times a fraction below one has to be multiplied by ten to reach one. -/
def leadingZeros (fuel : Nat) (x : Fraction) : Nat :=
  match fuel with
  | 0 => 0
  | fuel + 1 => if x.num < x.den then leadingZeros fuel ⟨x.num * 10, x.den⟩ + 1 else 0

/-- The exponent `k` with `10 ^ (k - 1) ≤ x < 10 ^ k`. -/
def magnitude (x : Fraction) : Int :=
  if x.num < x.den then 1 - (leadingZeros 400 x : Int) else digitCount (x.num / x.den)

/-- The point of the grid of step `10 ^ e` that lies in the basin of `x`: of the two points around
`x` the nearer one, of two equally near ones the even one. -/
def onGrid (x : Fraction) (b : Basin) (e : Int) : Option Scaled :=
  let steps := x.inStepsOf e
  let below := steps.num / steps.den
  let twice := 2 * (steps.num % steps.den)
  let lower : Scaled := ⟨below, e⟩
  let upper : Scaled := ⟨below + 1, e⟩
  let preferLower := twice < steps.den || (twice = steps.den && below % 2 = 0)
  match b.holds lower.value && below != 0, b.holds upper.value with
  | true, true => some (if preferLower then lower else upper)
  | true, false => some lower
  | false, true => some upper
  | false, false => none

/-- Drops the zeros at the end of the digits. -/
def Scaled.trim (fuel : Nat) (d : Scaled) : Scaled :=
  match fuel with
  | 0 => d
  | fuel + 1 =>
    if d.digits % 10 = 0 ∧ d.digits ≠ 0 then Scaled.trim fuel ⟨d.digits / 10, d.exponent + 1⟩
    else d

/-- The decimal with the fewest digits that is read back as the given nonzero double, and of those
the nearest. Seventeen digits always suffice. -/
def shortest (x : Binary) : Scaled :=
  let value := Fraction.scaled x.mantissa x.exponent
  let k := magnitude value
  let found := (List.range 17).findSome? fun n => onGrid value x.basin (k - (n + 1 : Nat))
  (found.getD ⟨0, 0⟩).trim 20

/-! ## Whole parts -/

/-- The part of a finite number before the point. -/
def Binary.whole (x : Binary) : Nat :=
  let f := Fraction.scaled x.mantissa x.exponent
  f.num / f.den

/-- The whole part of a finite double; what comes after the point is dropped. -/
def truncate (x : Float) : Int :=
  let n : Int := (Binary.ofFloat x).whole
  if x < 0 then -n else n

/-- The whole number that a double is, if it is one. -/
def exactWhole? (x : Float) : Option Int :=
  if x.isNaN || x.isInf then none
  else
    let f := Fraction.scaled (Binary.ofFloat x).mantissa (Binary.ofFloat x).exponent
    if f.num % f.den = 0 then some (truncate x) else none

end Diagnosis.Decimal
