/-!
# Binary floating point, exactly

The number that a decimal text stands for in 64-bit binary floating point, as a value on which one
can compute in `Nat` and `Int`: a sign, a mantissa below `2 ^ 53` and a power of two. Rounding is to
the nearest such number and, half way between two, to the one whose mantissa is even. It is done on
an exact ratio, so nothing is rounded twice.

There is one not-a-number only: no text that the library writes tells two of them apart.
-/

namespace BuildLine.Decimal

/-- A number of 64-bit binary floating point. -/
inductive Binary64 where
  /-- `± mantissa * 2 ^ exponent`. -/
  | finite (negative : Bool) (mantissa : Nat) (exponent : Int)
  /-- Beyond every finite number. -/
  | infinite (negative : Bool)
  /-- No number. -/
  | nan
  deriving DecidableEq, Repr

/-- The exponent of the smallest numbers, below which there is no finer step. -/
def minExponent : Int := -1074

/-- The exponent of the greatest numbers. -/
def maxExponent : Int := 971

/-- The integer nearest to `n / d`, and of two equally near ones the even one. -/
def roundHalfEven (n d : Nat) : Nat :=
  let q := n / d
  let r := n % d
  if 2 * r < d then q
  else if d < 2 * r then q + 1
  else if q % 2 = 0 then q else q + 1

/-- The ratio `n / d` in units of `2 ^ e`, as a ratio again. -/
def inUnits (n d : Nat) (e : Int) : Nat × Nat :=
  if 0 ≤ e then (n, d * Nat.pow 2 e.toNat) else (n * Nat.pow 2 (-e).toNat, d)

/-- The exponent at which the integer part of `n / d` in units of that power of two has 53 binary
digits, but not below the smallest exponent. -/
def exponentFor (n d : Nat) : Int :=
  let e : Int := (n.log2 : Int) - d.log2 - 52
  let (a, b) := inUnits n d e
  let e :=
    if a / b < Nat.pow 2 52 then e - 1 else if Nat.pow 2 53 ≤ a / b then e + 1 else e
  max e minExponent

namespace Binary64

/-- Zero of the given sign. -/
def zero (negative : Bool) : Binary64 := .finite negative 0 0

/-- The number nearest to the ratio `± n / d` with `d` positive. -/
def ofRatio (negative : Bool) (n d : Nat) : Binary64 :=
  if n = 0 then zero negative
  else
    let e := exponentFor n d
    let (a, b) := inUnits n d e
    let m := roundHalfEven a b
    let (m, e) := if m = Nat.pow 2 53 then (Nat.pow 2 52, e + 1) else (m, e)
    if m = 0 then zero negative
    else if maxExponent < e then .infinite negative
    else .finite negative m e

/-- The number of decimal digits of `n`; zero has one. -/
def digitCount (n : Nat) : Nat := (Nat.toDigits 10 n).length

/-- The number nearest to `± digits * 10 ^ exponent`. Exponents that lead out of the range on sight
are decided without building the power of ten. -/
def ofDecimal (negative : Bool) (digits : Nat) (exponent : Int) : Binary64 :=
  let size : Int := digitCount digits + exponent
  if digits = 0 || size < -330 then zero negative
  else if 310 < size then .infinite negative
  else if 0 ≤ exponent then ofRatio negative (digits * Nat.pow 10 exponent.toNat) 1
  else ofRatio negative digits (Nat.pow 10 (-exponent).toNat)

/-- Not above zero; a not-a-number is on no side of zero, so it is not. -/
def isNonPositive : Binary64 → Bool
  | .finite negative m _ => negative || m == 0
  | .infinite negative => negative
  | .nan => false

end Binary64

end BuildLine.Decimal
