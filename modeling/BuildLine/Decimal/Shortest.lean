import BuildLine.Decimal.Binary64

/-!
# The shortest decimal that reads back

A binary number is written with the fewest decimal digits that still round to it, and of the
decimals with that many digits the nearest one is taken. The reals that round to a number form an
interval around it, which holds its ends when the mantissa is even. On the grid of decimals with
`n` digits only the two neighbours of the number need a look: if any point of the grid lies in the
interval, one of them does.

All of this is in exact integers. `FloatStyle` then says how the digits become text.
-/

namespace BuildLine.Decimal

/-- A positive decimal `digits * 10 ^ exponent`. -/
structure Digits where
  /-- The digits, read as a number. -/
  digits : Nat
  /-- The power of ten they are multiplied by. -/
  exponent : Int
  deriving DecidableEq, Repr

/-- The comparison `c * 10 ^ s ≤ n / d`, without division. -/
def gridLe (c : Nat) (s : Int) (n d : Nat) : Bool :=
  if 0 ≤ s then c * Nat.pow 10 s.toNat * d ≤ n else c * d ≤ n * Nat.pow 10 (-s).toNat

/-- The comparison `n / d ≤ c * 10 ^ s`, without division. -/
def leGrid (n d : Nat) (c : Nat) (s : Int) : Bool :=
  if 0 ≤ s then n ≤ c * Nat.pow 10 s.toNat * d else n * Nat.pow 10 (-s).toNat ≤ c * d

/-- The number of digits before the decimal point of `n / d`; not positive if there are none, and
then it counts the zeros after the point. -/
def magnitude (n d : Nat) : Int :=
  if d ≤ n then Binary64.digitCount (n / d)
  else
    let j := Binary64.digitCount d - Binary64.digitCount n
    if d ≤ n * Nat.pow 10 j then 1 - (j : Int) else -(j : Int)

/-- The reals that round to a positive number, in units in which number and ends are integers. -/
structure Rounding where
  /-- The number. -/
  value : Nat
  /-- The lower end. -/
  low : Nat
  /-- The upper end. -/
  high : Nat
  /-- The ends round to the number, too. -/
  closed : Bool
  /-- What the three are divided by. -/
  denominator : Nat

/-- The interval of `mantissa * 2 ^ exponent`. Below a power of two the steps are half as wide. -/
def rounding (mantissa : Nat) (exponent : Int) : Rounding :=
  let e := exponent - 2
  let (u, d) := if 0 ≤ e then (Nat.pow 2 e.toNat, 1) else (1, Nat.pow 2 (-e).toNat)
  let down := if mantissa = Nat.pow 2 52 && minExponent < exponent then 1 else 2
  { value := 4 * mantissa * u
    low := (4 * mantissa - down) * u
    high := (4 * mantissa + 2) * u
    closed := mantissa % 2 = 0
    denominator := d }

namespace Rounding

/-- The grid point `c * 10 ^ s` rounds to the number. -/
def holds (r : Rounding) (c : Nat) (s : Int) : Bool :=
  let above := leGrid r.low r.denominator c s
  let below := gridLe c s r.high r.denominator
  if r.closed then above && below
  else above && below && !gridLe c s r.low r.denominator && !leGrid r.high r.denominator c s

/-- The grid point at or below the number. -/
def floorOn (r : Rounding) (s : Int) : Nat :=
  if 0 ≤ s then r.value / (r.denominator * Nat.pow 10 s.toNat)
  else r.value * Nat.pow 10 (-s).toNat / r.denominator

/-- The number lies in the lower half of the step above the grid point `c`, or in its middle and
`c` is even. -/
def lowerIsNearer (r : Rounding) (c : Nat) (s : Int) : Bool :=
  let twice := 2 * r.value
  let middle := 2 * c + 1
  if leGrid twice r.denominator middle s then !gridLe middle s twice r.denominator || c % 2 == 0
  else false

/-- The better of the two neighbours on the grid of step `10 ^ s`, if one of them will do. -/
def neighbour? (r : Rounding) (s : Int) : Option Digits :=
  let c := r.floorOn s
  match r.holds c s, r.holds (c + 1) s with
  | true, true => some ⟨if r.lowerIsNearer c s then c else c + 1, s⟩
  | true, false => some ⟨c, s⟩
  | false, true => some ⟨c + 1, s⟩
  | false, false => none

/-- The first of the grids with `digits`, `digits + 1`, … digits on which a neighbour will do;
with no grid left, the neighbour below. -/
def search (r : Rounding) (size : Int) : Nat → Nat → Digits
  | 0, n => ⟨r.floorOn (size - n), size - n⟩
  | k + 1, n =>
    match r.neighbour? (size - n) with
    | some d => d
    | none => search r size k (n + 1)

end Rounding

/-- The fewest digits that read back as `mantissa * 2 ^ exponent`; seventeen always suffice. -/
def shortest (mantissa : Nat) (exponent : Int) : Digits :=
  let r := rounding mantissa exponent
  r.search (magnitude r.value r.denominator) 17 1

/-- How digits become text. -/
structure FloatStyle where
  /-- Positional notation reaches from this decimal exponent … -/
  leastPositional : Int
  /-- … to below this one. -/
  leastScientific : Int
  /-- The least number of digits of an exponent. -/
  exponentWidth : Nat

/-- Floating point numbers are positional from a ten-thousandth to below ten to the sixteenth and
show at least one digit after the point; exponents are signed and have two digits. -/
def floatStyle : FloatStyle := ⟨-4, 16, 2⟩

/-- The text of `n` with leading zeros up to `width` digits. -/
def padded (width n : Nat) : String :=
  let s := toString n
  String.ofList (List.replicate (width - s.length) '0') ++ s

/-- The digits without trailing zeros, as characters. -/
def significant (d : Digits) : List Char :=
  let cs := Nat.toDigits 10 d.digits
  match (cs.reverse.dropWhile (· == '0')).reverse with
  | [] => ['0']
  | cs => cs

/-- The text of positive digits in a style. -/
def FloatStyle.text (style : FloatStyle) (d : Digits) : String :=
  let point : Int := Binary64.digitCount d.digits + d.exponent
  let cs := significant d
  let e := point - 1
  if style.leastPositional ≤ e && e < style.leastScientific then
    if point ≤ 0 then "0." ++ String.ofList (List.replicate (-point).toNat '0' ++ cs)
    else
      let n := point.toNat
      let whole := cs.take n ++ List.replicate (n - cs.length) '0'
      let rest := cs.drop n
      String.ofList (whole ++ '.' :: (if rest.isEmpty then ['0'] else rest))
  else
    let mantissa := match cs with
      | [] => []
      | [c] => [c]
      | c :: rest => c :: '.' :: rest
    let sign := if e < 0 then "-" else "+"
    String.ofList mantissa ++ "e" ++ sign ++ padded style.exponentWidth e.natAbs

/-- The text of a floating point number. -/
def Binary64.text : Binary64 → String
  | .nan => "nan"
  | .infinite negative => if negative then "-inf" else "inf"
  | .finite negative m e =>
    let body := if m = 0 then "0.0" else floatStyle.text (shortest m e)
    if negative then "-" ++ body else body

end BuildLine.Decimal
