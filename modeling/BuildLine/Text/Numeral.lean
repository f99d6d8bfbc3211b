import BuildLine.Text.Blank
import BuildLine.Text.Digit
import BuildLine.Text.Quoted

/-!
# Written numbers

A whole number as people write it: padding at both ends, an optional plus sign, decimals of any
script, and single underscores between the decimals. The reader is bounded: a number of more than
`maxDigits` decimals is refused, and that refusal comes before any complaint about what follows the
decimals.
-/

namespace BuildLine.Text.Numeral

/-- A text that is no number. -/
inductive Fault where
  /-- The text is not written like a number. -/
  | malformed (s : List Char)
  /-- The number has too many decimals. -/
  | tooLong (digits : Nat)
  deriving DecidableEq, Repr

/-- The most decimals a number may have. -/
def maxDigits : Nat := 4300

/-- Padding around a number: any blank but the information separators. -/
def isPadding (c : Char) : Bool :=
  isBlank c && !(0x1c ≤ c.toNat && c.toNat ≤ 0x1f)

/-- The values of the decimals at the front and the text after them. Underscores must stand one by
one between decimals; the flag says that an underscore would not be allowed here. -/
def scan (barred : Bool) : List Char → Option (List Nat × List Char)
  | [] => if barred then none else some ([], [])
  | c :: s =>
    if c = '_' then if barred then none else scan true s
    else match decimal? c with
      | some d => (scan false s).map fun r => (d :: r.1, r.2)
      | none => if barred then none else some ([], c :: s)

/-- The text without a plus sign in front. -/
def unsigned : List Char → List Char
  | '+' :: s => s
  | s => s

/-- **The number a text spells.** -/
def read (s : List Char) : Except Fault Nat :=
  match scan true (unsigned (trimLeft isPadding s)) with
  | none => .error (.malformed s)
  | some (ds, rest) =>
    if ds.length > maxDigits then .error (.tooLong ds.length)
    else if (trimLeft isPadding rest).isEmpty then .ok (positional ds)
    else .error (.malformed s)

/-- The complaint about a number of too many decimals. -/
def tooLongMessage (digits : Nat) : String :=
  s!"Exceeds the limit ({maxDigits} digits) for integer string conversion: value has {digits} " ++
    "digits; use sys.set_int_max_str_digits() to increase the limit"

/-- The complaint about a text that is no number; of a long text it shows the front. -/
def Fault.message : Fault → String
  | .malformed s =>
    "invalid literal for int() with base 10: " ++ String.ofList ((Quoted.encode s).take 200)
  | .tooLong n => tooLongMessage n

end BuildLine.Text.Numeral
