import BuildLine.Text.Numeral
import BuildLine.Text.Split

/-!
# Versions

Three numbers with points between them and, after a hyphen, an optional trail. `Version.parse`
reads the written form. Its checks come in a fixed order, and the first that fails gives the fault:
the number of parts, then a first part that is empty, then the two classes of digits, then the
numbers themselves from left to right.
-/

namespace BuildLine

open Text

/-- A version. -/
structure Version where
  /-- The first number. -/
  major : Nat
  /-- The second number. -/
  minor : Nat
  /-- The third number. -/
  patch : Nat
  /-- What was written after the hyphen. -/
  trail : Option String
  deriving DecidableEq, Repr

namespace Version

/-- The written form as characters; an empty trail is not shown. -/
def spell (v : Version) : List Char :=
  Nat.toDigits 10 v.major ++ '.' :: Nat.toDigits 10 v.minor ++ '.' :: Nat.toDigits 10 v.patch ++
    match v.trail with
    | none => []
    | some t => if t.isEmpty then [] else '-' :: t.toList

/-- The written form. -/
def text (v : Version) : String :=
  String.ofList v.spell

/-- The version of this program. -/
def current : Version := { major := 0, minor := 1, patch := 0, trail := none }

/-- Why a text is no version. -/
inductive Fault where
  /-- Fewer than three parts. -/
  | tooFewParts (count : Nat)
  /-- More than three parts. -/
  | tooManyParts
  /-- Nothing before the first point. -/
  | noMajor
  /-- A part that has to be made of digits is not. -/
  | notDigits
  /-- A part is no number. -/
  | number (f : Numeral.Fault)
  deriving DecidableEq, Repr

/-- The wording of a fault. -/
def Fault.message : Fault → String
  | .tooFewParts n => s!"not enough values to unpack (expected 3, got {n})"
  | .tooManyParts => "too many values to unpack (expected 3)"
  | .noMajor => "string index out of range"
  | .notDigits => ""
  | .number f => f.message

/-- The first part without the letter that may stand in front of it. -/
def withoutLetter : List Char → Except Fault (List Char)
  | [] => .error .noMajor
  | c :: s => .ok (if c = 'v' || c = 'V' then s else c :: s)

/-- Refuse a part that is not made of digits. -/
def requireDigits (s : List Char) : Except Fault Unit :=
  if allDigits s then .ok () else .error .notDigits

/-- The number of a part. -/
def number (s : List Char) : Except Fault Nat :=
  (Numeral.read s).mapError .number

/-- The third part cut at its first hyphen. Only what stands before a hyphen has to be digits. -/
def cutTrail (s : List Char) : Except Fault (List Char × Option String) :=
  match cutFirst? '-' s with
  | none => .ok (s, none)
  | some (n, t) => do
    requireDigits n
    return (n, some (String.ofList t))

/-- The version of three parts. -/
def ofParts (a b c : List Char) : Except Fault Version := do
  let a ← withoutLetter a
  requireDigits a
  requireDigits b
  let (c, trail) ← cutTrail c
  return { major := ← number a, minor := ← number b, patch := ← number c, trail }

/-- **The version that a text spells**; the empty text spells none. -/
def parse (s : String) : Except Fault (Option Version) :=
  if s.isEmpty then .ok none
  else match splitAt '.' s.toList with
    | [a, b, c] => (ofParts a b c).map some
    | ps => .error (if ps.length < 3 then .tooFewParts ps.length else .tooManyParts)

end Version

end BuildLine
