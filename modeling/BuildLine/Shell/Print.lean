import BuildLine.Text.Utf8

/-!
# Printed texts

The two commands that print their operands. Both know backslash escapes, but not in the same place:
one in its operands and the other in its format, whose directives say how an operand is shown. A
format is used again as long as operands are left.
-/

namespace BuildLine.Shell.Print

open Text

/-- The octets of a character. -/
def octetsOf (c : Char) : List UInt8 := Utf8.encode [c]

/-- A digit of an octal number. -/
def isOctal (c : Char) : Bool := '0' ≤ c && c ≤ '7'

/-- The octet that octal digits spell. -/
def octal (ds : List Char) : UInt8 :=
  UInt8.ofNat (ds.foldl (fun n c => 8 * n + (c.toNat - 48)) 0)

/-- The octet of an escape that is a single letter. -/
def letterEscape? : Char → Option UInt8
  | '\\' => some 92
  | 'a' => some 7
  | 'b' => some 8
  | 'f' => some 12
  | 'n' => some 10
  | 'r' => some 13
  | 't' => some 9
  | 'v' => some 11
  | _ => none

/-- What a backslash before a text stands for, and what follows it. -/
def escape (s : List Char) : List UInt8 × List Char :=
  match s with
  | [] => ([92], [])
  | c :: rest =>
    if isOctal c then
      let digits := (s.takeWhile isOctal).take 3
      ([octal digits], s.drop digits.length)
    else match letterEscape? c with
      | some b => ([b], rest)
      | none => ([92], s)

/-- The octets of an operand with escapes, and whether an escape stops all printing. -/
def operandOctets : Nat → List Char → List UInt8 × Bool
  | 0, _ => ([], false)
  | _, [] => ([], false)
  | n + 1, c :: s =>
    if c = '\\' then
      match s with
      | 'c' :: _ => ([], true)
      | _ =>
        let s := match s with
          | '0' :: d :: r => if isOctal d then d :: r else s
          | s => s
        let (octets, rest) := escape s
        let (more, stopped) := operandOctets n rest
        (octets ++ more, stopped)
    else
      let (more, stopped) := operandOctets n s
      (octetsOf c ++ more, stopped)

/-- Operands with spaces between them. -/
def spaced : List String → List UInt8 × Bool
  | [] => ([], false)
  | s :: ss =>
    let (octets, stopped) := operandOctets (s.length + 1) s.toList
    if stopped then (octets, true)
    else if ss.isEmpty then (octets, false)
    else
      let (more, stopped) := spaced ss
      (octets ++ 32 :: more, stopped)

/-- **Operands in a line,** which is not ended if the first operand says so. -/
def line (operands : List String) : List UInt8 :=
  match operands with
  | "-n" :: operands => (spaced operands).1
  | operands =>
    let (octets, stopped) := spaced operands
    if stopped then octets else octets ++ [10]

/-! ### Formats -/

/-- How an operand is shown. -/
structure Directive where
  /-- The flags. -/
  flags : List Char
  /-- The least width. -/
  width : Nat
  /-- The precision. -/
  precision : Option Nat
  /-- The letter of the conversion, if there is one. -/
  letter : Option Char
  deriving Repr

/-- What a format prints. -/
structure Printed where
  /-- The octets. -/
  octets : List UInt8 := []
  /-- Complaints. -/
  complaints : List String := []
  /-- The operands that are left. -/
  left : List String := []
  /-- Nothing more is printed. -/
  stopped : Bool := false
  /-- The format is none. -/
  broken : Bool := false

/-- A number in digits of a base. -/
def digits (base : Nat) (n : Nat) : List Char := Nat.toDigits base n

/-- The number that an operand stands for; none if it is no number. -/
def number? (s : String) : Option Int :=
  let unsigned (s : List Char) : Option Nat :=
    match s with
    | '0' :: 'x' :: r => if r.isEmpty then none else hex r
    | '0' :: r =>
      if r.all isOctal then some (r.foldl (fun n c => 8 * n + (c.toNat - 48)) 0) else none
    | r => if !r.isEmpty && r.all Char.isDigit then (String.ofList r).toNat? else none
  match s.toList with
  | [] => some 0
  | '\'' :: c :: _ | '"' :: c :: _ => some c.toNat
  | '-' :: r => (unsigned r).map fun n => - (n : Int)
  | '+' :: r => (unsigned r).map Int.ofNat
  | r => (unsigned r).map Int.ofNat
where
  hex (r : List Char) : Option Nat :=
    r.foldl (fun n c => do
      let n ← n
      if c.isDigit then some (16 * n + (c.toNat - 48))
      else if 'a' ≤ c.toLower && c.toLower ≤ 'f' then some (16 * n + (c.toLower.toNat - 87))
      else none) (some 0)

/-- A text with spaces up to the width of a directive. -/
def Directive.padded (d : Directive) (s : List UInt8) : List UInt8 :=
  let spaces := List.replicate (d.width - s.length) 32
  if d.flags.contains '-' then s ++ spaces else spaces ++ s

/-- A number in the way of a directive. -/
def Directive.numeral (d : Directive) (letter : Char) (n : Int) : List UInt8 :=
  let size := n.natAbs
  let unsigned := (n % Int.pow 2 64).toNat
  let (sign, ds) := match letter with
    | 'o' => ("", digits 8 unsigned)
    | 'x' => ("", digits 16 unsigned)
    | 'X' => ("", (digits 16 unsigned).map Char.toUpper)
    | 'u' => ("", digits 10 unsigned)
    | _ =>
      (if n < 0 then "-" else if d.flags.contains '+' then "+"
        else if d.flags.contains ' ' then " " else "", digits 10 size)
  let ds := List.replicate (d.precision.getD 1 - ds.length) '0' ++ ds
  let zeros :=
    if d.flags.contains '0' && !d.flags.contains '-' && d.precision.isNone then
      List.replicate (d.width - (sign.length + ds.length)) '0'
    else []
  d.padded (Utf8.encode (sign.toList ++ zeros ++ ds))

/-- A directive behind the per cent sign; a star takes its number from the operands. -/
def directive (s : List Char) (operands : List String) :
    Directive × List Char × List String :=
  let isFlag (c : Char) := ['-', '+', ' ', '0', '#'].contains c
  let flags := s.takeWhile isFlag
  let s := s.dropWhile isFlag
  let count (s : List Char) (operands : List String) : Nat × List Char × List String :=
    match s with
    | '*' :: s => (((operands.head?.bind number?).getD 0).toNat, s, operands.drop 1)
    | s => (((String.ofList (s.takeWhile Char.isDigit)).toNat?).getD 0, s.dropWhile Char.isDigit,
        operands)
  let (width, s, operands) := count s operands
  let (precision, s, operands) := match s with
    | '.' :: s =>
      let (p, s, operands) := count s operands
      (some p, s, operands)
    | s => (none, s, operands)
  ({ flags, width, precision, letter := s.head? }, s.drop 1, operands)

/-- Show an operand as a directive says. -/
def shown (d : Directive) (letter : Char) (operand : String) : Printed :=
  let cut (s : List UInt8) := match d.precision with
    | some n => s.take n
    | none => s
  match letter with
  | 's' => { octets := d.padded (cut (Utf8.encode operand.toList)) }
  | 'c' => { octets := d.padded ((Utf8.encode operand.toList).take 1) }
  | 'b' =>
    let (octets, stopped) := operandOctets (operand.length + 1) operand.toList
    { octets := d.padded (cut octets), stopped }
  | c =>
    if ['d', 'i', 'u', 'o', 'x', 'X'].contains c then
      match number? operand with
      | some n => { octets := d.numeral c n }
      | none =>
        { octets := d.numeral c 0
          complaints := [operand ++ ": expected numeric value"] }
    else
      { complaints := ["%" ++ String.singleton c ++ ": invalid directive"], stopped := true
        broken := true }

/-- Put something printed before something else. -/
def Printed.andThen (a b : Printed) : Printed :=
  { octets := a.octets ++ b.octets, complaints := a.complaints ++ b.complaints
    left := b.left, stopped := a.stopped || b.stopped, broken := a.broken || b.broken }

/-- Print a format once. -/
def once : Nat → List Char → List String → Printed
  | 0, _, operands => { left := operands }
  | _, [], operands => { left := operands }
  | n + 1, c :: s, operands =>
    if c = '\\' then
      let (octets, rest) := escape s
      ({ octets } : Printed).andThen (once n rest operands)
    else if c = '%' then
      match s with
      | '%' :: s => ({ octets := [37] } : Printed).andThen (once n s operands)
      | s =>
        let (d, s, operands) := directive s operands
        let p := match d.letter with
          | some c => shown d c (operands.headD "")
          | none => { complaints := ["missing format character"], stopped := true, broken := true }
        if p.stopped then p else p.andThen (once n s (operands.drop 1))
    else ({ octets := octetsOf c } : Printed).andThen (once n s operands)

/-- Print a format as long as it uses up operands. -/
def again (format : List Char) : Nat → List String → Printed
  | 0, _ => {}
  | n + 1, operands =>
    let p := once (format.length + 1) format operands
    if p.stopped || p.left.isEmpty || p.left.length = operands.length then p
    else p.andThen (again format n p.left)

/-- **Operands in the way of a format.** -/
def formatted (format : String) (operands : List String) : Printed :=
  again format.toList (operands.length + 1) operands

end BuildLine.Shell.Print
