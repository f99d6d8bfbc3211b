import BuildLine.Shell.Token

/-!
# Arithmetic

The number that an expression comes to. A text is read as an expression first, operators from the
loosest to the tightest and those of one level from left to right; the expression is evaluated then,
so that what is not chosen is read but does not count. Numbers are words of sixty-four bits with a
sign. Comparisons and logical operators come to one or zero.

A name stands for the number that its variable spells, and for zero if there is none. An expression
may set variables; what it has set it finds again further on.
-/

namespace BuildLine.Shell.Arithmetic

/-! ### Expressions -/

/-- An operator between two numbers. -/
inductive Operator where
  | or | xor | and | equal | differ | atMost | atLeast | less | more | shiftLeft | shiftRight
  | plus | minus | times | quotient | remainder
  deriving DecidableEq, Repr

/-- An expression. -/
inductive Expr where
  /-- A number. -/
  | number (n : Int)
  /-- The number under a name. -/
  | name (s : String)
  /-- The negative. -/
  | negative (e : Expr)
  /-- All bits turned. -/
  | turned (e : Expr)
  /-- One if it is zero, and zero otherwise. -/
  | isZero (e : Expr)
  /-- What an operator makes of two numbers. -/
  | binary (o : Operator) (a b : Expr)
  /-- One if one of them is not zero; the second one counts only if the first one is zero. -/
  | either (a b : Expr)
  /-- One if none of them is zero; the second one counts only if the first one is not zero. -/
  | both (a b : Expr)
  /-- The second one if the first one is not zero, and the third one otherwise. -/
  | choice (a b c : Expr)
  /-- Set a variable, to what an operator makes of its number if there is one. -/
  | assign (s : String) (o : Option Operator) (e : Expr)
  deriving Repr

/-- What is wrong with an expression. -/
inductive Fault where
  /-- Something else is expected. -/
  | expecting (what : String)
  /-- A division by zero. -/
  | zeroDivisor
  /-- A variable that spells no number. -/
  | notNumber (value : String)
  deriving DecidableEq, Repr

/-- The wording of a fault of the expression that `s` spells. -/
def Fault.message (s : String) : Fault → String
  | .expecting what => "arithmetic expression: expecting " ++ what ++ ": \"" ++ s ++ "\""
  | .zeroDivisor => "arithmetic expression: division by zero: \"" ++ s ++ "\""
  | .notNumber value => "Illegal number: " ++ value

/-! ### Numerals -/

/-- The value of a digit. -/
def digit (c : Char) : Nat :=
  if c.isDigit then c.toNat - 48 else c.toLower.toNat - 87

/-- The number that digits of a base spell, which is not larger than the largest number. -/
def spell (base : Nat) (ds : List Char) : Int :=
  Int.ofNat (min (ds.foldl (fun n c => n * base + digit c) 0) (Nat.pow 2 63 - 1))

/-- A digit of the base sixteen. -/
def isHexDigit (c : Char) : Bool :=
  c.isDigit || ('a' ≤ c.toLower && c.toLower ≤ 'f')

/-- A digit of the base eight. -/
def isOctalDigit (c : Char) : Bool := '0' ≤ c && c ≤ '7'

/-- The number that digits at the start of a text spell, in the base that they start with. -/
def numeral? (s : List Char) : Option (Int × List Char) :=
  let digits (base : Nat) (p : Char → Bool) (s : List Char) : Int × List Char :=
    (spell base (s.takeWhile p), s.dropWhile p)
  match s with
  | '0' :: x :: d :: r =>
    if (x = 'x' || x = 'X') && isHexDigit d then some (digits 16 isHexDigit (d :: r))
    else some (digits 8 isOctalDigit s)
  | c :: _ =>
    if c = '0' then some (digits 8 isOctalDigit s)
    else if c.isDigit then some (digits 10 Char.isDigit s)
    else none
  | [] => none

/-- A text without the blanks before it. -/
def skip (s : List Char) : List Char := s.dropWhile Char.isWhitespace

/-- The number that the value of a variable spells. -/
def valueNumber? (s : String) : Option Int :=
  let read (s : List Char) : Option Int :=
    match numeral? s with
    | some (n, rest) => if (skip rest).isEmpty then some n else none
    | none => none
  match skip s.toList with
  | [] => some 0
  | '-' :: s => (read s).map fun n => -n
  | '+' :: s => read s
  | s => read s

/-! ### Reading -/

/-- The marks of the operators by levels, the loosest first; within a level longer ones first. -/
def levels : List (List (String × Operator)) :=
  [[("|", .or)], [("^", .xor)], [("&", .and)], [("==", .equal), ("!=", .differ)],
   [("<=", .atMost), (">=", .atLeast), ("<", .less), (">", .more)],
   [("<<", .shiftLeft), (">>", .shiftRight)], [("+", .plus), ("-", .minus)],
   [("*", .times), ("/", .quotient), ("%", .remainder)]]

/-- The operators that may stand before an equals sign that sets a variable. -/
def assigning : List (String × Operator) :=
  [("<<", .shiftLeft), (">>", .shiftRight), ("+", .plus), ("-", .minus), ("*", .times),
   ("/", .quotient), ("%", .remainder), ("&", .and), ("^", .xor), ("|", .or)]

/-- A mark that is the start of a longer one does not stand here. -/
def isWhole (mark : String) (rest : List Char) : Bool :=
  match mark, rest.head? with
  | "|", some '|' | "&", some '&' | "<", some '<' | ">", some '>' => false
  | m, some '=' => !(assigning.lookup m).isSome
  | _, _ => true

/-- The operator of a level that a text starts with. -/
def operator? (os : List (String × Operator)) (s : List Char) : Option (Operator × List Char) :=
  (os.find? fun o => o.1.toList.isPrefixOf s && isWhole o.1 (s.drop o.1.length)).map fun o =>
    (o.2, s.drop o.1.length)

/-- The name that a text starts with, if it is set there: the operator and what it is set to. -/
def setting? (s : List Char) : Option (String × Option Operator × List Char) :=
  let (name, rest) := s.span Token.isNameChar
  let rest := skip rest
  let name := String.ofList name
  if !s.head?.any Token.startsName then none
  else match assigning.find? fun o => (o.1 ++ "=").toList.isPrefixOf rest with
    | some o => some (name, some o.2, rest.drop (o.1.length + 1))
    | none =>
      match rest with
      | '=' :: '=' :: _ => none
      | '=' :: rest => some (name, none, rest)
      | _ => none

/-- An expression with what follows it. -/
abbrev Reading := Except Fault (Expr × List Char)

mutual

/-- Read an expression that may set a variable. -/
def assignment : Nat → List Char → Reading
  | 0, _ => .error (.expecting "primary")
  | n + 1, s =>
    match setting? (skip s) with
    | some (name, o, s) => do
      let (e, s) ← assignment n s
      return (.assign name o e, s)
    | none => condition n s

/-- Read an expression that may choose between two others. -/
def condition : Nat → List Char → Reading
  | 0, _ => .error (.expecting "primary")
  | n + 1, s => do
    let (a, s) ← disjunction n s
    match skip s with
    | '?' :: s => do
      let (b, s) ← assignment n s
      match skip s with
      | ':' :: s => do
        let (c, s) ← condition n s
        return (.choice a b c, s)
      | _ => .error (.expecting "':'")
    | s => return (a, s)

/-- Read expressions one of which is not to be zero. -/
def disjunction : Nat → List Char → Reading
  | 0, _ => .error (.expecting "primary")
  | n + 1, s => do
    let (a, s) ← conjunction n s
    match skip s with
    | '|' :: '|' :: s => do
      let (b, s) ← disjunction n s
      return (.either a b, s)
    | s => return (a, s)

/-- Read expressions none of which is to be zero. -/
def conjunction : Nat → List Char → Reading
  | 0, _ => .error (.expecting "primary")
  | n + 1, s => do
    let (a, s) ← level n levels s
    match skip s with
    | '&' :: '&' :: s => do
      let (b, s) ← conjunction n s
      return (.both a b, s)
    | s => return (a, s)

/-- Read an expression whose operators are on the levels given. -/
def level : Nat → List (List (String × Operator)) → List Char → Reading
  | 0, _, _ => .error (.expecting "primary")
  | n + 1, [], s => operand n (skip s)
  | n + 1, os :: rest, s => do
    let (a, s) ← level n rest s
    more n os rest a (skip s)

/-- Go on with further operators of a level. -/
def more : Nat → List (String × Operator) → List (List (String × Operator)) → Expr → List Char →
    Reading
  | 0, _, _, _, _ => .error (.expecting "primary")
  | n + 1, os, rest, a, s =>
    match operator? os s with
    | none => .ok (a, s)
    | some (o, s) => do
      let (b, s) ← level n rest s
      more n os rest (.binary o a b) (skip s)

/-- Read an expression without operators between two numbers. -/
def operand : Nat → List Char → Reading
  | 0, _ => .error (.expecting "primary")
  | _, [] => .error (.expecting "primary")
  | n + 1, c :: s =>
    let signed (f : Expr → Expr) : Reading := (operand n (skip s)).map fun r => (f r.1, r.2)
    if c = '(' then do
      let (a, s) ← assignment n s
      match skip s with
      | ')' :: s => return (a, s)
      | _ => .error (.expecting "')'")
    else if c = '-' then signed .negative
    else if c = '+' then signed id
    else if c = '!' then signed .isZero
    else if c = '~' then signed .turned
    else if Token.startsName c then
      let (name, rest) := (c :: s).span Token.isNameChar
      .ok (.name (String.ofList name), rest)
    else match numeral? (c :: s) with
      | some (k, rest) => .ok (.number k, rest)
      | none => .error (.expecting "primary")

end

/-- **The expression that a text spells.** -/
def Expr.read (s : List Char) : Except Fault Expr := do
  let (e, rest) ← assignment (16 * s.length + 32) s
  if (skip rest).isEmpty then return e else throw (.expecting "EOF")

/-! ### Evaluation -/

/-- The number as a word of sixty-four bits. -/
def word (n : Int) : Int := Int.bmod n (Nat.pow 2 64)

/-- The bits of a number. -/
def bits (n : Int) : Nat := (n % Int.pow 2 64).toNat

/-- The truth of a number. -/
def ofBool (b : Bool) : Int := if b then 1 else 0

/-- What an operator makes of two numbers. -/
def Operator.apply (o : Operator) (a b : Int) : Except Fault Int :=
  match o with
  | .or => .ok (word (bits a ||| bits b))
  | .xor => .ok (word (bits a ^^^ bits b))
  | .and => .ok (word (bits a &&& bits b))
  | .equal => .ok (ofBool (a = b))
  | .differ => .ok (ofBool (a ≠ b))
  | .atMost => .ok (ofBool (a ≤ b))
  | .atLeast => .ok (ofBool (a ≥ b))
  | .less => .ok (ofBool (a < b))
  | .more => .ok (ofBool (a > b))
  | .shiftLeft => .ok (word (a * Int.pow 2 (bits b % 64)))
  | .shiftRight => .ok (a / Int.pow 2 (bits b % 64))
  | .plus => .ok (word (a + b))
  | .minus => .ok (word (a - b))
  | .times => .ok (word (a * b))
  | .quotient => if b = 0 then .error .zeroDivisor else .ok (word (a.tdiv b))
  | .remainder => if b = 0 then .error .zeroDivisor else .ok (a.tmod b)

/-- Variables with their values. -/
abbrev Values := List (String × String)

/-- Evaluation: with the variables that were set so far, the last one first. -/
abbrev Evaluation := StateT Values (Except Fault)

/-- The number under a name, where `values` tells of the variables that were not set yet. -/
def numberUnder (values : String → Option String) (name : String) : Evaluation Int := do
  let value := (((← get).lookup name).or (values name)).getD ""
  match valueNumber? value with
  | some n => return n
  | none => throw (.notNumber value)

/-- **The number that an expression comes to.** -/
def Expr.evaluate (values : String → Option String) : Expr → Evaluation Int
  | .number n => return n
  | .name s => numberUnder values s
  | .negative e => do return word (-(← e.evaluate values))
  | .turned e => do return -(← e.evaluate values) - 1
  | .isZero e => do return ofBool ((← e.evaluate values) = 0)
  | .binary o a b => do
    let m ← a.evaluate values
    let n ← b.evaluate values
    o.apply m n
  | .either a b => do
    if (← a.evaluate values) ≠ 0 then return 1
    else return ofBool ((← b.evaluate values) ≠ 0)
  | .both a b => do
    if (← a.evaluate values) = 0 then return 0
    else return ofBool ((← b.evaluate values) ≠ 0)
  | .choice a b c => do
    if (← a.evaluate values) ≠ 0 then b.evaluate values else c.evaluate values
  | .assign s o e => do
    let n ← e.evaluate values
    let n ← match o with
      | some o => do
        let m ← numberUnder values s
        o.apply m n
      | none => pure n
    modify fun vs => (s, toString n) :: vs
    return n

/-- The number that a text comes to, and the variables that it sets, the first one first. -/
def evaluate (values : String → Option String) (s : List Char) : Except Fault (Int × Values) := do
  let e ← Expr.read s
  let (n, vs) ← (e.evaluate values).run []
  return (n, vs.reverse)

end BuildLine.Shell.Arithmetic
