import BuildLine.Files.Tree
import BuildLine.Shell.Print

/-!
# Conditions

The conditions that a program can test: on texts, on numbers and on files. How a list of words is to
be read depends first on how many there are, so that a word can be tested that looks like an
operator.
-/

namespace BuildLine.Shell.Condition

open Files

/-- What conditions are about. -/
structure Facts where
  /-- The files. -/
  tree : Tree
  /-- The directory. -/
  here : Place

/-- What a condition comes to, or what is wrong with it. -/
abbrev Verdict := Except String Bool

/-- The operators on one word. -/
def oneSided : List String :=
  ["-n", "-z", "-e", "-f", "-d", "-h", "-L", "-r", "-w", "-x", "-s", "-b", "-c", "-p", "-S", "-t"]

/-- The operators between two words. -/
def twoSided : List String :=
  ["=", "!=", "-eq", "-ne", "-lt", "-le", "-gt", "-ge", "<", ">", "-nt", "-ot", "-ef"]

/-- The link at a path itself. -/
def isLink (f : Facts) (path : String) : Bool :=
  let names := (Written.ofText path).fromRoot f.here
  match f.tree.walk names.dropLast, names.getLast? with
  | .ok p, some n =>
    match f.tree.entry? (p ++ [n]) with
    | some (.link _) => true
    | _ => false
  | _, _ => false

/-- The condition of an operator on one word. -/
def one (f : Facts) (o w : String) : Bool :=
  let entry := f.tree.look f.here w
  match o, entry with
  | "-n", _ => !w.isEmpty
  | "-z", _ => w.isEmpty
  | "-h", _ | "-L", _ => isLink f w
  | "-e", .ok _ | "-r", .ok _ | "-w", .ok _ => true
  | "-f", .ok (.file _) => true
  | "-s", .ok (.file octets) => !octets.isEmpty
  | "-s", .ok .dir => true
  | "-d", .ok .dir | "-x", .ok .dir => true
  | _, _ => false

/-- A word as a number. -/
def number (w : String) : Except String Int :=
  match (String.ofList (w.toList.dropWhile (· = ' '))).toInt? with
  | some n => .ok n
  | none => .error ("Illegal number: " ++ w)

/-- Two paths that lead to the same place. -/
def isSame (f : Facts) (a b : String) : Bool :=
  let place (w : String) := f.tree.walk ((Written.ofText w).fromRoot f.here)
  match place a, place b with
  | .ok p, .ok q => p = q && (f.tree.look f.here a).toOption.isSome
  | _, _ => false

/-- The condition of an operator between two words. No file is newer than another. -/
def two (f : Facts) (a o b : String) : Verdict :=
  match o with
  | "-nt" | "-ot" => .ok false
  | "-ef" => .ok (isSame f a b)
  | "=" => .ok (a = b)
  | "!=" => .ok (a ≠ b)
  | "<" => .ok (a < b)
  | ">" => .ok (a > b)
  | o => do
    let m ← number a
    let n ← number b
    return match o with
      | "-eq" => m = n
      | "-ne" => m ≠ n
      | "-lt" => m < n
      | "-le" => m ≤ n
      | "-gt" => m > n
      | _ => m ≥ n

mutual

/-- Conditions of which one has to hold. -/
def anyOf (f : Facts) : Nat → List String → Except String (Bool × List String)
  | 0, _ => .error "too many operands"
  | n + 1, ws => do
    let (a, ws) ← allOf f n ws
    match ws with
    | "-o" :: ws => do
      let (b, ws) ← anyOf f n ws
      return (a || b, ws)
    | ws => return (a, ws)

/-- Conditions all of which have to hold. -/
def allOf (f : Facts) : Nat → List String → Except String (Bool × List String)
  | 0, _ => .error "too many operands"
  | n + 1, ws => do
    let (a, ws) ← single f n ws
    match ws with
    | "-a" :: ws => do
      let (b, ws) ← allOf f n ws
      return (a && b, ws)
    | ws => return (a, ws)

/-- A single condition. -/
def single (f : Facts) : Nat → List String → Except String (Bool × List String)
  | 0, _ => .error "too many operands"
  | n + 1, ws =>
    match ws with
    | [] => .ok (false, [])
    | a :: o :: b :: rest =>
      if twoSided.contains o then do
        return (← two f a o b, rest)
      else prefixed f n ws
    | ws => prefixed f n ws

/-- A condition that starts with its operator. -/
def prefixed (f : Facts) : Nat → List String → Except String (Bool × List String)
  | 0, _ => .error "too many operands"
  | n + 1, ws =>
    match ws with
    | "!" :: w :: rest => do
      let (a, rest) ← single f n (w :: rest)
      return (!a, rest)
    | "(" :: rest => do
      let (a, rest) ← anyOf f n rest
      match rest with
      | ")" :: rest => return (a, rest)
      | _ => .error "closing paren expected"
    | o :: w :: rest =>
      if oneSided.contains o then .ok (one f o w, rest) else .ok (!o.isEmpty, w :: rest)
    | [w] => .ok (!w.isEmpty, [])
    | [] => .error "argument expected"

end

/-- **What a condition comes to.** -/
def evaluate (f : Facts) (ws : List String) : Verdict :=
  match ws with
  | [] => .ok false
  | [w] => .ok (!w.isEmpty)
  | ["!", w] => .ok w.isEmpty
  | ws => do
    let (a, rest) ← anyOf f (4 * ws.length + 4) ws
    if rest.isEmpty then return a
    else .error ((ws[ws.length - rest.length - 1]?).getD "" ++ ": unexpected operator")

end BuildLine.Shell.Condition
