import BuildLine.Files.Tree
import BuildLine.Text.Occurrence

/-!
# Utilities

The commands that a shell finds beside itself and that take no time: they read files or what is
given to them, write something, and may change the files. Only the common options are known.
-/

namespace BuildLine.Shell.Utility

open Files

/-- What a utility finds when it starts. -/
structure Desk where
  /-- The files. -/
  tree : Tree
  /-- The directory. -/
  here : Place
  /-- What is given to it. -/
  input : List UInt8 := []

/-- What a utility leaves. -/
structure Work where
  /-- The files. -/
  tree : Tree
  /-- What it wrote, by the number of the port. -/
  said : List (Nat × List UInt8) := []
  /-- Its status. -/
  status : Nat := 0

namespace Work

/-- Write octets. -/
def put (w : Work) (octets : List UInt8) : Work :=
  { w with said := w.said ++ [(1, octets)] }

/-- Write a line. -/
def line (w : Work) (s : String) : Work :=
  w.put (Text.Utf8.encode (s.toList ++ ['\n']))

/-- Complain. -/
def complain (status : Nat) (w : Work) (s : String) : Work :=
  { w with said := w.said ++ [(2, Text.Utf8.encode (s.toList ++ ['\n']))], status }

end Work

/-- What a utility does: from its operands to its work. -/
abbrev Deed := Desk → List String → Work

/-- The letters of the options in front, and the operands behind them. -/
def options : List String → List Char × List String
  | [] => ([], [])
  | w :: ws =>
    if w = "--" then ([], ws)
    else if w.startsWith "-" && w.length > 1 then
      let (letters, operands) := options ws
      (w.toList.drop 1 ++ letters, operands)
    else ([], w :: ws)

/-- A name in quotes. -/
def quote (s : String) : String := "'" ++ s ++ "'"

/-! ### Files -/

/-- The place where a file of this path is or would be; its directory has to exist. -/
def placeFor (t : Tree) (here : Place) (path : String) : Except Files.Fault Place :=
  let names := (Files.Written.ofText path).fromRoot here
  match t.walk names with
  | .ok p => .ok p
  | .error .missing =>
    match t.status names.dropLast, t.walk names.dropLast, names.getLast? with
    | .ok .dir, .ok p, some n => if path.isEmpty then .error .missing else .ok (p ++ [n])
    | .ok _, _, _ => .error .notDirectory
    | .error f, _, _ => .error f
  | .error f => .error f

/-- The place of the entry that a path names, a link being its own entry. -/
def placeOf (t : Tree) (here : Place) (path : String) : Except Files.Fault Place :=
  let names := (Files.Written.ofText path).fromRoot here
  match names.getLast? with
  | none => .ok []
  | some n => do
    let p ← t.walk names.dropLast
    let p := if n = ".." then p.dropLast else p ++ [n]
    match t.entry? p with
    | some _ => return p
    | none => throw .missing

/-- Do something for every operand. -/
def each (f : Work → String → Work) (d : Desk) (operands : List String) : Work :=
  operands.foldl f { tree := d.tree }

/-- Make files that do not exist. -/
def touch : Deed := fun d ws =>
  each (fun w path =>
    match placeFor w.tree d.here path with
    | .error f => w.complain 1 ("touch: cannot touch " ++ quote path ++ ": " ++ f.message)
    | .ok p => if (w.tree.entry? p).isSome then w else { w with tree := w.tree.set p (.file []) })
    d (options ws).2

/-- Make a directory, and those that lead to it if `all`. -/
def makeDir (all : Bool) (here : Place) (w : Work) (path : String) : Work :=
  let refuse (m : String) :=
    w.complain 1 ("mkdir: cannot create directory " ++ quote path ++ ": " ++ m)
  if all then
    match w.tree.settleFrom [] [] ((Files.Written.ofText path).fromRoot here) with
    | .error _ => refuse Files.Fault.loop.message
    | .ok p =>
      let t := w.tree.makeDirs p
      match t.status p with
      | .ok .dir => { w with tree := t }
      | .ok _ => refuse "File exists"
      | .error f => refuse f.message
  else
    match placeFor w.tree here path with
    | .error f => refuse f.message
    | .ok p => if (w.tree.entry? p).isSome || p.isEmpty then refuse "File exists"
      else { w with tree := w.tree.set p .dir }

/-- Make directories. -/
def mkdir : Deed := fun d ws =>
  let (letters, operands) := options ws
  if operands.isEmpty then
    (({ tree := d.tree } : Work).complain 1 "mkdir: missing operand").complain 1
      "Try 'mkdir --help' for more information."
  else each (makeDir (letters.contains 'p') d.here) d operands

/-- Remove empty directories. -/
def rmdir : Deed := fun d ws =>
  each (fun w path =>
    let refuse (m : String) := w.complain 1 ("rmdir: failed to remove " ++ quote path ++ ": " ++ m)
    match placeOf w.tree d.here path with
    | .error f => refuse f.message
    | .ok p =>
      match w.tree.entry? p with
      | some .dir =>
        if (w.tree.childrenAt p).isEmpty then { w with tree := w.tree.remove p }
        else refuse "Directory not empty"
      | _ => refuse Files.Fault.notDirectory.message)
    d (options ws).2

/-- Remove files, and directories if asked to. -/
def rm : Deed := fun d ws =>
  let (letters, operands) := options ws
  let deep := letters.contains 'r' || letters.contains 'R'
  let forced := letters.contains 'f'
  each (fun w path =>
    let refuse (m : String) := w.complain 1 ("rm: cannot remove " ++ quote path ++ ": " ++ m)
    match placeOf w.tree d.here path with
    | .error .missing => if forced then w else refuse Files.Fault.missing.message
    | .error f => refuse f.message
    | .ok p =>
      match w.tree.entry? p with
      | some .dir =>
        if deep then { w with tree := w.tree.remove p } else refuse Files.Fault.isDirectory.message
      | _ => { w with tree := w.tree.remove p })
    d operands

/-- The tree with everything at and below a place also at and below another. -/
def copyTree (t : Tree) (source target : Place) : Tree :=
  (t.filter fun e => source.isPrefixOf e.1).foldl
    (fun t e => t.set (target ++ e.1.drop source.length) e.2) t

/-- Where something named `path` goes if it is put at `target`: into it if that is a directory. -/
def targetFor (t : Tree) (here : Place) (path target : String) : Except Files.Fault Place :=
  match t.look here target, (Files.Written.ofText path).names.getLast? with
  | .ok .dir, some n => (placeFor t here target).map (· ++ [n])
  | _, _ => placeFor t here target

/-- Copy, or move, files to the last operand. -/
def transfer (name : String) (deep moving : Bool) : Deed := fun d operands =>
  match operands.getLast? with
  | none => ({ tree := d.tree } : Work).complain 1 (name ++ ": missing file operand")
  | some target =>
    each (fun w path =>
      let found := if moving then placeOf w.tree d.here path else
        (placeOf w.tree d.here path).bind fun _ =>
          w.tree.walk ((Files.Written.ofText path).fromRoot d.here)
      match found with
      | .error f => w.complain 1 (name ++ ": cannot stat " ++ quote path ++ ": " ++ f.message)
      | .ok source =>
        if w.tree.entry? source = some .dir && !deep then
          w.complain 1 (name ++ ": -r not specified; omitting directory " ++ quote path)
        else match targetFor w.tree d.here path target with
          | .error f => w.complain 1 (name ++ ": cannot create regular file " ++ quote target ++
              ": " ++ f.message)
          | .ok p =>
            let t := copyTree w.tree source p
            { w with tree := if moving && p ≠ source then t.remove source else t })
      d operands.dropLast

/-- Copy files. -/
def cp : Deed := fun d ws =>
  let (letters, operands) := options ws
  transfer "cp" (letters.any fun c => ['r', 'R', 'a'].contains c) false d operands

/-- Move files. -/
def mv : Deed := fun d ws => transfer "mv" true true d (options ws).2

/-- Make a link. -/
def ln : Deed := fun d ws =>
  let (_, operands) := options ws
  let w : Work := { tree := d.tree }
  match operands with
  | [target, path] =>
    match targetFor d.tree d.here target path with
    | .error f =>
      w.complain 1 ("ln: failed to create symbolic link " ++ quote path ++ ": " ++ f.message)
    | .ok p =>
      if (d.tree.entry? p).isSome then
        w.complain 1 ("ln: failed to create symbolic link " ++ quote path ++ ": File exists")
      else { w with tree := d.tree.set p (.link target) }
  | _ => w.complain 1 "ln: missing file operand"

/-- The names in a directory, in order. -/
def listed (hidden : Bool) (t : Tree) (p : Place) : List String :=
  ((t.childrenAt p).filter fun n => hidden || !n.startsWith ".").mergeSort fun a b => decide (a ≤ b)

/-- List files and directories. -/
def ls : Deed := fun d ws =>
  let (letters, operands) := options ws
  let hidden := letters.contains 'a' || letters.contains 'A'
  let operands := if operands.isEmpty then ["."] else operands
  let flat := letters.contains 'd'
  let isListed (path : String) := !flat && d.tree.look d.here path matches .ok .dir
  let w : Work := { tree := d.tree }
  let w := operands.foldl (fun w path =>
    match d.tree.look d.here path with
    | .error f => w.complain 2 ("ls: cannot access " ++ quote path ++ ": " ++ f.message)
    | .ok _ => if isListed path then w else w.line path) w
  let dirs := operands.filter isListed
  dirs.foldl (fun w path =>
    match d.tree.walk ((Files.Written.ofText path).fromRoot d.here) with
    | .error _ => w
    | .ok p =>
      let w := if operands.length > 1 then w.line (path ++ ":") else w
      let w := if letters.contains 'a' then (w.line ".").line ".." else w
      (listed hidden d.tree p).foldl Work.line w) w

/-! ### Lines -/

/-- Lines, each with its end. -/
def linesOf : List UInt8 → List (List UInt8)
  | [] => []
  | b :: bs =>
    if b = 10 then [b] :: linesOf bs
    else match linesOf bs with
      | [] => [[b]]
      | l :: ls => (b :: l) :: ls

/-- A line with its end, even if it is the last one and has none. -/
def ended (l : List UInt8) : List UInt8 :=
  if l.getLast? = some 10 then l else l ++ [10]

/-- What is read: the files that are named or what is given. -/
def inputs (name : String) (d : Desk) (operands : List String) : Work × List (List UInt8) :=
  if operands.isEmpty then ({ tree := d.tree }, [d.input])
  else operands.foldl (fun (w, found) path =>
    if path = "-" then (w, found ++ [d.input])
    else match d.tree.look d.here path with
      | .ok (.file octets) => (w, found ++ [octets])
      | .ok _ => (w.complain 1 (name ++ ": " ++ path ++ ": Is a directory"), found)
      | .error f => (w.complain 1 (name ++ ": " ++ path ++ ": " ++ f.message), found))
    ({ tree := d.tree }, [])

/-- Make a utility that turns lines into lines. -/
def filter (name : String) (f : List (List UInt8) → List (List UInt8)) (d : Desk)
    (operands : List String) : Work :=
  let (w, found) := inputs name d operands
  w.put (f (linesOf found.flatten)).flatten

/-- The number of lines that the options of `head` and `tail` ask for, and the operands. -/
def lineCount (ws : List String) : Nat × List String :=
  match ws with
  | "-n" :: n :: rest => (n.toNat?.getD 10, rest)
  | w :: rest =>
    if w.startsWith "-n" then ((String.ofList (w.toList.drop 2)).toNat?.getD 10, rest)
    else match w.toList with
      | '-' :: digits =>
        match (String.ofList digits).toNat? with
        | some n => (n, rest)
        | none => (10, ws)
      | _ => (10, ws)
  | [] => (10, [])

/-- The first lines. -/
def head : Deed := fun d ws =>
  let (n, operands) := lineCount ws
  filter "head" (List.take n) d operands

/-- The last lines. -/
def tail : Deed := fun d ws =>
  let (n, operands) := lineCount ws
  filter "tail" (fun ls => ls.drop (ls.length - n)) d operands

/-- Lines without those that repeat the one before. -/
def withoutRepeats : List (List UInt8) → List (List UInt8)
  | [] => []
  | l :: ls =>
    match withoutRepeats ls with
    | [] => [l]
    | m :: ms => if l = m then m :: ms else l :: m :: ms

/-- The order of octets. -/
def before : List UInt8 → List UInt8 → Bool
  | [], _ => true
  | _ :: _, [] => false
  | a :: s, b :: t => a < b || (a = b && before s t)

/-- Sort lines. -/
def sort : Deed := fun d ws =>
  let (letters, operands) := options ws
  filter "sort" (fun ls =>
    let ls := (ls.map ended).mergeSort before
    let ls := if letters.contains 'u' then withoutRepeats ls else ls
    if letters.contains 'r' then ls.reverse else ls) d operands

/-- Drop lines that repeat the one before. -/
def uniq : Deed := fun d ws =>
  filter "uniq" (fun ls => withoutRepeats (ls.map ended)) d (options ws).2

/-- Count lines, words and octets. -/
def wc : Deed := fun d ws =>
  let (letters, operands) := options ws
  let wordsIn (octets : List UInt8) : Nat :=
    let isBlank (b : UInt8) : Bool := b = 32 || (9 ≤ b && b ≤ 13)
    (octets.foldl (fun (n, inside) b =>
      if isBlank b then (n, false) else (if inside then n else n + 1, true)) (0, false)).1
  let counts (octets : List UInt8) : List Nat :=
    let all := letters.isEmpty
    (if all || letters.contains 'l' then [octets.count 10] else []) ++
      (if all || letters.contains 'w' then [wordsIn octets] else []) ++
      (if all || letters.contains 'c' then [octets.length] else [])
  let (w, found) := inputs "wc" d operands
  let width := if letters.length = 1 then 0 else if operands.isEmpty then 7 else
    (toString (found.foldl (fun n octets => n + octets.length) 0)).length
  let cell (n : Nat) : String :=
    let s := toString n
    String.ofList (List.replicate (width - s.length) ' ') ++ s
  (found.zip (if operands.isEmpty then [""] else operands.map (" " ++ ·))).foldl
    (fun w e => w.line (String.intercalate " " ((counts e.1).map cell) ++ e.2)) w

/-- The lines in which a text stands; a text that starts or ends with an anchor has to start or end
the line. -/
def grep : Deed := fun d ws =>
  let (letters, operands) := options ws
  match operands with
  | [] => ({ tree := d.tree } : Work).complain 2 "Usage: grep [OPTION]... PATTERNS [FILE]..."
  | pattern :: files =>
    let fold (s : String) : String := if letters.contains 'i' then s.toLower else s
    let text := (fold pattern).toList
    let atStart := text.head? = some '^'
    let text := if atStart then text.drop 1 else text
    let atEnd := text.getLast? = some '$'
    let text := if atEnd then text.dropLast else text
    let holds (l : List UInt8) : Bool :=
      let s := (fold (String.ofList (Text.Utf8.repair (l.filter (· ≠ 10))))).toList
      let found :=
        if letters.contains 'x' || (atStart && atEnd) then s = text
        else if atStart then text.isPrefixOf s
        else if atEnd then text.isSuffixOf s
        else Text.occurs text s
      found != letters.contains 'v'
    let (w, found) := inputs "grep" d files
    let lines := ((linesOf found.flatten).map ended).filter holds
    let w :=
      if letters.contains 'q' then w
      else if letters.contains 'c' then w.line (toString lines.length)
      else w.put lines.flatten
    if w.status = 0 then { w with status := if lines.isEmpty then 1 else 0 }
    else { w with status := 2 }

/-- Pass on what is given, to files as well. -/
def tee : Deed := fun d ws =>
  let (letters, operands) := options ws
  let w := each (fun w path =>
    match placeFor w.tree d.here path with
    | .error f => w.complain 1 ("tee: " ++ path ++ ": " ++ f.message)
    | .ok p =>
      let old := match w.tree.entry? p with
        | some (.file octets) => if letters.contains 'a' then octets else []
        | _ => []
      { w with tree := w.tree.set p (.file (old ++ d.input)) }) d operands
  { w with said := (1, d.input) :: w.said }

/-! ### Words -/

/-- Numbers in order. -/
def seq : Deed := fun d ws =>
  let w : Work := { tree := d.tree }
  let count (first step last : Int) : Work :=
    if step = 0 then w
    else
      let n := ((last - first) / step + 1).toNat
      (List.range n).foldl (fun w i => w.line (toString (first + step * Int.ofNat i))) w
  match ws.map String.toInt? with
  | [some last] => count 1 1 last
  | [some first, some last] => count first 1 last
  | [some first, some step, some last] => count first step last
  | _ => w.complain 1 "seq: missing operand"

/-- The last name of a path, without an ending. -/
def basename : Deed := fun d ws =>
  let w : Work := { tree := d.tree }
  match ws with
  | [] => w.complain 1 "basename: missing operand"
  | path :: rest =>
    let written := Files.Written.ofText path
    let name := written.names.getLast?.getD (if written.absolute then "/" else path)
    let ending := rest.headD ""
    w.line (if name = ending then name
      else String.ofList (Text.dropTail ending.toList name.toList))

/-- A path without its last name. -/
def dirname : Deed := fun d ws =>
  let w : Work := { tree := d.tree }
  match ws with
  | [] => w.complain 1 "dirname: missing operand"
  | path :: _ =>
    let written := Files.Written.ofText path
    w.line (({ written with names := written.names.dropLast } : Files.Written).text)

/-- The utilities by their names. -/
def all : List (String × Deed) :=
  [("touch", touch), ("mkdir", mkdir), ("rmdir", rmdir), ("rm", rm), ("cp", cp), ("mv", mv),
   ("ln", ln), ("ls", ls), ("head", head), ("tail", tail), ("sort", sort), ("uniq", uniq),
   ("wc", wc), ("grep", grep), ("tee", tee), ("seq", seq), ("basename", basename),
   ("dirname", dirname)]

/-- A utility reads what is given to it. -/
def readsInput (name : String) (ws : List String) : Bool :=
  let fromGiven (operands : List String) := operands.isEmpty || operands.contains "-"
  match name with
  | "tee" => true
  | "head" | "tail" => fromGiven (lineCount ws).2
  | "sort" | "uniq" | "wc" => fromGiven (options ws).2
  | "grep" => fromGiven ((options ws).2.drop 1)
  | _ => false

end BuildLine.Shell.Utility
