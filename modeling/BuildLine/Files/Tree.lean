import BuildLine.Files.Path
import BuildLine.Text.Quoted
import BuildLine.Text.Utf8

/-!
# File trees

A tree of files is a list of entries with their places; the root of the file system is always
there. An entry is a directory, a file with its octets, or a link with the path that it stands for.

There are two ways to follow a path. `walk` goes where the operating system goes: every step has to
exist, and it gives up after forty links. `settle` finds the place that a path means whether it
exists or not: names that lead nowhere are just put behind each other.

A link that leads back to itself does not have to stop `settle`. From that link on, the path is read
as it is spelled, and it is refused only if the operating system goes round in circles at the place
that comes out: `loop/../x` means `x`, while `loop` and `loop/x` mean nothing. Up to there, a name
with a null character is refused, since nothing can have it; behind it, the path ends at the null
character.
-/

namespace BuildLine.Files

/-- What stands at a place. -/
inductive Entry where
  /-- A directory. -/
  | dir
  /-- A file. -/
  | file (octets : List UInt8)
  /-- A link. -/
  | link (target : String)
  deriving DecidableEq, Repr

/-- Entries with their places. -/
abbrev Tree := List (Place × Entry)

/-- Why a path leads nowhere. -/
inductive Fault where
  /-- There is nothing of this name. -/
  | missing
  /-- A file stands where a directory is needed. -/
  | notDirectory
  /-- A directory stands where a file is needed. -/
  | isDirectory
  /-- Links lead on and on. -/
  | loop
  deriving DecidableEq, Repr

namespace Fault

/-- The number of a fault. -/
def number : Fault → Nat
  | missing => 2
  | notDirectory => 20
  | isDirectory => 21
  | loop => 40

/-- The wording of a fault. -/
def message : Fault → String
  | missing => "No such file or directory"
  | notDirectory => "Not a directory"
  | isDirectory => "Is a directory"
  | loop => "Too many levels of symbolic links"

end Fault

namespace Tree

/-! ### Looking things up -/

/-- The entry at a place. -/
def entry? (t : Tree) (p : Place) : Option Entry :=
  if p.isEmpty then some .dir else List.lookup p t

/-- The names that a link puts in its place, and where they start. -/
def linkStart (here : Place) (target : String) : Place × List String :=
  let w := Written.ofText target
  (if w.absolute then [] else here, w.names)

/-- The most links on a path. -/
def maxLinks : Nat := 40

/-- The place that names lead to, from the directory `here`; `links` links may be followed. -/
def walkFrom (t : Tree) (links : Nat) (here : Place) : List String → Except Fault Place
  | [] => .ok here
  | n :: ns =>
    if n = ".." then walkFrom t links here.dropLast ns
    else
      let p := here ++ [n]
      match t.entry? p with
      | none => .error .missing
      | some .dir => walkFrom t links p ns
      | some (.file _) => if ns.isEmpty then .ok p else .error .notDirectory
      | some (.link target) =>
        match links with
        | 0 => .error .loop
        | links + 1 =>
          let (start, more) := linkStart here target
          walkFrom t links start (more ++ ns)
termination_by ns => (links, ns.length)

/-- The place that names lead to from the root. -/
def walk (t : Tree) (names : List String) : Except Fault Place :=
  t.walkFrom maxLinks [] names

/-- What names lead to from the root, links followed. -/
def status (t : Tree) (names : List String) : Except Fault Entry :=
  match t.walk names with
  | .error f => .error f
  | .ok p =>
    match t.entry? p with
    | some e => .ok e
    | none => .error .missing

/-- The names lead to something. -/
def exists? (t : Tree) (names : List String) : Bool :=
  match t.status names with
  | .ok _ => true
  | .error _ => false

/-- The names lead to a directory. -/
def isDir (t : Tree) (names : List String) : Bool :=
  match t.status names with
  | .ok .dir => true
  | _ => false

/-- The names lead to a file. -/
def isFile (t : Tree) (names : List String) : Bool :=
  match t.status names with
  | .ok (.file _) => true
  | _ => false

/-- The octets of the file that the names lead to. -/
def read (t : Tree) (names : List String) : Except Fault (List UInt8) :=
  match t.status names with
  | .ok (.file octets) => .ok octets
  | .ok _ => .error .isDirectory
  | .error f => .error f

/-- What a written path leads to, from the directory `here`. The empty path leads nowhere, and a
path that ends with a slash has to lead to a directory. -/
def look (t : Tree) (here : Place) (path : String) : Except Fault Entry :=
  if path.isEmpty then .error .missing
  else match t.status ((Written.ofText path).fromRoot here) with
    | .ok (.file octets) =>
      if path.endsWith "/" || path.endsWith "/." then .error .notDirectory else .ok (.file octets)
    | r => r

/-- The name of an entry that stands right in the directory at `p`. -/
def childName? (p : Place) (e : Place × Entry) : Option String :=
  if e.1.dropLast = p then e.1.getLast? else none

/-- The names in the directory at a place. -/
def childrenAt (t : Tree) (p : Place) : List String :=
  t.filterMap (childName? p)

/-- The names in the directory that the names lead to. -/
def children (t : Tree) (names : List String) : List String :=
  match t.walk names with
  | .ok p => t.childrenAt p
  | .error _ => []

/-- The names from `p` to an entry below it that is a directory. -/
def dirBelow? (p : Place) (e : Place × Entry) : Option (List String) :=
  if e.2 = .dir && p.isPrefixOf e.1 && p.length < e.1.length then some (e.1.drop p.length) else none

/-- The names from the directory that `names` lead to, to the directories below it. Links are not
followed on the way. -/
def dirsBelow (t : Tree) (names : List String) : List (List String) :=
  match t.walk names with
  | .ok p => t.filterMap (dirBelow? p)
  | .error _ => []

/-! ### Settling a path -/

/-- Why a path has no place. -/
inductive Snag where
  /-- Links lead on and on along the path. -/
  | loop (path : Place)
  /-- A null character stands in the name. -/
  | nullName (name : String)
  deriving DecidableEq, Repr

/-- The wording of a snag. -/
def Snag.message : Snag → String
  | .loop p => "Symlink loop from " ++ Text.Quoted.literal p.text
  | .nullName _ => "embedded null byte"

/-- A null character stands in the name. -/
def hasNull (name : String) : Bool :=
  name.toList.contains '\x00'

/-- The names up to the first null character, at which their text ends. -/
def upToNull : List String → List String
  | [] => []
  | n :: ns =>
    if hasNull n then Written.namesOf (String.ofList (n.toList.takeWhile (· ≠ '\x00')))
    else n :: upToNull ns

/-- The entries that are not being followed. -/
def unopened (t : Tree) (opened : List Place) : Tree :=
  t.filter fun e => !opened.contains e.1

theorem mem_of_entry? {t : Tree} {p : Place} {e : Entry} (hp : p ≠ []) (h : t.entry? p = some e) :
    (p, e) ∈ t := by
  unfold entry? at h
  rw [if_neg (by simpa using hp)] at h
  obtain ⟨front, back, rfl, -⟩ := List.lookup_eq_some_iff.1 h
  simp

/-- To follow a link leaves fewer entries to be followed. -/
theorem length_unopened_cons_lt {t : Tree} {opened : List Place} {p : Place} {e : Entry}
    (hp : p ≠ []) (h : t.entry? p = some e) (hopen : p ∉ opened) :
    (t.unopened (p :: opened)).length < (t.unopened opened).length := by
  have hsplit : t.unopened (p :: opened) = (t.unopened opened).filter fun x => x.1 != p := by
    rw [unopened, unopened, List.filter_filter]
    refine List.filter_congr fun x _ => ?_
    simp [bne, Bool.beq_eq_decide_eq]
  rw [hsplit, List.length_filter_lt_length_iff_exists]
  exact ⟨(p, e), by simp [unopened, mem_of_entry? hp h, hopen], by simp⟩

/-- The place that pieces of a path lead to from `here`, links followed; the links that are being
followed are `opened`. If one of them comes up again, the snag holds the pieces of the path from
there on, as they are written. -/
def settleFrom (t : Tree) (opened : List Place) (here : Place) :
    List String → Except Snag Place
  | [] => .ok here
  | n :: ns =>
    if n = "" || n = "." || n = ".." then settleFrom t opened (here.step n) ns
    else if hasNull n then .error (.nullName n)
    else
      let p := here ++ [n]
      match _ : t.entry? p with
      | some (.link target) =>
        if _ : p ∈ opened then .error (.loop (joinPieces p ns))
        else
          let start := (linkStart here target).1
          match settleFrom t (p :: opened) start (Written.piecesOf target) with
          | .error (.loop path) => .error (.loop (joinPieces path ns))
          | .error snag => .error snag
          | .ok here => settleFrom t opened here ns
      | _ => settleFrom t opened p ns
termination_by pieces => ((t.unopened opened).length, pieces.length)
decreasing_by
  · exact Prod.Lex.right _ (Nat.lt_succ_self _)
  · exact Prod.Lex.left _ _ (length_unopened_cons_lt (by simp) ‹_› ‹_›)
  · exact Prod.Lex.right _ (Nat.lt_succ_self _)
  · exact Prod.Lex.right _ (Nat.lt_succ_self _)

/-- **The place that names mean, seen from the root,** whether it exists or not. -/
def settle (t : Tree) (names : List String) : Except Snag Place :=
  match t.settleFrom [] [] names with
  | .error (.loop path) =>
    let p := upToNull (Place.spelled path)
    match t.walk p with
    | .error .loop => .error (.loop p)
    | _ => .ok p
  | r => r

/-! ### Changing a tree -/

/-- The tree without an entry and everything below it. -/
def remove (t : Tree) (p : Place) : Tree :=
  t.filter fun e => !p.isPrefixOf e.1

/-- Put an entry at a place. -/
def set (t : Tree) (p : Place) (e : Entry) : Tree :=
  if p.isEmpty then t else t.filter (fun x => x.1 ≠ p) ++ [(p, e)]

/-- Make the directories that lead to a place, the place itself being one of them. -/
def makeDirs (t : Tree) (p : Place) : Tree :=
  (List.range (p.length + 1)).foldl (fun t n =>
    match t.entry? (p.take n) with
    | none => t.set (p.take n) .dir
    | some _ => t) t

/-- Put an entry at a place and make the directories that lead to it. -/
def put (t : Tree) (p : Place) (e : Entry) : Tree :=
  (t.makeDirs p.dropLast).set p e

/-- The place of a written path, with its directory settled. -/
def placeOf (t : Tree) (here : Place) (s : String) : Place :=
  let names := (Written.ofText s).fromRoot here
  match t.settle names.dropLast, names.getLast? with
  | .ok p, some n => if n = ".." then p.dropLast else p ++ [n]
  | .ok p, none => p
  | .error (.loop p), _ => p
  | .error (.nullName _), _ => here

end Tree

end BuildLine.Files
