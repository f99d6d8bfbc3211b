import BuildLine.Toml.Scalar

/-!
# TOML documents

A document is read statement by statement into a *draft*: the table built so far, and what may no
longer be done to it. Three lists of keys say the latter.

* `closed` – keys that got an inline value; nothing at or below them may change.
* `opened` – tables that have had their header, or were spelled out by a dotted key in an earlier
  section; they may have no second header.
* `pending` – tables spelled out by dotted keys of the current section. They join `opened` when the
  next header comes, because until then more keys may be added to them.

A new element of an array of tables starts afresh: what was closed or opened below the array is
forgotten.
-/

namespace BuildLine.Toml

open Data (Value Table)

/-! ### Tables at keys -/

/-- Change the table at a key, creating the tables on the way. Where `elements` is set, the way
leads through arrays by their last element. -/
def updateAt (elements : Bool) : Key → (Table → Except Fault Table) → Table → Except Fault Table
  | [], f, t => f t
  | k :: ks, f, t =>
    match t.get? k with
    | none => do return t.put k (.table (← updateAt elements ks f []))
    | some (.table sub) => do return t.put k (.table (← updateAt elements ks f sub))
    | some (.list items) =>
      match elements, items.reverse with
      | true, .table sub :: before => do
        let sub ← updateAt elements ks f sub
        return t.put k (.list (before.reverse ++ [.table sub]))
      | _, _ => .error .malformed
    | some _ => .error .malformed

/-- Give a new key a value. -/
def define (k : String) (v : Value) (t : Table) : Except Fault Table :=
  if t.has k then .error .malformed else .ok (t.put k v)

/-- Put a new, empty table at the end of the array under a key, or start the array with it. -/
def appendElement (k : String) (t : Table) : Except Fault Table :=
  match t.get? k with
  | none => .ok (t.put k (.list [.table []]))
  | some (.list items) => .ok (t.put k (.list (items ++ [.table []])))
  | some _ => .error .malformed

/-- A key without its last name, and that name. -/
def splitLast : Key → Key × String
  | [] => ([], "")
  | [k] => ([], k)
  | k :: ks => let (p, l) := splitLast ks; (k :: p, l)

/-! ### Values -/

/-- Blanks, line ends and comments inside an array. -/
def skipArrayBlanks : Nat → List Char → Except Fault (List Char)
  | 0, s => .ok s
  | n + 1, s =>
    match s.dropWhile isSpaceOrLine with
    | '#' :: r => do skipArrayBlanks n (← skipComment ('#' :: r))
    | r => .ok r

/-- Some closed key stands at or above the key. -/
def isClosed (closed : List Key) (k : Key) : Bool :=
  closed.any (·.isPrefixOf k)

/-- A value that itself holds values. -/
def isContainer : Value → Bool
  | .list _ => true
  | .table _ => true
  | _ => false

mutual

/-- A value. The number bounds the depth and length of what is read; as every step takes a
character, the length of the text is enough. -/
def value : Nat → List Char → Except Fault (Value × List Char)
  | 0, _ => .error .malformed
  | n + 1, '[' :: r => do
    let r ← skipArrayBlanks r.length r
    match r with
    | ']' :: r => return (.list [], r)
    | r =>
      let (items, r) ← arrayItems n r
      return (.list items, r)
  | n + 1, '\x7b' :: r =>
    match r.dropWhile isSpace with
    | '\x7d' :: r => .ok (.table [], r)
    | r => do
      let (t, r) ← inlineEntries n [] [] r
      return (.table t, r)
  | _ + 1, s => scalar s

/-- The values of an array up to its closing bracket; a comma may stand before it. -/
def arrayItems : Nat → List Char → Except Fault (List Value × List Char)
  | 0, _ => .error .malformed
  | n + 1, s => do
    let (v, r) ← value n s
    let r ← skipArrayBlanks r.length r
    match r with
    | ']' :: r => return ([v], r)
    | ',' :: r =>
      let r ← skipArrayBlanks r.length r
      match r with
      | ']' :: r => return ([v], r)
      | r =>
        let (vs, r) ← arrayItems n r
        return (v :: vs, r)
    | _ => .error .malformed

/-- The entries of an inline table up to its closing brace. -/
def inlineEntries : Nat → List Key → Table → List Char → Except Fault (Table × List Char)
  | 0, _, _, _ => .error .malformed
  | n + 1, closed, t, s => do
    let (k, r) ← key s
    match r with
    | '=' :: r =>
      let (v, r) ← value n (r.dropWhile isSpace)
      if isClosed closed k then .error .malformed
      else
        let (parent, name) := splitLast k
        let t ← updateAt false parent (define name v) t
        match r.dropWhile isSpace with
        | '\x7d' :: r => return (t, r)
        | ',' :: r =>
          let closed := if isContainer v then k :: closed else closed
          inlineEntries n closed t (r.dropWhile isSpace)
        | _ => .error .malformed
    | _ => .error .malformed

end

/-! ### Statements -/

/-- A document under construction. -/
structure Draft where
  /-- The table built so far. -/
  root : Table := []
  /-- The key of the current section. -/
  section_ : Key := []
  /-- Keys at and below which nothing may change. -/
  closed : List Key := []
  /-- Keys that may have no further header. -/
  opened : List Key := []
  /-- Keys that join `opened` with the next header. -/
  pending : List Key := []

namespace Draft

/-- What a header does before it is looked at. -/
def settle (d : Draft) : Draft :=
  { d with opened := d.pending ++ d.opened, pending := [] }

/-- Start the section of a table. -/
def openTable (d : Draft) (k : Key) : Except Fault Draft :=
  if d.opened.contains k || isClosed d.closed k then .error .malformed
  else do
    let root ← updateAt true k .ok d.root
    return { d with root, section_ := k, opened := k :: d.opened }

/-- Start the section of a new element of an array of tables. -/
def openElement (d : Draft) (k : Key) : Except Fault Draft :=
  if isClosed d.closed k then .error .malformed
  else do
    let (parent, name) := splitLast k
    let root ← updateAt true parent (appendElement name) d.root
    let kept := fun ks : List Key => ks.filter fun q => !k.isPrefixOf q
    return { d with root, section_ := k, closed := kept d.closed, opened := k :: kept d.opened }

/-- The tables that a dotted key spells out, the shortest first. -/
def spelledOut (header k : Key) : List Key :=
  (List.range (k.length - 1)).map fun i => header ++ k.take (i + 1)

/-- Give a key of the current section a value. -/
def assign (d : Draft) (k : Key) (v : Value) : Except Fault Draft :=
  let (parent, name) := splitLast k
  let above := spelledOut d.section_ k
  if above.any d.opened.contains || isClosed d.closed (d.section_ ++ parent) then
    .error .malformed
  else do
    let root ← updateAt true (d.section_ ++ parent) (define name v) d.root
    let closed := if isContainer v then (d.section_ ++ k) :: d.closed else d.closed
    return { d with root, closed, pending := above ++ d.pending }

/-- One statement at the start of a line, after its blanks. -/
def statement (d : Draft) (s : List Char) : Except Fault (Draft × List Char) :=
  match s with
  | '[' :: '[' :: r => do
    let (k, r) ← key (r.dropWhile isSpace)
    let d ← d.settle.openElement k
    match r with
    | ']' :: ']' :: r => return (d, r)
    | _ => .error .malformed
  | '[' :: r => do
    let (k, r) ← key (r.dropWhile isSpace)
    let d ← d.settle.openTable k
    match r with
    | ']' :: r => return (d, r)
    | _ => .error .malformed
  | '#' :: _ => .ok (d, s)
  | s => do
    let (k, r) ← key s
    match r with
    | '=' :: r =>
      let (v, r) ← value (r.length + 1) (r.dropWhile isSpace)
      return (← d.assign k v, r)
    | _ => .error .malformed

/-- All statements. The number bounds the lines. -/
def statements : Nat → Draft → List Char → Except Fault Draft
  | 0, d, _ => .ok d
  | n + 1, d, s =>
    match s.dropWhile isSpace with
    | [] => .ok d
    | '\n' :: r => statements n d r
    | s => do
      let (d, r) ← d.statement s
      let r ← skipComment (r.dropWhile isSpace)
      match r with
      | [] => return d
      | '\n' :: r => statements n d r
      | _ => .error .malformed

end Draft

/-- Line ends of two characters become one. -/
def singleLineEnds : List Char → List Char
  | '\r' :: '\n' :: r => '\n' :: singleLineEnds r
  | c :: r => c :: singleLineEnds r
  | [] => []

/-- **The table that a TOML text describes.** -/
def read (s : String) : Except Fault Table :=
  let cs := singleLineEnds s.toList
  (Draft.statements (cs.length + 1) {} cs).map (·.root)

end BuildLine.Toml
