/-!
# Text in octets

Reading a text from octets, strictly or with a replacement character in the place of every fault.
A fault spans the octets that could still have begun a character: a first octet that begins none, a
beginning that is followed by something else, or a beginning at the end of the text.

Both readers are one pass over the octets. Where a character or a fault begins they write it at
once and then skip its other octets, which is why they carry the number of octets still to skip.
-/

namespace BuildLine.Text.Utf8

/-- What is wrong with the octets of a fault. -/
inductive Cause where
  /-- The octet begins no character. -/
  | invalidStart
  /-- The beginning of a character is followed by something else. -/
  | invalidContinuation
  /-- The text ends within a character. -/
  | unexpectedEnd
  deriving DecidableEq, Repr

/-- The wording of a cause. -/
def Cause.message : Cause → String
  | .invalidStart => "invalid start byte"
  | .invalidContinuation => "invalid continuation byte"
  | .unexpectedEnd => "unexpected end of data"

/-- Octets that are no text. -/
structure Fault where
  /-- What is wrong. -/
  cause : Cause
  /-- The place of the first octet of the fault. -/
  position : Nat
  /-- The first octet of the fault. -/
  octet : UInt8
  /-- The number of octets of the fault. -/
  length : Nat
  deriving DecidableEq, Repr

/-- The wording of a fault. -/
def Fault.message (f : Fault) : String :=
  let hex := String.ofList (Nat.toDigits 16 f.octet.toNat)
  let what :=
    if f.length = 1 then s!"byte 0x{hex} in position {f.position}"
    else s!"bytes in position {f.position}-{f.position + f.length - 1}"
  "'utf-8' codec can't decode " ++ what ++ ": " ++ f.cause.message

/-- What begins at an octet, with its number of octets. -/
inductive Piece where
  /-- A character. -/
  | char (c : Char) (length : Nat)
  /-- A fault. -/
  | fault (cause : Cause) (length : Nat)
  deriving DecidableEq, Repr

/-- Read `k` more octets of a character. The first of them lies between `lo` and `hi`; `code` is
what the octets before have contributed, and `seen` their number. -/
def continued (k lo hi code seen : Nat) (bs : List UInt8) : Piece :=
  match k, bs with
  | 0, _ => .char (Char.ofNat code) seen
  | _ + 1, [] => .fault .unexpectedEnd seen
  | k + 1, b :: bs =>
    if lo ≤ b.toNat && b.toNat ≤ hi then
      continued k 0x80 0xbf (code * 64 + (b.toNat - 0x80)) (seen + 1) bs
    else .fault .invalidContinuation seen

/-- What begins at the octet `b`. The bounds of the second octet keep out what can be written in
fewer octets, the surrogates, and what lies beyond the last code point. -/
def first (b : UInt8) (bs : List UInt8) : Piece :=
  let n := b.toNat
  if n < 0x80 then .char (Char.ofNat n) 1
  else if n < 0xc2 then .fault .invalidStart 1
  else if n < 0xe0 then continued 1 0x80 0xbf (n - 0xc0) 1 bs
  else if n < 0xf0 then
    continued 2 (if n = 0xe0 then 0xa0 else 0x80) (if n = 0xed then 0x9f else 0xbf) (n - 0xe0) 1 bs
  else if n < 0xf5 then
    continued 3 (if n = 0xf0 then 0x90 else 0x80) (if n = 0xf4 then 0x8f else 0xbf) (n - 0xf0) 1 bs
  else .fault .invalidStart 1

/-- Read from a place where `skip` octets belong to a character that has been read. -/
def decodeFrom (position skip : Nat) : List UInt8 → Except Fault (List Char)
  | [] => .ok []
  | b :: bs =>
    match skip with
    | skip + 1 => decodeFrom (position + 1) skip bs
    | 0 =>
      match first b bs with
      | .char c n => (decodeFrom (position + 1) (n - 1) bs).map (c :: ·)
      | .fault cause n => .error ⟨cause, position, b, n⟩

/-- **The text of the octets,** if they are one. -/
def decode (bs : List UInt8) : Except Fault (List Char) :=
  decodeFrom 0 0 bs

/-- What is written in the place of a fault. -/
def replacement : Char := '\ufffd'

/-- Read generously from a place where `skip` octets belong to what has been read. -/
def repairFrom (skip : Nat) : List UInt8 → List Char
  | [] => []
  | b :: bs =>
    match skip with
    | skip + 1 => repairFrom skip bs
    | 0 =>
      match first b bs with
      | .char c n => c :: repairFrom (n - 1) bs
      | .fault _ n => replacement :: repairFrom (n - 1) bs

/-- The text of the octets, with a replacement character for every fault. -/
def repair (bs : List UInt8) : List Char :=
  repairFrom 0 bs

/-- The octets of a text. -/
def encode (s : List Char) : List UInt8 :=
  (String.ofList s).toUTF8.toList

/-- The text with every line end, of whatever convention, as a new line. -/
def plainLines : List Char → List Char
  | '\r' :: '\n' :: s => '\n' :: plainLines s
  | '\r' :: s => '\n' :: plainLines s
  | c :: s => c :: plainLines s
  | [] => []

end BuildLine.Text.Utf8
