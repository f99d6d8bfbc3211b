/-!
# Character classes as code ranges

A property of characters that a standard gives by enumeration is kept as a list of code ranges,
both ends included. The tables themselves live in the modules named for the property; this one
holds what they share: membership, and the position of a code inside its range, which is all that
a table of digits needs, since the ten digits of a script always follow one another.
-/

namespace BuildLine.Text

/-- A class of characters: ranges of code points, ends included. -/
abbrev CodeRanges := List (Nat × Nat)

namespace CodeRanges

/-- Some range of the class holds the code `n`. -/
def covers (r : CodeRanges) (n : Nat) : Bool :=
  r.any fun p => p.1 ≤ n && n ≤ p.2

/-- The distance of the code `n` from the start of the first range that holds it. -/
def offset? : CodeRanges → Nat → Option Nat
  | [], _ => none
  | (lo, hi) :: r, n => if lo ≤ n && n ≤ hi then some (n - lo) else offset? r n

theorem covers_iff {r : CodeRanges} {n : Nat} :
    r.covers n = true ↔ ∃ p ∈ r, p.1 ≤ n ∧ n ≤ p.2 := by
  simp [covers]

theorem offset?_isSome (r : CodeRanges) (n : Nat) : (r.offset? n).isSome = r.covers n := by
  induction r with
  | nil => rfl
  | cons p r ih =>
    by_cases h : (p.1 ≤ n && n ≤ p.2) = true
    · simp [offset?, covers, h]
    · simpa [offset?, covers, h] using ih

end CodeRanges

end BuildLine.Text
