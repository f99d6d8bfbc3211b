/-!
# Cutting a text at a character

`splitAt c` gives all the pieces between the occurrences of `c`, empty ones included; `cutFirst?`
and `cutLast?` cut at one occurrence only; `joinWith` puts pieces together again.
-/

namespace BuildLine.Text

/-- The pieces between the occurrences of `sep`; there is always one more piece than occurrences. -/
def splitAt (sep : Char) : List Char → List (List Char)
  | [] => [[]]
  | c :: s =>
    if c = sep then [] :: splitAt sep s
    else match splitAt sep s with
      | [] => [[c]]
      | p :: ps => (c :: p) :: ps

/-- The text before the first `sep` and the text after it. -/
def cutFirst? (sep : Char) (s : List Char) : Option (List Char × List Char) :=
  match s.dropWhile (· != sep) with
  | [] => none
  | _ :: rest => some (s.takeWhile (· != sep), rest)

/-- The text before the last `sep` and the text after it. -/
def cutLast? (sep : Char) (s : List Char) : Option (List Char × List Char) :=
  (cutFirst? sep s.reverse).map fun p => (p.2.reverse, p.1.reverse)

/-- Everything after the last `sep`, or everything if there is none. -/
def afterLast (sep : Char) (s : List Char) : List Char :=
  (s.reverse.takeWhile (· != sep)).reverse

/-- The pieces with `sep` between each two. This is `List.intercalate` (`joinWith_eq_intercalate`),
but by recursion on the pieces, as `splitAt` makes them: what is cut and put together again is then
followed through the same cases. -/
def joinWith (sep : List Char) : List (List Char) → List Char
  | [] => []
  | [p] => p
  | p :: ps => p ++ sep ++ joinWith sep ps

theorem joinWith_eq_intercalate (sep : List Char) :
    (ps : List (List Char)) → joinWith sep ps = sep.intercalate ps
  | [] => List.intercalate_nil.symm
  | [_] => List.intercalate_singleton.symm
  | p :: q :: ps => calc
    joinWith sep (p :: q :: ps) = p ++ sep ++ joinWith sep (q :: ps) := rfl
    _ = sep.intercalate (p :: q :: ps) := by
      rw [joinWith_eq_intercalate sep (q :: ps), List.intercalate_cons_cons]

/-- The text without the ending `tail`, if it has it. -/
def dropTail (tail s : List Char) : List Char :=
  if tail.isSuffixOf s then s.take (s.length - tail.length) else s

theorem splitAt_ne_nil (sep : Char) (s : List Char) : splitAt sep s ≠ [] := by
  induction s with
  | nil => simp [splitAt]
  | cons c s ih =>
    rw [splitAt]
    split
    · simp
    · split <;> simp

/-- The pieces with `sep` between them are the text. -/
theorem joinWith_splitAt (sep : Char) (s : List Char) :
    joinWith [sep] (splitAt sep s) = s := by
  induction s with
  | nil => rfl
  | cons c s ih =>
    rw [splitAt]
    split
    · rename_i h
      cases hs : splitAt sep s with
      | nil => exact absurd hs (splitAt_ne_nil sep s)
      | cons p ps => rw [hs] at ih; simp [joinWith, ih, h]
    · cases hs : splitAt sep s with
      | nil => exact absurd hs (splitAt_ne_nil sep s)
      | cons p ps =>
        rw [hs] at ih
        cases ps with
        | nil => simpa [joinWith] using ih
        | cons q qs => simpa [joinWith] using ih

/-- The pieces before an occurrence, and then those after it. -/
theorem splitAt_append_cons (sep : Char) (s t : List Char) :
    splitAt sep (s ++ sep :: t) = splitAt sep s ++ splitAt sep t := by
  induction s with
  | nil => simp [splitAt]
  | cons c s ih =>
    rw [List.cons_append, splitAt, splitAt, ih]
    split
    · rfl
    · cases hs : splitAt sep s with
      | nil => exact absurd hs (splitAt_ne_nil sep s)
      | cons p ps => rfl

/-- A text without the character is one piece. -/
theorem splitAt_of_not_mem {sep : Char} {s : List Char} (h : sep ∉ s) : splitAt sep s = [s] := by
  induction s with
  | nil => rfl
  | cons c s ih =>
    rw [List.mem_cons, not_or] at h
    rw [splitAt, if_neg (Ne.symm h.1), ih h.2]

/-- No piece holds the character that was cut at. -/
theorem not_mem_of_mem_splitAt {sep : Char} {s p : List Char} (h : p ∈ splitAt sep s) :
    sep ∉ p := by
  induction s generalizing p with
  | nil => simp [splitAt] at h; simp [h]
  | cons c s ih =>
    rw [splitAt] at h
    split at h
    · rcases List.mem_cons.1 h with h | h
      · simp [h]
      · exact ih h
    · rename_i hc
      cases hs : splitAt sep s with
      | nil => exact absurd hs (splitAt_ne_nil sep s)
      | cons q qs =>
        rw [hs] at h ih
        rcases List.mem_cons.1 h with h | h
        · subst h
          have := ih (p := q) (by simp)
          simp [this, Ne.symm hc]
        · exact ih (by simp [h])

end BuildLine.Text
