/-!
# Occurrences of a text in a text

`occurs` finds a text inside another and `replaceAll` puts a mask in the place of every occurrence,
found from the left and without overlaps. The scan of `replaceAll` is one pass over the characters:
where an occurrence begins it writes the mask and then skips what is left of the occurrence, which
is why it carries the number of characters still to skip.
-/

namespace BuildLine.Text

/-- The text `needle` stands somewhere in the text. -/
def occurs (needle : List Char) : List Char → Bool
  | [] => needle.isEmpty
  | c :: s => needle.isPrefixOf (c :: s) || occurs needle s

/-- `replaceFrom needle mask k s` skips `k` characters of `s`, which belong to an occurrence that
has its mask already, and replaces every occurrence in what follows. -/
def replaceFrom (needle mask : List Char) : Nat → List Char → List Char
  | _, [] => []
  | k + 1, _ :: s => replaceFrom needle mask k s
  | 0, c :: s =>
    if needle.isPrefixOf (c :: s) then mask ++ replaceFrom needle mask (needle.length - 1) s
    else c :: replaceFrom needle mask 0 s

/-- Every occurrence of `needle`, which is not empty, replaced by `mask`. -/
def replaceAll (needle mask s : List Char) : List Char :=
  replaceFrom needle mask 0 s

theorem occurs_iff {needle s : List Char} :
    occurs needle s = true ↔ needle <:+: s := by
  induction s with
  | nil => simp [occurs]
  | cons c s ih =>
    rw [occurs, Bool.or_eq_true, List.isPrefixOf_iff_prefix, ih, List.infix_cons_iff]

@[simp] theorem replaceFrom_nil (needle mask : List Char) (k : Nat) :
    replaceFrom needle mask k [] = [] := by
  cases k <;> rfl

/-- Skipping is dropping. -/
theorem replaceFrom_eq_drop (needle mask : List Char) (k : Nat) (s : List Char) :
    replaceFrom needle mask k s = replaceFrom needle mask 0 (s.drop k) := by
  induction k generalizing s with
  | zero => simp
  | succ k ih => cases s with
    | nil => simp
    | cons c s => simpa [replaceFrom] using ih s

/-- A text that does not occur leaves everything as it is. -/
theorem replaceAll_of_not_occurs {needle mask s : List Char} (h : occurs needle s = false) :
    replaceAll needle mask s = s := by
  induction s with
  | nil => simp [replaceAll]
  | cons c s ih =>
    rw [occurs, Bool.or_eq_false_iff] at h
    rw [replaceAll, replaceFrom, if_neg (by simp [h.1])]
    exact congrArg (c :: ·) (ih h.2)

end BuildLine.Text
