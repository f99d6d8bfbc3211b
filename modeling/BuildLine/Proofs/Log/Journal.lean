import BuildLine.Log.Journal

/-!
# Taking notices

A journal only grows by notices, and a notice is a line, an event or something shown. Two things
about that are used wherever a run is followed: notices can be taken in portions, and no notice
changes what the journal keeps secret. What a journal was told last can always be seen in it,
however much of it has been dropped (`getLast?_trimmed`).
-/

namespace BuildLine.Log

@[simp] theorem length_lastOf (k : Nat) (l : List α) : (lastOf k l).length = min k l.length := by
  rw [lastOf, List.length_drop]
  omega

namespace Journal

@[simp] theorem takeAll_nil (j : Journal) : j.takeAll [] = j := rfl

@[simp] theorem takeAll_cons (j : Journal) (n : Notice) (ns : List Notice) :
    j.takeAll (n :: ns) = (j.take n).takeAll ns := rfl

theorem takeAll_append (j : Journal) (ms ns : List Notice) :
    j.takeAll (ms ++ ns) = (j.takeAll ms).takeAll ns :=
  List.foldl_append

@[simp] theorem take_event (j : Journal) (e : Event) : j.take (.event e) = j.record e := rfl

@[simp] theorem secrets_record (j : Journal) (e : Event) : (j.record e).secrets = j.secrets := rfl

@[simp] theorem secrets_take (j : Journal) (n : Notice) : (j.take n).secrets = j.secrets := by
  cases n <;> rfl

/-- **Notices leave the secrets alone.** -/
@[simp] theorem secrets_takeAll (j : Journal) (ns : List Notice) :
    (j.takeAll ns).secrets = j.secrets := by
  induction ns generalizing j with
  | nil => rfl
  | cons n ns ih => rw [takeAll_cons, ih, secrets_take]

/-! ### What is kept -/

section Kept

variable {j : Journal} {lines : List String} {a b : String}

/-- Without secrets nothing is redacted. -/
theorem redact_eq_id (h : j.secrets = []) : j.redact = id := by
  funext s
  rw [redact, h]
  simp [Secrets.redact, Secrets.longestFirst, maskInOrder]

theorem length_trimmed (lines : List String) : (trimmed lines).length =
    if lines.length > Settings.maxLogLines then keptLines else lines.length := by
  rw [trimmed]
  split
  · rename_i h
    rw [Settings.maxLogLines] at h
    rw [length_lastOf, keptLines]
    omega
  · rfl

/-- A journal does not stay the same when a line is added. -/
theorem trimmed_append_ne : trimmed (lines ++ [a]) ≠ lines := by
  intro h
  have hlength := congrArg List.length h
  rw [length_trimmed, List.length_append, List.length_singleton, Settings.maxLogLines,
    keptLines] at hlength
  split at hlength <;> omega

/-- The last line is kept. -/
theorem getLast?_trimmed (lines : List String) : (trimmed lines).getLast? = lines.getLast? := by
  rw [trimmed]
  split
  · rename_i h
    rw [Settings.maxLogLines] at h
    rw [lastOf, List.getLast?_drop, if_neg (by rw [keptLines]; omega)]
  · rfl

theorem eq_of_trimmed_append_eq (h : trimmed (lines ++ [a]) = trimmed (lines ++ [b])) : a = b := by
  have hlast := congrArg List.getLast? h
  simpa [getLast?_trimmed] using hlast

end Kept

end Journal

end BuildLine.Log
