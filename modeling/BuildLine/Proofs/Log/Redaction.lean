import BuildLine.Proofs.Log.Journal
import BuildLine.Proofs.Text.Masking

/-!
# What redaction hides

Secrets are masked one after the other, so a secret has to stay hidden while the others are masked.
It does if it has no asterisk in it, since masking brings nothing about that is apart from the mask
(`infix_of_replaceAll`); the other secrets may be anything. The journal redacts each line when it is
told. Hence a journal that hides a text to begin with hides it as long as the text is a secret
(`Journal.Hides.takeAll`).
-/

namespace BuildLine.Log

open Text

/-- A text without asterisks is apart from the mask. -/
theorem mask_apart {t : List Char} (h : '*' ∉ t) : Apart mask t :=
  ⟨by decide, by simpa [mask] using h⟩

variable {t s : List Char}

theorem infix_of_maskInOrder (h : '*' ∉ t) {secrets : List (List Char)}
    (ht : t <:+: maskInOrder secrets s) : t <:+: s := by
  induction secrets generalizing s with
  | nil => exact ht
  | cons secret secrets ih => exact infix_of_replaceAll (mask_apart h) (ih ht)

theorem not_infix_maskInOrder (h : '*' ∉ t) (hne : t ≠ []) {secrets : List (List Char)}
    (ht : t ∈ secrets) : ¬ t <:+: maskInOrder secrets s := by
  induction secrets generalizing s with
  | nil => cases ht
  | cons secret secrets ih =>
    rcases List.mem_cons.mp ht with rfl | ht
    · -- what is masked first has to stay away while the rest is masked
      intro hs
      exact not_infix_replaceAll (mask_apart h) hne (infix_of_maskInOrder h hs)
    · exact ih ht

namespace Secrets

theorem mem_longestFirst {secrets : Secrets} {c : String} (h : c ∈ secrets) :
    c.toList ∈ secrets.longestFirst :=
  List.mem_mergeSort.mpr (List.mem_map_of_mem h)

theorem mem_register_self (secrets : Secrets) {c : String} (hne : c ≠ "") :
    c ∈ secrets.register c := by
  unfold register
  split
  · simp_all
  · simp

/-- **Redaction hides a secret**, if there is no asterisk in it. -/
theorem not_infix_redact {secrets : Secrets} {c : String} (h : c ∈ secrets) (hne : c ≠ "")
    (hstar : '*' ∉ c.toList) (s : String) : ¬ c.toList <:+: (secrets.redact s).toList := by
  rw [redact, String.toList_ofList]
  exact not_infix_maskInOrder hstar (by simpa using hne) (mem_longestFirst h)

end Secrets

namespace Journal

/-- No line of the journal has the text in it. -/
def Hides (j : Journal) (c : String) : Prop :=
  ∀ line ∈ j.lines, ¬ c.toList <:+: line.toList

variable {j : Journal} {c : String}

theorem hides_forgetLines (j : Journal) (c : String) : j.forgetLines.Hides c := by
  intro line hline
  cases hline

theorem hides_register {value : Option String} : (j.register value).Hides c ↔ j.Hides c := by
  cases value <;> rfl

theorem hides_forget {value : Option String} : (j.forget value).Hides c ↔ j.Hides c := by
  cases value <;> rfl

theorem mem_of_mem_trimmed {lines : List String} {l : String} (h : l ∈ trimmed lines) :
    l ∈ lines := by
  unfold trimmed at h
  split at h
  · exact List.mem_of_mem_drop h
  · exact h

theorem Hides.emit (h : j.Hides c) (hmem : c ∈ j.secrets) (hne : c ≠ "") (hstar : '*' ∉ c.toList)
    (s : String) : (j.emit s).Hides c := by
  intro line hline
  rcases List.mem_append.mp (mem_of_mem_trimmed hline) with hline | hline
  · exact h line hline
  · rw [List.mem_singleton.mp hline]
    exact Secrets.not_infix_redact hmem hne hstar s

theorem Hides.take (h : j.Hides c) (hmem : c ∈ j.secrets) (hne : c ≠ "") (hstar : '*' ∉ c.toList)
    (n : Notice) : (j.take n).Hides c := by
  cases n with
  | line s => exact h.emit hmem hne hstar s
  | event e => exact h.emit hmem hne hstar _
  | shown s => exact h

/-- **A journal goes on hiding a secret** whatever it is told. -/
theorem Hides.takeAll (h : j.Hides c) (hmem : c ∈ j.secrets) (hne : c ≠ "")
    (hstar : '*' ∉ c.toList) (ns : List Notice) : (j.takeAll ns).Hides c := by
  induction ns generalizing j with
  | nil => exact h
  | cons n ns ih =>
    rw [takeAll_cons]
    exact ih (h.take hmem hne hstar n) (by rwa [secrets_take])

end Journal

end BuildLine.Log
