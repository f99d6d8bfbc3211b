import Mathlib
import BuildLine.Proofs.Log.MaskingOrder
import BuildLine.Proofs.Text.Outermost

/-!
# Secrets within secrets

Longer secrets are masked first so that a secret which holds another one is masked as a whole. If no
secret begins within another one and ends behind it, this does what it should, however many secrets
lie within each other: exactly the occurrences that lie in no other one are masked, and all else is
kept (`redacted_outermost`). Then the order of secrets of one length does not matter either. It does
where secrets overlap, since the one that is masked first then leaves a part of the other.
-/

namespace BuildLine.Log.Secrets

open Text

variable {secrets : Secrets} {order : List (List Char)}

/-- No secret begins within another one, or within itself, and ends behind it. -/
def Nested (secrets : Secrets) : Prop :=
  ∀ c ∈ secrets, ∀ d ∈ secrets, ¬ Clash c.toList d.toList

instance (secrets : Secrets) : Decidable secrets.Nested :=
  inferInstanceAs (Decidable (∀ c ∈ secrets, ∀ d ∈ secrets, ¬ Clash c.toList d.toList))

theorem MaskingOrder.separable (h : secrets.MaskingOrder order) (hmask : secrets.Maskable)
    (hnested : secrets.Nested) : Separable mask order where
  ne_nil t ht := by
    obtain ⟨c, hc, rfl⟩ := h.mem_iff.mp ht
    simpa using (hmask c hc).1
  apart t ht := by
    obtain ⟨c, hc, rfl⟩ := h.mem_iff.mp ht
    exact mask_apart (hmask c hc).2
  tidy t ht u hu := by
    obtain ⟨c, hc, rfl⟩ := h.mem_iff.mp ht
    obtain ⟨d, hd, rfl⟩ := h.mem_iff.mp hu
    exact hnested c hc d hd
  longestFirst := h.longestFirst

/-- **Nested secrets are masked as wholes**: a text that is redacted falls into pieces, of which
those that are masked are the outermost occurrences of secrets, each in its place, and the others
are kept. Every occurrence of a secret lies in a piece that is masked. The order in which secrets of
one length are masked, or listed, makes no difference. -/
theorem redacted_outermost (hmask : secrets.Maskable) (hnested : secrets.Nested) (s : String) :
    ∃ ps : List Piece, ps.flatMap Piece.text = s.toList ∧
      (∀ order, secrets.MaskingOrder order →
        maskInOrder order s.toList = ps.flatMap (Piece.shown mask)) ∧
      (∀ secrets', secrets'.Perm secrets →
        (redact secrets' s).toList = ps.flatMap (Piece.shown mask)) ∧
      (∀ i t, (i, t) ∈ maskedFrom 0 ps ↔ Outermost (secrets.map String.toList) s.toList i t) ∧
      ∀ c ∈ secrets, ∀ i, StandsAt s.toList i c.toList →
        ∃ p ∈ maskedFrom 0 ps, p.1 ≤ i ∧ i + c.toList.length ≤ p.1 + p.2.length := by
  have horder := maskingOrder_longestFirst secrets
  have hseparable := horder.separable hmask hnested
  obtain ⟨ps, hps⟩ := exists_dissected hseparable.ne_nil s.toList
  have hany (order : List (List Char)) (h : secrets.MaskingOrder order) :
      maskInOrder order s.toList = ps.flatMap (Piece.shown mask) := by
    have hperm := horder.perm.trans h.perm.symm
    exact (hps.of_perm hperm horder.longestFirst h.longestFirst).foldl_replaceAll
      (h.separable hmask hnested)
  refine ⟨ps, hps.text_eq, hany, fun secrets' hperm => ?_, fun i t => ?_, fun c hc i hi => ?_⟩
  · rw [redact, String.toList_ofList]
    exact hany _ ((maskingOrder_longestFirst secrets').of_perm hperm)
  · rw [hps.mem_maskedFrom_iff hseparable]
    have hmem (t : List Char) : t ∈ secrets.longestFirst ↔ t ∈ secrets.map String.toList :=
      horder.perm.mem_iff
    exact ⟨fun h => h.of_mem_iff hmem, fun h => h.of_mem_iff fun t => (hmem t).symm⟩
  · exact hps.covers hseparable (horder.mem_iff.mpr ⟨c, hc, rfl⟩) hi

/-- Three secrets within each other, each of which is masked where it stands alone. -/
theorem redacted_outermost_tokens :
    let secrets : Secrets := ["ken", "token", "my-token-1"]
    let s := "my-token-1, token or ken"
    secrets.Maskable ∧ secrets.Nested ∧
      ∃ ps : List Piece, ps.flatMap Piece.text = s.toList ∧
        ps.flatMap (Piece.shown mask) = "***, *** or ***".toList ∧
        ∀ i t, (i, t) ∈ maskedFrom 0 ps ↔ Outermost (secrets.map String.toList) s.toList i t := by
  intro secrets s
  have hmask : secrets.Maskable := by
    simp [secrets, Maskable]
  have hnested : secrets.Nested := by decide
  have hredact : redact secrets s = "***, *** or ***" := by cbv
  obtain ⟨ps, htext, -, hshown, houtermost, -⟩ := redacted_outermost hmask hnested s
  refine ⟨hmask, hnested, ps, htext, ?_, houtermost⟩
  rw [← hshown secrets (List.Perm.refl _), hredact]

end BuildLine.Log.Secrets
