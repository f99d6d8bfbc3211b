import Mathlib
import BuildLine.Proofs.Log.Redaction

/-!
# Masking in any order

Secrets are masked from the longest to the shortest, and nothing is said about the order of those of
one length. Whatever this order is, no secret is left, nothing is masked where there is none, and to
mask once more changes nothing (`masked_in_any_order`). All that this needs is that a secret which
has been masked does not come back while the others are, and therefore that there is no asterisk in
it. The order may make a difference to what is left, though, if secrets overlap.
-/

namespace BuildLine.Log

open Text

/-- Where none of the texts stands nothing is masked. -/
theorem maskInOrder_eq_self {order : List (List Char)} {s : List Char}
    (h : ∀ t ∈ order, ¬ t <:+: s) : maskInOrder order s = s := by
  induction order with
  | nil => rfl
  | cons t order ih =>
    obtain ⟨ht, horder⟩ := List.forall_mem_cons.mp h
    have hoccurs : occurs t s = false := by
      rw [← Bool.not_eq_true, occurs_iff]
      exact ht
    rw [maskInOrder, List.foldl_cons, replaceAll_of_not_occurs hoccurs]
    exact ih horder

namespace Secrets

variable {secrets secrets' : Secrets} {order : List (List Char)}

/-- The secrets can be masked: none of them is empty or has an asterisk in it. -/
def Maskable (secrets : Secrets) : Prop :=
  ∀ c ∈ secrets, c ≠ "" ∧ '*' ∉ c.toList

/-- An order in which the secrets may be masked. -/
structure MaskingOrder (secrets : Secrets) (order : List (List Char)) : Prop where
  /-- It is an order of the secrets. -/
  perm : order.Perm (secrets.map String.toList)
  /-- No secret comes before a longer one. -/
  longestFirst : order.Pairwise fun a b => b.length ≤ a.length

theorem maskingOrder_longestFirst (secrets : Secrets) :
    secrets.MaskingOrder secrets.longestFirst where
  perm := List.mergeSort_perm ..
  longestFirst := by
    have hsorted : secrets.longestFirst.Pairwise fun a b => decide (b.length ≤ a.length) = true :=
      List.pairwise_mergeSort
        (fun a b c hab hbc => by
          simp only [decide_eq_true_eq] at hab hbc ⊢
          exact hbc.trans hab)
        (fun a b => by
          simp only [Bool.or_eq_true, decide_eq_true_eq]
          exact Nat.le_total ..)
        _
    exact hsorted.imp of_decide_eq_true

theorem MaskingOrder.mem_iff (h : secrets.MaskingOrder order) {t : List Char} :
    t ∈ order ↔ ∃ c ∈ secrets, c.toList = t := by
  rw [h.perm.mem_iff, List.mem_map]

/-- An order of secrets is one of the same secrets listed in another way. -/
theorem MaskingOrder.of_perm (h : secrets'.MaskingOrder order) (hperm : secrets'.Perm secrets) :
    secrets.MaskingOrder order :=
  ⟨h.perm.trans (hperm.map _), h.longestFirst⟩

/-- What is masked in any order has no secret left in it. -/
theorem MaskingOrder.not_infix (h : secrets.MaskingOrder order) (hmask : secrets.Maskable)
    {c : String} (hc : c ∈ secrets) (s : List Char) : ¬ c.toList <:+: maskInOrder order s :=
  not_infix_maskInOrder (hmask c hc).2 (by simpa using (hmask c hc).1)
    (h.mem_iff.mpr ⟨c, hc, rfl⟩)

theorem MaskingOrder.eq_self (h : secrets.MaskingOrder order) {s : List Char}
    (hclean : ∀ c ∈ secrets, ¬ c.toList <:+: s) : maskInOrder order s = s := by
  refine maskInOrder_eq_self fun t ht => ?_
  obtain ⟨c, hc, rfl⟩ := h.mem_iff.mp ht
  exact hclean c hc

/-- **Masking in any order** leaves no secret; to mask once more, in the same order or another one,
changes nothing; and to mask at all changes nothing exactly if there is no secret. One of these
orders is the one in which a journal redacts. So no line that it is told, and no line that tells of
an event, whatever is bound to whoever tells it, has in it what is a secret at that moment. -/
theorem masked_in_any_order (hmask : secrets.Maskable) :
    (∀ order, secrets.MaskingOrder order → ∀ s,
      (∀ c ∈ secrets, ¬ c.toList <:+: maskInOrder order s) ∧
        (∀ order', secrets.MaskingOrder order' →
          maskInOrder order' (maskInOrder order s) = maskInOrder order s) ∧
        (maskInOrder order s = s ↔ ∀ c ∈ secrets, ¬ c.toList <:+: s)) ∧
      ∀ j : Journal, j.secrets.Perm secrets →
        (∃ order, secrets.MaskingOrder order ∧
          ∀ s, j.redact s = String.ofList (maskInOrder order s.toList)) ∧
        (∀ s, ∃ line, (j.emit s).lines = Journal.trimmed (j.lines ++ [line]) ∧
          ∀ c ∈ secrets, ¬ c.toList <:+: line.toList) ∧
        ∀ bound e, ∃ line,
          (j.record (Event.withBound bound e)).lines = Journal.trimmed (j.lines ++ [line]) ∧
            ∀ c ∈ secrets, ¬ c.toList <:+: line.toList := by
  refine ⟨fun order horder s => ?_, fun j hj => ?_⟩
  · have hclean (c : String) (hc : c ∈ secrets) : ¬ c.toList <:+: maskInOrder order s :=
      horder.not_infix hmask hc s
    exact ⟨hclean, fun order' horder' => horder'.eq_self hclean, fun h => h ▸ hclean,
      horder.eq_self⟩
  · have horder := (maskingOrder_longestFirst j.secrets).of_perm hj
    have hclean (s : String) : ∀ c ∈ secrets, ¬ c.toList <:+: (j.redact s).toList := by
      intro c hc
      rw [Journal.redact, redact, String.toList_ofList]
      exact horder.not_infix hmask hc s.toList
    exact ⟨⟨_, horder, fun s => rfl⟩, fun s => ⟨_, rfl, hclean s⟩,
      fun bound e => ⟨_, rfl, hclean _⟩⟩

/-- A secret within another one, which is masked as a whole. -/
theorem masked_in_any_order_nested :
    let secrets : Secrets := ["abc", "abcdef"]
    secrets.Maskable ∧ secrets.redact "x abcdef y abc" = "x *** y ***" ∧
      (∀ c ∈ secrets, ¬ c.toList <:+: (secrets.redact "x abcdef y abc").toList) ∧
      secrets.redact (secrets.redact "x abcdef y abc") = secrets.redact "x abcdef y abc" := by
  intro secrets
  have hmask : secrets.Maskable := by
    simp [secrets, Maskable]
  obtain ⟨hany, -⟩ := masked_in_any_order hmask
  obtain ⟨hclean, hagain, -⟩ := hany _ (maskingOrder_longestFirst secrets) "x abcdef y abc".toList
  refine ⟨hmask, by cbv, ?_, ?_⟩
  · simpa only [redact, String.toList_ofList] using hclean
  · simpa only [redact, String.toList_ofList] using
      congrArg String.ofList (hagain _ (maskingOrder_longestFirst secrets))

end Secrets

end BuildLine.Log
