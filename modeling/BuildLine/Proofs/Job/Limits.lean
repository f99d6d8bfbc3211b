import Mathlib
import BuildLine.Proofs.Job.Entries

/-!
# Limits of time

A limit of time ought to be a number above zero. What a number of a manifest stands for is an
extended real number, or nothing (`Data.Number.value?`), and the check that a limit goes through
compares it with zero.

A limit is refused if it is zero or below, and not if it fails to be above zero. These are the same
where the limit stands for something, and where it stands for nothing either comparison fails
(`isNonPositive_iff`). So exactly one limit gets through that is not above zero, the one that is no
number, and only if an entry says so (`limits_positive_iff`).
-/

namespace BuildLine

/-! ### What a number stands for -/

namespace Decimal.Binary64

/-- What the number stands for. -/
noncomputable def value? : Binary64 → Option EReal
  | .finite negative m e => some (((if negative then -1 else 1) * m * 2 ^ e : ℝ) : EReal)
  | .infinite negative => some (if negative then ⊥ else ⊤)
  | .nan => none

theorem value?_eq_none_iff {x : Binary64} : x.value? = none ↔ x = .nan := by
  cases x <;> simp [value?]

/-- Not being above zero is being below it or zero, which nothing is that is no number. -/
theorem isNonPositive_iff {x : Binary64} :
    x.isNonPositive = true ↔ ∃ v, x.value? = some v ∧ v ≤ 0 := by
  cases x with
  | finite negative m e =>
    have hpower : (0 : ℝ) < 2 ^ e := by positivity
    simp only [isNonPositive, value?, Option.some.injEq, exists_eq_left', Bool.or_eq_true,
      beq_iff_eq, EReal.coe_nonpos]
    cases negative with
    | true => simp [hpower.le, mul_nonneg]
    | false => simp [mul_nonpos_iff, hpower.le, hpower.not_ge]
  | infinite negative => cases negative <;> simp [isNonPositive, value?]
  | nan => simp [isNonPositive, value?]

end Decimal.Binary64

namespace Data.Number

open Decimal (Binary64)

/-- What the number stands for. -/
noncomputable def value? : Number → Option EReal
  | .whole n => some ((n : ℝ) : EReal)
  | .real x => x.value?

/-- The number is above zero. -/
def Positive (n : Number) : Prop :=
  ∃ v, n.value? = some v ∧ 0 < v

theorem value?_eq_none_iff {n : Number} : n.value? = none ↔ n = .real .nan := by
  cases n with
  | whole n => simp [value?]
  | real x => simp [value?, Binary64.value?_eq_none_iff]

theorem isNonPositive_iff {n : Number} :
    n.isNonPositive = true ↔ ∃ v, n.value? = some v ∧ v ≤ 0 := by
  cases n with
  | whole n => simp [isNonPositive, value?]
  | real x => exact Binary64.isNonPositive_iff

/-- What is not refused for being too small is above zero, or no number at all. -/
theorem not_isNonPositive_iff {n : Number} :
    n.isNonPositive = false ↔ n.Positive ∨ n = .real .nan := by
  rw [← Bool.not_eq_true, isNonPositive_iff, ← value?_eq_none_iff, Positive]
  cases n.value? with
  | none => simp
  | some v => simp

theorem not_positive_nan : ¬(real .nan).Positive := by
  rintro ⟨v, hv, -⟩
  cases hv

end Data.Number

namespace Job.Manifest

open Data (Value Table Number)

/-! ### Limits and entries -/

/-- What an entry gives as its limit of time. -/
def limitOf? : Value → Option Value
  | .table t => Table.get? t "timeout"
  | _ => none

theorem limit_eq_ok {name : String} {v : Value} {n : Number} (h : limit name v = .ok n) :
    v = .number n ∧ n.isNonPositive = false := by
  rw [limit, bind_eq_ok] at h
  obtain ⟨m, hm, h⟩ := h
  split at h
  · cases h
  · rename_i hpositive
    obtain rfl := Except.ok.inj h
    refine ⟨?_, Bool.eq_false_of_not_eq_true hpositive⟩
    cases v with
    | number n => exact congrArg Value.number (Except.ok.inj hm)
    | _ => cases hm

theorem Accepts.limit {place : String} {fallback : Option Role} {t : Table} {s : Stage}
    (h : Accepts place fallback t s) (n : Number) :
    s.timeout = some n ↔ limitOf? (.table t) = some (.number n) := by
  have htimeout := h.timeout
  constructor
  · intro hn
    rw [hn] at htimeout
    obtain ⟨v, hv, hread⟩ := optional_eq_ok htimeout
    obtain ⟨rfl, -⟩ := limit_eq_ok hread
    exact hv
  · intro hn
    obtain ⟨m, hm, hread⟩ := optional_of_get? htimeout hn nofun
    obtain ⟨hmn, -⟩ := limit_eq_ok hread
    rw [hm, Value.number.inj hmn]

/-- **A stage has the limit that its entry gives**, and has none only if its entry gives none. -/
theorem limit_of_describes {entry : Value} {s : Stage} (h : Describes entry s) (n : Number) :
    s.timeout = some n ↔ limitOf? entry = some (.number n) := by
  rcases h with ⟨place, fallback, hread⟩ | ⟨run, i, rfl, rfl⟩
  · obtain ⟨t, rfl, ht⟩ := stage_eq_ok hread
    exact ht.limit n
  · exact iff_of_false nofun nofun

theorem positive_or_nan_of_describes {entry : Value} {s : Stage} (h : Describes entry s)
    {n : Number} (hn : s.timeout = some n) : n.Positive ∨ n = .real .nan := by
  rcases h with ⟨place, fallback, hread⟩ | ⟨run, i, -, rfl⟩
  · obtain ⟨t, -, ht⟩ := stage_eq_ok hread
    have htimeout := ht.timeout
    rw [hn] at htimeout
    obtain ⟨v, -, hv⟩ := optional_eq_ok htimeout
    exact Number.not_isNonPositive_iff.mp (limit_eq_ok hv).2
  · cases hn

/-- **The limits of an accepted manifest** are above zero or no numbers, and all of them are above
zero exactly if no entry gives a limit that is no number. -/
theorem limits_positive_iff {settings : Settings} {document : Table} {spec : Spec}
    (h : parse settings document = .ok spec) :
    (∀ s ∈ spec.stages, ∀ t, s.timeout = some t → t.Positive ∨ t = .real .nan) ∧
      ((∀ s ∈ spec.stages, ∀ t, s.timeout = some t → t.Positive) ↔
        ∀ entry ∈ stageEntries document, limitOf? entry ≠ some (.number (.real .nan))) := by
  have hlimits : ∀ s ∈ spec.stages, ∀ t, s.timeout = some t → t.Positive ∨ t = .real .nan := by
    intro s hs t ht
    obtain ⟨entry, -, hdescribes⟩ := exists_entry_of_mem_stages h hs
    exact positive_or_nan_of_describes hdescribes ht
  refine ⟨hlimits, ?_⟩
  constructor
  · intro hpositive entry hentry hnan
    obtain ⟨s, hs, hdescribes⟩ := exists_stage_of_mem_stageEntries h hentry
    have ht := (limit_of_describes hdescribes _).mpr hnan
    exact Number.not_positive_nan (hpositive s hs _ ht)
  · intro hnumbers s hs t ht
    obtain ⟨entry, hentry, hdescribes⟩ := exists_entry_of_mem_stages h hs
    rcases hlimits s hs t ht with hpositive | rfl
    · exact hpositive
    · exact absurd ((limit_of_describes hdescribes _).mp ht) (hnumbers entry hentry)

/-- A manifest with one entry in its script, which has a limit of time. -/
def timedDocument (limit : Number) : Table :=
  [("job", .table [("script", .list [.table
    [("name", .text "test"), ("run", .text "make test"), ("role", .text "test"),
     ("timeout", .number limit)]])])]

/-- The job of such a manifest. -/
def timedSpec (limit : Number) : Spec where
  platform := .text "linux"
  toolchain := "stable"
  install := []
  script := [{ name := "test", run := "make test", role := .test, timeout := some limit }]

/-- A limit that is beyond every number is above zero. -/
theorem limits_positive_iff_infinite :
    let beyond : Number := .real (.infinite false)
    parse {} (timedDocument beyond) = .ok (timedSpec beyond) ∧
      ∀ s ∈ (timedSpec beyond).stages, ∀ t, s.timeout = some t → t.Positive := by
  intro beyond
  have hparse : parse {} (timedDocument beyond) = .ok (timedSpec beyond) := by cbv
  refine ⟨hparse, (limits_positive_iff hparse).2.mpr fun entry hentry => ?_⟩
  obtain rfl := List.mem_singleton.mp hentry
  intro hnan
  have hbeyond : beyond = .real .nan := Value.number.inj (Option.some.inj hnan)
  simp [beyond] at hbeyond

/-- **A limit that is no number is accepted**, and it is not above zero. -/
theorem limit_of_nan :
    parse {} (timedDocument (.real .nan)) = .ok (timedSpec (.real .nan)) ∧
      ¬∀ s ∈ (timedSpec (.real .nan)).stages, ∀ t, s.timeout = some t → t.Positive := by
  refine ⟨by cbv, fun hpositive => ?_⟩
  exact Number.not_positive_nan (hpositive _ (List.mem_singleton_self _) _ rfl)

end Job.Manifest

end BuildLine
