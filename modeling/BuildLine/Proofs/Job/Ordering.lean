import Mathlib.Data.List.Sort
import BuildLine.Proofs.Job.Accepted

/-!
# The order of stages

A specification that was created from a draft has its stages in the order of their roles, and every
stage stands in the phase that has a place for its role. The installation has one role only, and
this role comes before those of the main stages, so the installation and the main stages in a row
are in the order of their roles, too (`roles_mainStages`).
-/

namespace BuildLine.Job

/-- The stages are in the order of their roles. -/
def Ranked (stages : List Stage) : Prop :=
  stages.Pairwise fun a b => a.role.rank ≤ b.role.rank

namespace Spec

theorem ranked_sorted (stages : List Stage) : Ranked (sorted stages) :=
  List.pairwise_mergeSort' (fun a b : Stage => a.role.rank ≤ b.role.rank) stages

/-- Stages that were ordered are in the order of their roles, and these are allowed. -/
theorem roles_of_ordered {allowed : List Role} {phase : String} {stages out : List Stage}
    (h : ordered allowed phase stages = .ok out) :
    Ranked out ∧ ∀ s ∈ out, s.role ∈ allowed := by
  obtain ⟨rfl, hallowed⟩ := ordered_eq_ok h
  exact ⟨ranked_sorted stages, fun s hs => hallowed s (mem_sorted.mp hs)⟩

/-- **The main phase goes through its stages in the order of their roles.** -/
theorem roles_mainStages {d : Draft} {spec : Spec} (h : create d = .ok spec) :
    Ranked spec.mainStages ∧ ∀ s ∈ spec.mainStages, s.role ∈ .install :: Role.main := by
  have hmakes := create_eq_ok_iff.mp h
  obtain ⟨hinstall, hinstall'⟩ := roles_of_ordered hmakes.install
  obtain ⟨hscript, hscript'⟩ := roles_of_ordered hmakes.script
  refine ⟨List.pairwise_append.mpr ⟨hinstall, hscript, fun a ha b _ => ?_⟩, fun s hs => ?_⟩
  · -- nothing has a lower rank than the installation
    have hrole : a.role = .install := by simpa using hinstall' a ha
    rw [hrole]
    exact Nat.zero_le _
  · rcases List.mem_append.mp hs with hs | hs
    · exact List.mem_cons.mpr (Or.inl (by simpa using hinstall' s hs))
    · exact List.mem_cons_of_mem _ (hscript' s hs)

/-- **The publish phase goes through its steps in the order of their roles.** -/
theorem roles_steps {d : Draft} {spec : Spec} (h : create d = .ok spec) {b : PublishBlock}
    (hb : spec.afterSuccess = some b) :
    Ranked b.steps ∧ ∀ s ∈ b.steps, s.role ∈ Role.publish := by
  have hblock := orderedBlock_eq_ok_iff.mp (create_eq_ok_iff.mp h).block
  rw [hb] at hblock
  obtain ⟨_, -, -, hsteps⟩ := hblock.exists_left
  exact roles_of_ordered hsteps

end Spec

end BuildLine.Job
