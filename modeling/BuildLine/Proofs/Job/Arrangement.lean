import Mathlib
import BuildLine.Proofs.Job.Ordering

/-!
# How stages are arranged

A draft has its stages in whatever order somebody wrote them down. What becomes of a list of stages
is settled by three things (`Arranges`): no stage is lost or made up, the roles are in order, and
the stages of one role stay in the order in which they were drafted.

Two lists in the order of their roles that agree role by role are the same list
(`Ranked.eq_of_sameByRole`). So two drafts that agree role by role describe the same job, and since
a list of stages agrees with its own arrangement, a job that is drafted once more from its own parts
is the job that it was.
-/

namespace BuildLine.Job

/-- The lists have the same stages of every role, in the same order. -/
def SameByRole (xs ys : List Stage) : Prop :=
  ∀ r : Role, xs.filter (fun s => s.role = r) = ys.filter (fun s => s.role = r)

/-- The stages as they were declared have been put in the order of their roles, and stages of one
role are in the order in which they were declared. -/
structure Arranges (declared arranged : List Stage) : Prop where
  perm : arranged.Perm declared
  ranked : Ranked arranged
  stable : SameByRole arranged declared

theorem Role.rank_injective : Function.Injective Role.rank := by
  intro r r' h
  have hall := Role.all_getElem?_rank r
  rw [h, Role.all_getElem?_rank] at hall
  exact (Option.some.inj hall).symm

variable {xs ys : List Stage} {x y : Stage}

/-! ### Lists that agree role by role -/

theorem SameByRole.symm (h : SameByRole xs ys) : SameByRole ys xs := fun r => (h r).symm

theorem SameByRole.mem_iff (h : SameByRole xs ys) (s : Stage) : s ∈ xs ↔ s ∈ ys := by
  have hmem (zs : List Stage) : s ∈ zs ↔ s ∈ zs.filter (fun z => z.role = s.role) := by simp
  rw [hmem xs, hmem ys, h s.role]

theorem SameByRole.of_cons (h : SameByRole (x :: xs) (x :: ys)) : SameByRole xs ys := by
  intro r
  have hr := h r
  simp only [List.filter_cons] at hr
  split_ifs at hr
  · exact (List.cons.inj hr).2
  · exact hr

theorem SameByRole.head_eq (h : SameByRole (x :: xs) (y :: ys)) (hrole : x.role = y.role) :
    x = y := by
  have hr := h y.role
  simp only [List.filter_cons, hrole, decide_true, if_true] at hr
  exact (List.cons.inj hr).1

theorem Ranked.head_le (h : Ranked (x :: xs)) (hy : y ∈ x :: xs) : x.role.rank ≤ y.role.rank := by
  rcases List.mem_cons.mp hy with rfl | hy
  · exact le_rfl
  · exact List.rel_of_pairwise_cons h hy

/-- **Lists in the order of their roles that agree role by role are the same.** -/
theorem Ranked.eq_of_sameByRole (hxs : Ranked xs) (hys : Ranked ys) (h : SameByRole xs ys) :
    xs = ys := by
  induction xs generalizing ys with
  | nil =>
    refine (List.eq_nil_iff_forall_not_mem.mpr fun y hy => ?_).symm
    exact List.not_mem_nil ((h.mem_iff y).mpr hy)
  | cons x xs ih =>
    cases ys with
    | nil => exact absurd ((h.mem_iff x).mp (List.mem_cons_self ..)) List.not_mem_nil
    | cons y ys =>
      -- each head stands in the other list, too, so neither role comes before the other
      have hle := hxs.head_le ((h.mem_iff y).mpr (List.mem_cons_self ..))
      have hge := hys.head_le ((h.mem_iff x).mp (List.mem_cons_self ..))
      obtain rfl : x = y := h.head_eq (Role.rank_injective (le_antisymm hle hge))
      rw [ih hxs.of_cons hys.of_cons h.of_cons]

/-- Where the roles are in order, the role that comes first stands first. -/
theorem Ranked.lt_of_rank_lt (h : Ranked xs) {i j : Nat} (hi : xs[i]? = some x)
    (hj : xs[j]? = some y) (hlt : x.role.rank < y.role.rank) : i < j := by
  obtain ⟨hilen, rfl⟩ := List.getElem?_eq_some_iff.mp hi
  obtain ⟨hjlen, rfl⟩ := List.getElem?_eq_some_iff.mp hj
  by_contra hge
  rcases (not_lt.mp hge).lt_or_eq with hji | rfl
  · exact absurd (List.pairwise_iff_getElem.mp h j i hjlen hilen hji) (not_le.mpr hlt)
  · exact lt_irrefl _ hlt

namespace Spec

/-! ### Sorting -/

/-- Sorting does not change the order of the stages of one role. -/
theorem sameByRole_sorted (xs : List Stage) : SameByRole (sorted xs) xs := by
  intro r
  let c := xs.filter fun s => s.role = r
  -- stages of one role are in order already, and sorting keeps what is in order
  have hc : c.Pairwise fun a b => decide (a.role.rank ≤ b.role.rank) = true :=
    List.pairwise_of_forall_mem_list fun a ha b hb => by
      have ha := of_decide_eq_true (List.mem_filter.mp ha).2
      have hb := of_decide_eq_true (List.mem_filter.mp hb).2
      simp [ha, hb]
  have hsub : c.Sublist (sorted xs) :=
    List.sublist_mergeSort (fun a b c hab hbc => by simp at *; omega) (fun a b => by simp; omega) hc
      List.filter_sublist
  have hfilter : c.filter (fun s => s.role = r) = c := by simp [c]
  have hlength : ((sorted xs).filter fun s => s.role = r).length = c.length :=
    ((List.mergeSort_perm xs _).filter _).length_eq
  have hsub' := hsub.filter fun s => decide (s.role = r)
  rw [hfilter] at hsub'
  exact (hsub'.eq_of_length hlength.symm).symm

theorem arranges_sorted (xs : List Stage) : Arranges xs (sorted xs) :=
  ⟨List.mergeSort_perm .., ranked_sorted xs, sameByRole_sorted xs⟩

theorem ordered_of_allowed {allowed : List Role} (phase : String)
    (h : ∀ s ∈ xs, s.role ∈ allowed) : ordered allowed phase xs = .ok (sorted xs) := by
  unfold ordered
  split
  · rename_i s hs
    have hnot := List.find?_some hs
    simp [h s (List.mem_of_find?_eq_some hs)] at hnot
  · rfl

theorem arranges_of_ordered {allowed : List Role} {phase : String} {out : List Stage}
    (h : ordered allowed phase xs = .ok out) : Arranges xs out := by
  obtain ⟨rfl, -⟩ := ordered_eq_ok h
  exact arranges_sorted xs

/-- Stages that agree role by role are ordered alike. -/
theorem ordered_congr {allowed : List Role} {phase : String} {out : List Stage}
    (h : SameByRole ys xs) (hxs : ordered allowed phase xs = .ok out) :
    ordered allowed phase ys = .ok out := by
  obtain ⟨rfl, hallowed⟩ := ordered_eq_ok hxs
  rw [ordered_of_allowed phase fun s hs => hallowed s ((h.mem_iff s).mp hs)]
  refine congrArg Except.ok ((ranked_sorted ys).eq_of_sameByRole (ranked_sorted xs) fun r => ?_)
  rw [sameByRole_sorted ys r, h r, sameByRole_sorted xs r]

/-! ### Blocks -/

theorem BlocksBy.imp {R S : List Stage → List Stage → Prop} {block out : Option PublishBlock}
    (h : BlocksBy R block out) (hRS : ∀ xs ys, R xs ys → S xs ys) : BlocksBy S block out := by
  cases h with
  | none => exact .none
  | some h => exact .some ⟨h.1, hRS _ _ h.2⟩

/-- Blocks with steps that agree role by role are ordered alike. -/
theorem orderedBlock_congr {block block' out : Option PublishBlock}
    (h : BlocksBy SameByRole block block') (hblock : orderedBlock block = .ok out) :
    orderedBlock block' = .ok out := by
  rw [orderedBlock_eq_ok_iff] at hblock ⊢
  cases h with
  | none => exact hblock
  | some h =>
    cases hblock with
    | some hout => exact .some ⟨hout.1.trans h.1.symm, ordered_congr h.2.symm hout.2⟩

/-! ### Specifications -/

/-- The draft that has the parts of a specification. -/
def redraft (spec : Spec) : Draft where
  platform := some spec.platform
  toolchain := .text spec.toolchain
  install := spec.install.map .stage
  script := spec.script
  afterSuccess := spec.afterSuccess
  language := spec.language
  env := spec.env

theorem installStages_map_stage (i : Nat) (stages : List Stage) :
    installStages i (stages.map .stage) = stages := by
  induction stages generalizing i with
  | nil => rfl
  | cons s stages ih => exact congrArg (s :: ·) (ih (i + 1))

theorem checkToolchain_eq_ok {t : Data.Value} {toolchain : String}
    (h : checkToolchain t = .ok toolchain) : t = .text toolchain := by
  unfold checkToolchain at h
  split at h
  · split at h
    · rw [Except.ok.inj h]
    · cases h
  · cases h

variable {d : Draft} {spec : Spec}

/-- The parts of a specification make it again. -/
theorem Makes.redraft (h : Makes d spec) : Makes (redraft spec) spec where
  toolchain := by
    have htoolchain := h.toolchain
    rwa [checkToolchain_eq_ok h.toolchain] at htoolchain
  install := by
    rw [Spec.redraft, installStages_map_stage]
    exact ordered_congr (arranges_of_ordered h.install).stable h.install
  script := ordered_congr (arranges_of_ordered h.script).stable h.script
  block :=
    orderedBlock_congr
      ((orderedBlock_eq_ok_iff.mp h.block).imp fun _ _ hsteps =>
        (arranges_of_ordered hsteps).stable.symm)
      h.block
  platform := rfl
  known := rfl
  language := rfl
  env := rfl
  names := h.names

/-- **How a job arranges its stages**: the main stages and the steps of the publish phase are put in
the order of their roles, and those of one role stay as they were drafted. Nothing else of their
order matters, and a job that is drafted once more from its parts stays the same. -/
theorem create_arranges (h : create d = .ok spec) :
    Arranges d.script spec.script ∧ BlocksBy Arranges d.afterSuccess spec.afterSuccess ∧
      (∀ (script : List Stage) (block : Option PublishBlock), SameByRole d.script script →
        BlocksBy SameByRole d.afterSuccess block →
        create { d with script, afterSuccess := block } = .ok spec) ∧
      (∀ (i j : Nat) (a b : Stage), spec.script[i]? = some a → spec.script[j]? = some b →
        a.role = .build ∧ b.role = .docTest ∨
          a.role = .docTest ∧ b.role ∈ [Role.test, Role.bench, Role.docGen] →
        i < j) ∧
      create spec.redraft = .ok spec := by
  have hmakes := create_eq_ok_iff.mp h
  have hscript := arranges_of_ordered hmakes.script
  refine ⟨hscript, ?_, fun script block hsame hblock => ?_, fun i j a b hi hj hroles => ?_,
    create_eq_ok_iff.mpr hmakes.redraft⟩
  · exact (orderedBlock_eq_ok_iff.mp hmakes.block).imp fun _ _ => arranges_of_ordered
  · exact create_eq_ok_iff.mpr
      { hmakes with
        script := ordered_congr hsame.symm hmakes.script
        block := orderedBlock_congr hblock hmakes.block }
  · refine hscript.ranked.lt_of_rank_lt hi hj ?_
    simp only [List.mem_cons, List.not_mem_nil, or_false] at hroles
    rcases hroles with ⟨ha, hb⟩ | ⟨ha, hb | hb | hb⟩ <;> rw [ha, hb] <;> decide

/-- A job whose stages were drafted in two other orders. -/
theorem create_arranges_tests :
    let stage (name : String) (role : Role) : Stage := { name, run := "make " ++ name, role }
    let publishing (steps : List Stage) : PublishBlock := { rule := { branch := "main" }, steps }
    let units := stage "units" .test
    let slow := stage "slow" .test
    let docs := stage "docs" .docTest
    let site := stage "site" .render
    let push := stage "push" .push
    let d : Draft :=
      { platform := some (.text "linux"), install := [.command "make tools"]
        script := [units, docs, slow], afterSuccess := some (publishing [push, site]) }
    let spec : Spec :=
      { platform := .text "linux", toolchain := "stable"
        install := [{ name := "install-0", run := "make tools", role := .install }]
        script := [docs, units, slow], afterSuccess := some (publishing [site, push]) }
    create d = .ok spec ∧ create { d with script := [units, slow, docs] } = .ok spec ∧
      create spec.redraft = .ok spec := by
  intro stage publishing units slow docs site push d spec
  have hnames : spec.stages.map Stage.name =
      ["install-0", "docs", "units", "slow", "site", "push"] := rfl
  have hd : create d = .ok spec :=
    create_eq_ok_iff.mpr
      { toolchain := by cbv
        install := by cbv
        script := by cbv
        block := by cbv
        platform := rfl
        known := rfl
        language := rfl
        env := rfl
        names := hnames ▸ rfl }
  obtain ⟨-, -, hother, -, hredraft⟩ := create_arranges hd
  have hblock : BlocksBy SameByRole d.afterSuccess d.afterSuccess := .some ⟨rfl, fun _ => rfl⟩
  refine ⟨hd, hother [units, slow, docs] _ (fun r => ?_) hblock, hredraft⟩
  cases r <;> rfl

end Spec

end BuildLine.Job
