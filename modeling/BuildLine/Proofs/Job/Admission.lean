import BuildLine.Proofs.Job.Arrangement

/-!
# Which drafts become a job

A draft is admitted if there is nothing to complain of (`Draft.Admissible`): it asks for the one
toolchain there is, its stages stand in phases that have a place for their roles, it has no option
that no job has, and its names are names and all different. Names are compared across all three
lists, and a bare command of the installation takes part under the name that its place gives it.

The checks are made on the lists as they have been put in order, the draft is judged here as it was
written. Between the two stands `names_perm_of_ordered`: ordering changes the places of names only.

What is refused is refused with reason: every fault that is reported is one that the draft has
(`applies_of_create`), and an admissible draft has none. So nothing is left that could keep it from
becoming a job, which is how `create_admits` is proved, without writing down the job.
-/

namespace BuildLine.Job

open Data (Value)

/-! ### Names -/

/-- A letter or a digit of ASCII, a hyphen or an underscore. -/
def NameChar (c : Char) : Prop :=
  'a' ≤ c ∧ c ≤ 'z' ∨ 'A' ≤ c ∧ c ≤ 'Z' ∨ '0' ≤ c ∧ c ≤ '9' ∨ c = '-' ∨ c = '_'

/-- A text that can be the name of a stage. -/
def WellNamed (n : String) : Prop :=
  n ≠ "" ∧ ∀ c ∈ n.toList, NameChar c

/-- The name of a step of the installation that stands at place `i`. -/
def InstallStep.name (i : Nat) : InstallStep → String
  | .command _ => s!"install-{i}"
  | .stage s => s.name

namespace Draft

/-- The steps of the publish phase. -/
def steps (d : Draft) : List Stage :=
  (d.afterSuccess.map PublishBlock.steps).getD []

theorem mem_steps {d : Draft} {s : Stage} :
    s ∈ d.steps ↔ ∃ b, d.afterSuccess = some b ∧ s ∈ b.steps := by
  cases h : d.afterSuccess with
  | none => simp [steps, h]
  | some b => simp [steps, h]

/-- The names of all stages, in the order in which they were drafted. -/
def names (d : Draft) : List String :=
  d.install.mapIdx InstallStep.name ++ d.script.map Stage.name ++ d.steps.map Stage.name

/-- There is nothing to complain of in the draft. -/
structure Admissible (d : Draft) : Prop where
  toolchain : d.toolchain = .text "stable"
  install : ∀ s, .stage s ∈ d.install → s.role = .install
  script : ∀ s ∈ d.script, s.role ∈ Role.main
  steps : ∀ s ∈ d.steps, s.role ∈ Role.publish
  known : d.unknown = []
  named : ∀ n ∈ d.names, WellNamed n
  distinct : d.names.Nodup

end Draft

/-- The draft has the fault. -/
def SpecFault.Applies (d : Draft) : SpecFault → Prop
  | .unknownRole _ => False
  | .unsupportedToolchain t => t = d.toolchain ∧ t ≠ .text "stable"
  | .misplaced name role phase => ∃ s : Stage, s.name = name ∧ s.role = role ∧
      (phase = "install" ∧ .stage s ∈ d.install ∧ role ≠ .install ∨
        phase = "main" ∧ s ∈ d.script ∧ role ∉ Role.main ∨
        phase = "publish" ∧ s ∈ d.steps ∧ role ∉ Role.publish)
  | .noPlatform => d.platform = none
  | .unknownOptions names => names = d.unknown ∧ names ≠ []
  | .badName n => n ∈ d.names ∧ ¬WellNamed n
  | .nameTaken n => 1 < d.names.count n

/-- An admissible draft with a platform has no fault. -/
theorem Draft.Admissible.not_applies {d : Draft} (h : d.Admissible) (hplatform : d.platform ≠ none)
    (f : SpecFault) : ¬f.Applies d := by
  cases f with
  | unknownRole w => exact id
  | unsupportedToolchain t =>
    rintro ⟨rfl, hne⟩
    exact hne h.toolchain
  | misplaced name role phase =>
    rintro ⟨s, -, rfl, ⟨-, hs, hrole⟩ | ⟨-, hs, hrole⟩ | ⟨-, hs, hrole⟩⟩
    · exact hrole (h.install s hs)
    · exact hrole (h.script s hs)
    · exact hrole (h.steps s hs)
  | noPlatform => exact hplatform
  | unknownOptions names =>
    rintro ⟨rfl, hne⟩
    exact hne h.known
  | badName n =>
    rintro ⟨hn, hbad⟩
    exact hbad (h.named n hn)
  | nameTaken n => exact not_lt.mpr (List.nodup_iff_count_le_one.mp h.distinct n)

namespace Spec

/-! ### The checks one by one -/

theorem isNameChar_iff {c : Char} : isNameChar c = true ↔ NameChar c := by
  simp only [isNameChar, NameChar, Char.isAlphanum, Char.isAlpha, Char.isUpper, Char.isLower,
    Char.isDigit, Bool.or_eq_true, Bool.and_eq_true, decide_eq_true_eq]
  tauto

theorem isName_iff {n : String} : isName n = true ↔ WellNamed n := by
  simp [isName, WellNamed, isNameChar_iff]

/-- **When names pass**: all of them are names, and each of them is new. -/
theorem checkNames_eq_ok_iff {seen ns : List String} :
    checkNames seen ns = .ok () ↔ (∀ n ∈ ns, WellNamed n) ∧ ns.Nodup ∧ ∀ n ∈ ns, n ∉ seen := by
  induction ns generalizing seen with
  | nil => simp [checkNames]
  | cons n ns ih =>
    rw [checkNames]
    split
    · rename_i hbad
      rw [Bool.not_eq_true', ← Bool.not_eq_true, isName_iff] at hbad
      refine iff_of_false nofun ?_
      rintro ⟨hnamed, -⟩
      exact hbad (hnamed n (List.mem_cons_self ..))
    · rename_i hgood
      rw [Bool.not_eq_true, Bool.not_eq_false', isName_iff] at hgood
      split
      · rename_i hseen
        refine iff_of_false nofun ?_
        rintro ⟨-, -, hnew⟩
        exact hnew n (List.mem_cons_self ..) (List.contains_iff_mem.mp hseen)
      · -- the name joins those that were seen, so that it is new is now asked of the rest
        rename_i hseen
        rw [ih, List.forall_mem_cons, List.forall_mem_cons, List.nodup_cons]
        simp only [List.mem_cons, not_or]
        constructor
        · rintro ⟨hnamed, hdistinct, hnew⟩
          refine ⟨⟨hgood, hnamed⟩, ⟨fun hn => (hnew n hn).1 rfl, hdistinct⟩, ?_,
            fun m hm => (hnew m hm).2⟩
          exact fun hn => hseen (List.contains_iff_mem.mpr hn)
        · rintro ⟨⟨-, hnamed⟩, ⟨hn, hdistinct⟩, -, hnew⟩
          exact ⟨hnamed, hdistinct, fun m hm => ⟨fun hmn => hn (hmn ▸ hm), hnew m hm⟩⟩

/-- What is refused for its name is no name or occurs twice. -/
theorem checkNames_eq_error {seen ns : List String} {f : SpecFault}
    (h : checkNames seen ns = .error f) :
    (∃ n ∈ ns, ¬WellNamed n ∧ f = .badName n) ∨
      ∃ n, f = .nameTaken n ∧ 1 < (seen ++ ns).count n := by
  induction ns generalizing seen with
  | nil => cases h
  | cons n ns ih =>
    rw [checkNames] at h
    split at h
    · rename_i hbad
      rw [Bool.not_eq_true', ← Bool.not_eq_true, isName_iff] at hbad
      exact Or.inl ⟨n, List.mem_cons_self .., hbad, (Except.error.inj h).symm⟩
    · split at h
      · -- seen once before and standing here once more
        rename_i hseen
        refine Or.inr ⟨n, (Except.error.inj h).symm, ?_⟩
        have hpos : 0 < seen.count n := List.count_pos_iff.mpr (List.contains_iff_mem.mp hseen)
        rw [List.count_append, List.count_cons_self]
        omega
      · rcases ih h with ⟨m, hm, hbad⟩ | ⟨m, hf, hcount⟩
        · exact Or.inl ⟨m, List.mem_cons_of_mem _ hm, hbad⟩
        · exact Or.inr ⟨m, hf, by rwa [List.perm_middle.count_eq]⟩

theorem ordered_eq_error {allowed : List Role} {phase : String} {stages : List Stage}
    {f : SpecFault} (h : ordered allowed phase stages = .error f) :
    ∃ s ∈ stages, s.role ∉ allowed ∧ f = .misplaced s.name s.role phase := by
  unfold ordered at h
  split at h
  · rename_i s hs
    refine ⟨s, List.mem_of_find?_eq_some hs, ?_, (Except.error.inj h).symm⟩
    simpa using List.find?_some hs
  · cases h

theorem roles_of_orderedBlock {b : PublishBlock} {out : Option PublishBlock}
    (h : orderedBlock (some b) = .ok out) : ∀ s ∈ b.steps, s.role ∈ Role.publish := by
  rw [orderedBlock, bind_eq_ok] at h
  obtain ⟨steps, hsteps, -⟩ := h
  exact (ordered_eq_ok hsteps).2

theorem orderedBlock_eq_error {block : Option PublishBlock} {f : SpecFault}
    (h : orderedBlock block = .error f) :
    ∃ b, block = some b ∧ ordered Role.publish "publish" b.steps = .error f := by
  cases block with
  | none => cases h
  | some b =>
    rw [orderedBlock, bind_eq_error] at h
    rcases h with h | ⟨steps, -, h⟩
    · exact ⟨b, rfl, h⟩
    · cases h

theorem checkToolchain_eq_ok_iff {t : Value} {toolchain : String} :
    checkToolchain t = .ok toolchain ↔ toolchain = "stable" ∧ t = .text "stable" := by
  constructor
  · intro h
    obtain rfl := checkToolchain_eq_ok h
    simp only [checkToolchain] at h
    split at h
    · rename_i hstable
      obtain rfl : toolchain = "stable" := by simpa [toolchains] using hstable
      exact ⟨rfl, rfl⟩
    · cases h
  · rintro ⟨rfl, rfl⟩
    rfl

theorem checkToolchain_eq_error {t : Value} {f : SpecFault} (h : checkToolchain t = .error f) :
    f = .unsupportedToolchain t ∧ t ≠ .text "stable" := by
  refine ⟨?_, ?_⟩
  · unfold checkToolchain at h
    split at h
    · split at h
      · cases h
      · exact (Except.error.inj h).symm
    · exact (Except.error.inj h).symm
  · rintro rfl
    rw [checkToolchain_eq_ok_iff.mpr ⟨rfl, rfl⟩] at h
    cases h

/-! ### Names before and after ordering -/

theorem names_installStages (i : Nat) (steps : List InstallStep) :
    (installStages i steps).map Stage.name = steps.mapIdx fun j => InstallStep.name (i + j) := by
  induction steps generalizing i with
  | nil => rfl
  | cons step steps ih =>
    have hplace : (fun j => InstallStep.name (i + (j + 1))) =
        fun j => InstallStep.name (i + 1 + j) := by
      funext j
      rw [Nat.add_right_comm, Nat.add_assoc]
    rw [List.mapIdx_cons, hplace, ← ih]
    cases step <;> rfl

variable {d : Draft} {spec : Spec}

theorem publishSteps_perm (h : orderedBlock d.afterSuccess = .ok spec.afterSuccess) :
    spec.publishSteps.Perm d.steps := by
  have hblock := orderedBlock_eq_ok_iff.mp h
  unfold publishSteps
  split
  · rename_i hnone
    rw [hnone] at hblock
    cases hd : d.afterSuccess with
    | none => simp [Draft.steps, hd]
    | some b =>
      rw [hd] at hblock
      cases hblock
  · rename_i b' hsome
    rw [hsome] at hblock
    obtain ⟨b, hb, -, hsteps⟩ := hblock.exists_left
    simpa [Draft.steps, hb] using (arranges_of_ordered hsteps).perm

theorem mainStages_perm
    (hinstall : ordered [.install] "install" (installStages 0 d.install) = .ok spec.install)
    (hscript : ordered Role.main "main" d.script = .ok spec.script) :
    spec.mainStages.Perm (installStages 0 d.install ++ d.script) :=
  (arranges_of_ordered hinstall).perm.append (arranges_of_ordered hscript).perm

/-- Ordering changes the places of names only. -/
theorem names_perm_of_ordered
    (hinstall : ordered [.install] "install" (installStages 0 d.install) = .ok spec.install)
    (hscript : ordered Role.main "main" d.script = .ok spec.script)
    (hblock : orderedBlock d.afterSuccess = .ok spec.afterSuccess) :
    (spec.stages.map Stage.name).Perm d.names := by
  have hnames : d.names = (installStages 0 d.install ++ d.script ++ d.steps).map Stage.name := by
    simp [Draft.names, names_installStages]
  rw [hnames]
  exact ((mainStages_perm hinstall hscript).append (publishSteps_perm hblock)).map _

/-! ### Admission -/

theorem mem_installStages_of_stage {s : Stage} {steps : List InstallStep} (i : Nat)
    (hs : .stage s ∈ steps) : s ∈ installStages i steps := by
  induction steps generalizing i with
  | nil => cases hs
  | cons step steps ih =>
    rcases List.mem_cons.mp hs with rfl | hrest
    · exact List.mem_cons_self ..
    · cases step with
      | command run => exact List.mem_cons_of_mem _ (ih (i + 1) hrest)
      | stage s' => exact List.mem_cons_of_mem _ (ih (i + 1) hrest)

/-- What became a job was admissible. -/
theorem Makes.admissible (h : Makes d spec) : d.Admissible := by
  have hperm := names_perm_of_ordered h.install h.script h.block
  obtain ⟨hnamed, hdistinct, -⟩ := checkNames_eq_ok_iff.mp h.names
  exact
    { toolchain := (checkToolchain_eq_ok_iff.mp h.toolchain).2
      install := fun s hs => by
        simpa using (ordered_eq_ok h.install).2 s (mem_installStages_of_stage 0 hs)
      script := (ordered_eq_ok h.script).2
      steps := fun s hs => by
        obtain ⟨b, hb, hmem⟩ := Draft.mem_steps.mp hs
        exact roles_of_orderedBlock (hb ▸ h.block) s hmem
      known := h.known
      named := fun n hn => hnamed n (hperm.mem_iff.mpr hn)
      distinct := hperm.nodup_iff.mp hdistinct }

/-- **What is reported is so**: a fault that keeps a draft from becoming a job is one that it
has. -/
theorem applies_of_create {f : SpecFault} (h : create d = .error f) : f.Applies d := by
  simp only [create, bind_eq_error] at h
  rcases h with h | ⟨toolchain, -, h | ⟨install, hinstall, h | ⟨script, hscript, h |
    ⟨block, hblock, h⟩⟩⟩⟩
  · obtain ⟨rfl, hne⟩ := checkToolchain_eq_error h
    exact ⟨rfl, hne⟩
  · obtain ⟨s, hs, hrole, rfl⟩ := ordered_eq_error h
    -- a bare command has the role of the installation, so it is a stage that is misplaced
    rcases mem_installStages hs with hstep | ⟨run, i, -, rfl⟩
    · exact ⟨s, rfl, rfl, Or.inl ⟨rfl, hstep, by simpa using hrole⟩⟩
    · exact absurd (List.mem_singleton_self _) hrole
  · obtain ⟨s, hs, hrole, rfl⟩ := ordered_eq_error h
    exact ⟨s, rfl, rfl, Or.inr (Or.inl ⟨rfl, hs, hrole⟩)⟩
  · obtain ⟨b, hb, h⟩ := orderedBlock_eq_error h
    obtain ⟨s, hs, hrole, rfl⟩ := ordered_eq_error h
    exact ⟨s, rfl, rfl, Or.inr (Or.inr ⟨rfl, Draft.mem_steps.mpr ⟨b, hb, hs⟩, hrole⟩)⟩
  · split at h
    · rename_i platform hplatform
      split at h
      · rename_i hunknown
        obtain rfl := Except.error.inj h
        exact ⟨rfl, by simpa using hunknown⟩
      · rw [bind_eq_error] at h
        rcases h with h | ⟨⟨⟩, -, h⟩
        · let spec : Spec := ⟨platform, toolchain, install, script, block, d.language, d.env⟩
          have hperm : (spec.stages.map Stage.name).Perm d.names :=
            names_perm_of_ordered hinstall hscript hblock
          rcases checkNames_eq_error h with ⟨n, hn, hbad, rfl⟩ | ⟨n, rfl, hcount⟩
          · exact ⟨hperm.mem_iff.mp hn, hbad⟩
          · rw [List.nil_append, hperm.count_eq] at hcount
            exact hcount
        · cases h
    · rename_i hnone
      obtain rfl := Except.error.inj h
      exact Option.eq_none_iff_forall_ne_some.mpr hnone

theorem isComplaint_of_applies {f : SpecFault} (h : f.Applies d) (hplatform : d.platform ≠ none) :
    (Manifest.Fault.spec f).isComplaint = true := by
  cases f with
  | noPlatform => exact absurd h hplatform
  | _ => rfl

/-- **Exactly the admissible drafts become a job**, and every other draft is refused with a
complaint about a fault that it has. -/
theorem create_admits {platform : Value} (h : d.platform = some platform) :
    ((∃ spec, create d = .ok spec) ↔ d.Admissible) ∧
      (¬d.Admissible → ∃ f, create d = .error f ∧
        (Manifest.Fault.spec f).isComplaint = true ∧ f.Applies d) := by
  have hplatform : d.platform ≠ none := by simp [h]
  cases hd : create d with
  | ok spec =>
    have hadmissible := (create_eq_ok_iff.mp hd).admissible
    exact ⟨iff_of_true ⟨spec, rfl⟩ hadmissible, fun hnot => absurd hadmissible hnot⟩
  | error f =>
    -- an admissible draft would have no fault, and this one has the one reported
    have happlies := applies_of_create hd
    exact ⟨iff_of_false nofun fun hd => hd.not_applies hplatform f happlies,
      fun _ => ⟨f, rfl, isComplaint_of_applies happlies hplatform, happlies⟩⟩

/-- A bare command and a step of the publish phase that share a name. -/
theorem create_admits_taken :
    let publishing (name : String) : Option PublishBlock :=
      some { rule := { branch := "main" }, steps := [{ name, run := "git push", role := .push }] }
    let d (name : String) : Draft :=
      { platform := some (.text "linux"), install := [.command "make deps", .command "make tools"]
        script := [{ name := "build", run := "make", role := .build }]
        afterSuccess := publishing name }
    (d "push").Admissible ∧ (∃ spec, create (d "push") = .ok spec) ∧
      ¬(d "install-1").Admissible ∧
      ∃ f, create (d "install-1") = .error f ∧ (Manifest.Fault.spec f).isComplaint = true ∧
        f.Applies (d "install-1") := by
  intro publishing d
  have hnames (name : String) : (d name).names = ["install-0", "install-1", "build", name] := rfl
  have hadmissible : (d "push").Admissible :=
    { toolchain := rfl
      install := by simp [d]
      script := by simp [d, Role.main]
      steps := by simp [d, publishing, Draft.steps, Role.publish]
      known := rfl
      named := fun n hn => isName_iff.mp (by
        rw [hnames] at hn
        fin_cases hn <;> cbv)
      distinct := by
        rw [hnames]
        decide }
  have hrefused : ¬(d "install-1").Admissible := fun h => by
    have hdistinct := h.distinct
    rw [hnames] at hdistinct
    exact absurd hdistinct (by decide)
  exact ⟨hadmissible, (create_admits rfl).1.mpr hadmissible, hrefused,
    (create_admits rfl).2 hrefused⟩

end Spec

end BuildLine.Job
