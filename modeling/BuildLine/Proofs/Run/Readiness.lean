import BuildLine.Proofs.Files.Pattern
import BuildLine.Proofs.Job.Entries
import BuildLine.Proofs.Run.Following
import BuildLine.Proofs.Run.Halt

/-!
# Which accepted jobs come to an outcome

That a manifest is accepted does not mean that its job can be run. A stage has to start, and it
cannot if its pattern is none or if its directory has no place; neither is looked at when the
manifest is read, except that a pattern is not empty and does not begin at the root. Where such a
stage stands behind a command that does not pass, the run never comes to it, so whether a run of a
script breaks down depends on the way up to the stage, too (`Clear`).

The main statement, `outcome_iff_clear`, is that a run of an accepted job comes to an outcome
exactly if its way is clear.
-/

namespace BuildLine

open Data (Table)
open Files Job Log

namespace Job.Stage

/-- **The stage can start**, whatever its commands are. -/
structure CanStart (stage : Stage) (tree : Tree) (root : Place) : Prop where
  /-- Its pattern, if it has one, is sound. -/
  pattern : ∀ p, stage.pattern? = some p → Pattern.Sound p
  /-- Its directory has a place. -/
  directory : ∃ place, tree.settle (stage.directory root) = .ok place

theorem commands_isOk_iff (stage : Stage) (tree : Tree) (root : Place) (ctx : Context) :
    (stage.commands tree root ctx).isOk = true ↔
      ∀ p, stage.pattern? = some p → (Pattern.parse p).isOk = true := by
  unfold commands pattern?
  cases stage.work with
  | once v => exact iff_of_true rfl nofun
  | forEach p =>
    simp only [discover, Option.some.injEq, forall_eq']
    cases Pattern.parse p <;> exact Iff.rfl

end Job.Stage

namespace Run

variable {script : Script} {secrets : Secrets}

/-- A stage whose pattern does not begin at the root is ready if it can start. -/
theorem ready_iff {w : Surroundings σ} {tree : Tree} {stage : Stage} (hrelative : stage.Relative) :
    ready w tree stage = true ↔ stage.CanStart tree w.root := by
  have hdirectory : (tree.settle (stage.directory w.root)).isOk = true ↔
      ∃ place, tree.settle (stage.directory w.root) = .ok place := by
    cases tree.settle (stage.directory w.root) with
    | error snag => exact iff_of_false nofun nofun
    | ok place => exact iff_of_true rfl ⟨place, rfl⟩
  rw [ready, Bool.and_eq_true, Stage.commands_isOk_iff, hdirectory]
  constructor
  · rintro ⟨hpattern, hplace⟩
    exact ⟨fun p hp => ((Pattern.parse_isOk_iff p).mp (hpattern p hp)).2.2, hplace⟩
  · rintro ⟨hpattern, hplace⟩
    refine ⟨fun p hp => (Pattern.parse_isOk_iff p).mpr ?_, hplace⟩
    exact ⟨(hrelative p hp).1, (hrelative p hp).2, hpattern p hp⟩

/-! ### Scripts that do not fail -/

namespace Script

/-- The script lets the command pass. -/
def LetsPass (script : Script) (command : String) : Prop :=
  script.replyTo command = .exit 0

/-- The executor is never told to fail: a command ends with an exit code, or the run is
interrupted. -/
def Tame (script : Script) : Prop :=
  ∀ e ∈ script.replies, ∀ m, e.2 ≠ .fail m

theorem passes_replyFor_iff (command : String) :
    (script.replyFor command).Passes ↔ script.LetsPass command := by
  unfold replyFor LetsPass Reply.Passes
  cases script.replyTo command <;> simp

theorem Tame.replyTo_ne_fail (h : script.Tame) (command m : String) :
    script.replyTo command ≠ .fail m := by
  unfold replyTo
  split
  · exact h _ (List.mem_of_find?_eq_some (by assumption)) m
  · nofun

theorem Tame.stop?_ne_broken (h : script.Tame) (command : String) (f : Failure) :
    (script.replyFor command).stop? ≠ some (.broken f) := by
  unfold replyFor
  cases hreply : script.replyTo command with
  | exit code =>
    simp only [Reply.stop?]
    split <;> simp
  | cancel m => simp [Reply.stop?]
  | fail m => exact absurd hreply (h.replyTo_ne_fail command m)

variable (script)

theorem tree_eq {w : Surroundings State} (hw : w.executor = script.executor) (st : State) :
    w.executor.tree st = st.tree := by
  rw [hw]
  rfl

/-- Nothing stops attempts at tasks if the script lets all of their commands pass. -/
theorem stopOf_attempts_iff (ts : List Task) (st : State) :
    stopOf (attempts script.executor secrets ts st).1 = none ↔
      ∀ t ∈ ts, script.LetsPass t.call.command := by
  induction ts generalizing st with
  | nil => exact iff_of_true rfl (by simp)
  | cons t ts ih =>
    have hreply : (script.executor.attempt secrets t st).1.reply =
        script.replyFor t.call.command := script.reply_attempt t st
    rw [List.forall_mem_cons, ← passes_replyFor_iff, ← Reply.stop?_eq_none, ← hreply]
    cases hstop : (script.executor.attempt secrets t st).1.reply.stop? with
    | none =>
      rw [attempts_cons_of_none ts hstop, stopOf_cons, hstop, Option.none_or, ih, and_iff_right rfl]
    | some e => simp [attempts_cons_of_some ts hstop, stopOf_cons, hstop]

theorem reply_of_mem_attempts {ts : List Task} {st : State} {a : Attempt}
    (h : a ∈ (attempts script.executor secrets ts st).1) :
    a.reply = script.replyFor a.call.command := by
  induction ts generalizing st with
  | nil => cases h
  | cons t ts ih =>
    have hfirst : (script.executor.attempt secrets t st).1.reply =
        script.replyFor (script.executor.attempt secrets t st).1.call.command :=
      script.reply_attempt t st
    cases hstop : (script.executor.attempt secrets t st).1.reply.stop? with
    | none =>
      rw [attempts_cons_of_none ts hstop] at h
      rcases List.mem_cons.mp h with rfl | h
      · exact hfirst
      · exact ih h
    | some e =>
      rw [attempts_cons_of_some ts hstop] at h
      obtain rfl := List.mem_singleton.mp h
      exact hfirst

/-- Nothing breaks down where a script is tame. -/
theorem stopOf_attempts_ne_broken (h : script.Tame) (ts : List Task) (st : State) (f : Failure) :
    stopOf (attempts script.executor secrets ts st).1 ≠ some (.broken f) := by
  intro hbroken
  obtain ⟨front, a, has, -, hstop⟩ := attempts_of_some hbroken
  have ha : a ∈ (attempts script.executor secrets ts st).1 := by simp [has]
  rw [reply_of_mem_attempts script ha] at hstop
  exact h.stop?_ne_broken _ f hstop

end Script

/-! ### The way through a phase -/

/-- The script lets all commands of the stage pass. -/
def LetsThrough (script : Script) (w : Surroundings σ) (tree : Tree) (stage : Stage) : Prop :=
  ∀ command ∈ commandsOf w tree stage, script.LetsPass command

/-- **The way through stages is clear**: every stage that is come to can start. A stage is come to
if the script lets the run through all stages before it. -/
def Clear (script : Script) (w : Surroundings σ) (tree : Tree) : List Stage → Prop
  | [] => True
  | stage :: stages =>
    stage.CanStart tree w.root ∧ (LetsThrough script w tree stage → Clear script w tree stages)

section Phase

variable {w : Surroundings Script.State} {stage : Stage}

/-- A stage that cannot start breaks the phase down. -/
theorem stop?_visit_of_stuck (hw : w.executor = script.executor) (hrelative : stage.Relative)
    (secrets : Secrets) (index : Nat) {st : Script.State}
    (h : ¬ stage.CanStart st.tree w.root) :
    ∃ f, (visit w secrets index stage st).1.stop? = some (.broken f) := by
  rw [← ready_iff hrelative] at h
  obtain ⟨f, htasks⟩ := tasksOf_of_not_ready h index
  rw [← script.tree_eq hw] at htasks
  exact ⟨f, (visit_of_error secrets htasks).2.2⟩

/-- A stage that can start lets the phase go on if the script lets all of its commands pass, and
does not break it down otherwise. -/
theorem stop?_visit_of_canStart (hw : w.executor = script.executor) (htame : script.Tame)
    (hrelative : stage.Relative) (secrets : Secrets) (index : Nat) {st : Script.State}
    (h : stage.CanStart st.tree w.root) :
    ((visit w secrets index stage st).1.stop? = none ↔ LetsThrough script w st.tree stage) ∧
      ∀ f, (visit w secrets index stage st).1.stop? ≠ some (.broken f) := by
  obtain ⟨tasks, htasks, -⟩ := tasksOf_of_ready ((ready_iff hrelative).mpr h) index
  have hcommands := commands_of_tasksOf htasks
  rw [← script.tree_eq hw] at htasks
  obtain ⟨-, -, hstop⟩ := visit_of_ok secrets htasks
  rw [hstop, hw, script.stopOf_attempts_iff, LetsThrough, commandsOf, hcommands]
  exact ⟨by simp [Except.toOption], script.stopOf_attempts_ne_broken htame tasks st⟩

/-- A phase leaves the files alone. -/
theorem tree_visits (hw : w.executor = script.executor) (secrets : Secrets) (index : Nat)
    (stages : List Stage) (st : Script.State) :
    (visits w secrets index stages st).2.tree = st.tree := by
  obtain ⟨-, hleft, -⟩ := visits_eq_plan (hw ▸ script.still) secrets index stages st
  rw [hleft, hw]
  exact script.still.tree_attempts _ st

/-- **How a phase ends that follows a script**: it breaks down unless its way is clear, and it
finishes if its way is clear and all commands pass. -/
theorem endingOf_visits_script (hw : w.executor = script.executor) (htame : script.Tame)
    (secrets : Secrets) (index : Nat) (stages : List Stage) (st : Script.State)
    (hrelative : ∀ stage ∈ stages, stage.Relative) :
    let ending := endingOf (visits w secrets index stages st).1
    ((∃ i n f, ending = .stopped i n (.broken f)) ↔ ¬ Clear script w st.tree stages) ∧
      (ending = .finished ↔
        Clear script w st.tree stages ∧ ∀ stage ∈ stages, LetsThrough script w st.tree stage) := by
  induction stages generalizing index st with
  | nil => exact ⟨iff_of_false nofun (by simp [Clear]), iff_of_true rfl ⟨trivial, by simp⟩⟩
  | cons stage stages ih =>
    intro ending
    rw [List.forall_mem_cons] at hrelative
    have hstopped {e : Stop} (h : (visit w secrets index stage st).1.stop? = some e) :
        ending = .stopped index stage.name e := by
      simp only [ending, visits_cons_of_some stages h, endingOf_cons_of_some _ h]
      rfl
    by_cases hstart : stage.CanStart st.tree w.root
    · obtain ⟨hthrough, hsound⟩ :=
        stop?_visit_of_canStart hw htame hrelative.1 secrets index hstart
      cases hnext : (visit w secrets index stage st).1.stop? with
      | none =>
        -- the phase goes on, with the same files
        have htree : (visit w secrets index stage st).2.tree = st.tree := by
          have hfirst := tree_visits hw secrets index [stage] st
          rwa [visits_cons_of_none [] hnext] at hfirst
        obtain ⟨hbroken, hfinished⟩ := ih (index + 1) (visit w secrets index stage st).2 hrelative.2
        rw [htree] at hbroken hfinished
        have hend : ending = endingOf (visits w secrets (index + 1) stages
            (visit w secrets index stage st).2).1 := by
          simp only [ending, visits_cons_of_none stages hnext, endingOf_cons_of_none _ hnext]
        have hclear : Clear script w st.tree (stage :: stages) ↔ Clear script w st.tree stages :=
          ⟨fun h => h.2 (hthrough.mp hnext), fun h => ⟨hstart, fun _ => h⟩⟩
        rw [hend, hclear, List.forall_mem_cons, and_iff_right (hthrough.mp hnext)]
        exact ⟨hbroken, hfinished⟩
      | some e =>
        -- a command of the stage stops the phase, and no stage after it is come to
        have hnot : ¬ LetsThrough script w st.tree stage := by
          rw [← hthrough, hnext]
          nofun
        rw [hstopped hnext]
        refine ⟨iff_of_false ?_ fun hblocked => ?_, iff_of_false nofun fun hall => ?_⟩
        · rintro ⟨i, n, f, hbroken⟩
          exact hsound f (by rw [hnext, (Ending.stopped.inj hbroken).2.2])
        · exact hblocked ⟨hstart, fun h => absurd h hnot⟩
        · exact hnot (hall.2 stage (List.mem_cons_self ..))
    · -- the stage is come to and cannot start
      obtain ⟨f, hbroken⟩ := stop?_visit_of_stuck hw hrelative.1 secrets index hstart
      rw [hstopped hbroken]
      exact ⟨iff_of_true ⟨_, _, f, rfl⟩ fun h => hstart h.1,
        iff_of_false nofun fun h => hstart h.1.1⟩

end Phase

/-! ### Runs -/

namespace Order

theorem publishing_subset {spec : Spec} {ctx : Context} :
    spec.publishing ctx ⊆ spec.publishSteps :=
  (spec.publishing_sublist ctx).subset

variable {o : Order Script.State} {settings : Settings} {document : Table} {spec : Spec}

/-- **A run of an accepted job comes to an outcome exactly if its way is clear**: through the main
phase, and if the script lets it through there, through what is published. Nothing else breaks down
where the executor is not told to fail. -/
theorem outcome_iff_clear (ho : o.executor = script.executor)
    (hparse : Manifest.parse settings document = .ok spec) (htame : script.Tame) (ctx : Context)
    (journal : Journal) (st : Script.State) :
    let w := o.surroundings spec ctx
    (∃ out, (o.run spec ctx journal st).outcome = .ok out) ↔
      Clear script w st.tree spec.mainStages ∧
        ((∀ stage ∈ spec.mainStages, LetsThrough script w st.tree stage) →
          Clear script w st.tree (spec.publishing ctx)) := by
  intro w
  have hrelative : ∀ stage ∈ spec.stages, stage.Relative :=
    fun stage hstage => Manifest.relative_of_mem_stages hparse hstage
  have hmain := endingOf_visits_script (w := w) ho htame (startJournal ctx journal).secrets 0
    spec.mainStages st fun stage hstage => hrelative stage (List.mem_append_left _ hstage)
  rw [run_eq, exists_outcome_iff, mainVisits, hmain.1, not_not]
  refine and_congr_right fun hclear => ?_
  have hfinished := hmain.2.trans (and_iff_right hclear)
  cases hend : endingOf (visits w (startJournal ctx journal).secrets 0 spec.mainStages st).1 with
  | stopped index stage e =>
    -- nothing is published, and the script does not let the run through
    rw [hend] at hfinished
    rw [o.publishVisits_of_stopped spec ctx (startJournal ctx journal).secrets st hend]
    refine iff_of_true ?_ fun hall => ?_
    · rintro ⟨i, n, f, hbroken⟩
      cases hbroken
    · cases hfinished.mpr hall
  | finished =>
    -- the publish phase starts with the files that the main phase has started with
    have hpublish := o.publishVisits_of_finished spec ctx (startJournal ctx journal).secrets st hend
    have hsteps := endingOf_visits_script (w := w) ho htame (startJournal ctx journal).secrets 0
      (spec.publishing ctx) (o.mainVisits spec ctx (startJournal ctx journal).secrets st).2
      fun stage hstage => hrelative stage (List.mem_append_right _ (publishing_subset hstage))
    rw [hpublish, hsteps.1, not_not, mainVisits, tree_visits ho]
    exact ⟨fun h _ => h, fun h => h (hfinished.mp hend)⟩

/-- A manifest with one entry, which runs for the files that a pattern finds. -/
def checkDocument (pattern : String) : Table :=
  [("job", .table [("script", .list [.table
    [("name", .text "check"), ("run", .text "check \x7bfile\x7d"), ("role", .text "test"),
     ("for_each", .text pattern)]])])]

/-- The specification of such a manifest. -/
def checkSpec (pattern : String) : Spec :=
  { platform := .text "linux", toolchain := "stable", install := []
    script := [
      { name := "check", run := "check \x7bfile\x7d", role := .test, work := .forEach pattern }] }

/-- A run for a branch that publishes nothing. -/
def checkContext : Context :=
  { branch := "feature", isPullRequest := false, credential := none, repoSlug := none }

/-- The way to an outcome is clear where the pattern is sound. -/
theorem outcome_iff_clear_check :
    let o : Order Script.State := { executor := Script.executor {}, root := ["job"] }
    Manifest.parse {} (checkDocument "*.md") = .ok (checkSpec "*.md") ∧
      ∃ out, (o.run (checkSpec "*.md") checkContext {} {}).outcome = .ok out := by
  intro o
  have hparse : Manifest.parse {} (checkDocument "*.md") = .ok (checkSpec "*.md") := by cbv
  have htame : Script.Tame {} := by simp [Script.Tame]
  have hsound : Pattern.Sound "*.md" := by
    have hnames : Written.namesOf "*.md" = ["*.md"] := by cbv
    exact ⟨by simp [hnames], by simp [hnames]; decide⟩
  refine ⟨hparse, (outcome_iff_clear rfl hparse htame checkContext {} {}).mpr
    ⟨⟨⟨?_, ⟨["job"], by cbv⟩⟩, fun _ => trivial⟩, fun _ => trivial⟩⟩
  rintro p ⟨⟩
  exact hsound

/-- **An accepted job that comes to no outcome**: its pattern is none. -/
theorem outcome_of_stars_in_name :
    let o : Order Script.State := { executor := Script.executor {}, root := ["job"] }
    Manifest.parse {} (checkDocument "book**") = .ok (checkSpec "book**") ∧
      (o.run (checkSpec "book**") checkContext {} {}).outcome =
        .error (.pattern .starsInName) := by
  intro o
  have hsecrets : (startJournal checkContext {}).secrets = [] := rfl
  have hbroken : o.madeOutcome (checkSpec "book**") checkContext [] {} =
      .error (.pattern .starsInName) := by cbv
  refine ⟨by cbv, ?_⟩
  rw [run_eq, hsecrets, hbroken]

end Order

end Run

end BuildLine
