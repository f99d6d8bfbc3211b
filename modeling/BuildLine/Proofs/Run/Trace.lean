import Mathlib
import BuildLine.Proofs.Run.Plan

/-!
# The calls that a run makes

Nothing is known of an executor but that it answers, and that its answer may depend on every call
that was made before. Such an executor is `Executor.answering`: its states are the calls themselves,
so the state that a run leaves is the list of all calls that it made. Where the files stay as they
are, this list is determined by the plans of the two phases and by the answers. Of its plan a phase
makes the calls up to the first one that does not pass (`Cut`), and the publish phase makes its
calls only if the whole plan of the main phase has passed. The results are those of the calls that
were answered with a status, in order (`run_calls`).
-/

namespace BuildLine.Run

open Files Job Log

/-- The executor that leaves the files alone and gives to each call the answer that belongs to the
list of all calls up to it. -/
def Executor.answering (tree : Tree) (answer : List Call → List Notice × Reply) :
    Executor (List Call) where
  run _ call calls :=
    ((answer (calls ++ [call])).1, (answer (calls ++ [call])).2, calls ++ [call])
  tree _ := tree

/-- The command ran to its end, in time and without an error. -/
def Reply.Passes (r : Reply) : Prop :=
  ∃ s : CommandStatus, r = .status s ∧ s.exitCode = 0 ∧ s.timedOut = false

/-- All of the tasks pass if they are tried one after the other after the calls `before`. -/
def AllPass (answer : List Call → List Notice × Reply) (before : List Call) (ts : List Task) :
    Prop :=
  ∀ us, us <+: ts → us ≠ [] → (answer (before ++ us.map Task.call)).2.Passes

/-- **The cut of a plan**: what is made of it after the calls `before`. It ends with the first call
that does not pass, or with the plan. -/
structure Cut (answer : List Call → List Notice × Reply) (before : List Call)
    (planned made : List Task) : Prop where
  /-- What is made is the beginning of what is planned. -/
  isPrefix : made <+: planned
  /-- Every call but the last one passes. -/
  passes : ∀ us, us <+: made → us ≠ [] → us ≠ made →
    (answer (before ++ us.map Task.call)).2.Passes
  /-- If the plan goes on, the last call does not pass. -/
  complete : made = planned ∨ made ≠ [] ∧ ¬ (answer (before ++ made.map Task.call)).2.Passes

/-- Tasks with the answers that they get after the calls `before`. -/
def answered (answer : List Call → List Notice × Reply) (before : List Call) :
    List Task → List Attempt
  | [] => []
  | t :: ts =>
    let a := answer (before ++ [t.call])
    { t with notices := a.1, reply := a.2 } :: answered answer (before ++ [t.call]) ts

variable {answer : List Call → List Notice × Reply} {before : List Call} {tree : Tree}
  {secrets : Secrets}

theorem Executor.still_answering (tree : Tree) (answer : List Call → List Notice × Reply) :
    (Executor.answering tree answer).Still :=
  fun _ _ _ => rfl

theorem Reply.stop?_eq_none {r : Reply} : r.stop? = none ↔ r.Passes := by
  cases r with
  | status s =>
    simp only [Reply.stop?, verdict, Reply.Passes, Reply.status.injEq, exists_eq_left']
    split_ifs <;> simp_all
  | cancelled m => simp [Reply.stop?, Reply.Passes]
  | failed f => simp [Reply.stop?, Reply.Passes]

/-! ### Cuts -/

namespace Cut

theorem nil : Cut answer before [] [] where
  isPrefix := List.prefix_rfl
  passes _ hus hne _ := absurd (List.prefix_nil.mp hus) hne
  complete := Or.inl rfl

theorem single {t : Task} (ts : List Task) (h : ¬ (answer (before ++ [t.call])).2.Passes) :
    Cut answer before (t :: ts) [t] where
  isPrefix := List.cons_prefix_cons.mpr ⟨rfl, List.nil_prefix⟩
  passes us hus hne hne' := by
    rcases List.prefix_cons_iff.mp hus with rfl | ⟨vs, rfl, hvs⟩
    · exact absurd rfl hne
    · obtain rfl := List.prefix_nil.mp hvs
      exact absurd rfl hne'
  complete := Or.inr ⟨List.cons_ne_nil _ _, h⟩

theorem cons {t : Task} {planned made : List Task} (h : (answer (before ++ [t.call])).2.Passes)
    (hcut : Cut answer (before ++ [t.call]) planned made) :
    Cut answer before (t :: planned) (t :: made) where
  isPrefix := List.cons_prefix_cons.mpr ⟨rfl, hcut.isPrefix⟩
  passes us hus hne hne' := by
    -- such a beginning is the first task alone or goes on with a beginning of the rest
    rcases List.prefix_cons_iff.mp hus with rfl | ⟨vs, rfl, hvs⟩
    · exact absurd rfl hne
    · by_cases hnil : vs = []
      · subst hnil
        exact h
      · have hpasses := hcut.passes vs hvs hnil fun heq => hne' (by rw [heq])
        rwa [List.append_assoc] at hpasses
  complete := by
    rcases hcut.complete with rfl | ⟨hne, hlast⟩
    · exact Or.inl rfl
    · rw [List.append_assoc] at hlast
      exact Or.inr ⟨List.cons_ne_nil _ _, hlast⟩

/-- If everything passes, the cut is the whole plan. -/
theorem eq_of_allPass {planned made : List Task} (h : Cut answer before planned made)
    (hall : AllPass answer before made) : made = planned := by
  rcases h.complete with heq | ⟨hne, hlast⟩
  · exact heq
  · exact absurd (hall made List.prefix_rfl hne) hlast

theorem eq_of_isPrefix {planned a b : List Task} (ha : Cut answer before planned a)
    (hb : Cut answer before planned b) (hab : a <+: b) : a = b := by
  by_contra hne
  -- if the shorter one ended before its plan, its last call would have to pass in the longer one
  rcases ha.complete with rfl | ⟨hnil, hlast⟩
  · exact hne (hab.eq_of_length (le_antisymm hab.length_le hb.isPrefix.length_le))
  · exact hlast (hb.passes a hab hnil hne)

/-- **A plan has one cut.** -/
theorem unique {planned a b : List Task} (ha : Cut answer before planned a)
    (hb : Cut answer before planned b) : a = b := by
  rcases List.prefix_or_prefix_of_prefix ha.isPrefix hb.isPrefix with hab | hba
  · exact ha.eq_of_isPrefix hb hab
  · exact (hb.eq_of_isPrefix ha hba).symm

end Cut

/-! ### Attempts with answers -/

/-- **Trying the tasks of a plan makes its cut.** -/
theorem attempts_answering (tree : Tree) (answer : List Call → List Notice × Reply)
    (secrets : Secrets) (ts : List Task) (before : List Call) :
    ∃ made, Cut answer before ts made ∧
      attempts (Executor.answering tree answer) secrets ts before =
        (answered answer before made, before ++ made.map Task.call) := by
  -- the state of the executor is what was called before, so it grows along the tasks
  induction ts generalizing before with
  | nil => exact ⟨[], Cut.nil, by simp [answered]⟩
  | cons t ts ih =>
    let ex := Executor.answering tree answer
    have hreply : (ex.attempt secrets t before).1.reply = (answer (before ++ [t.call])).2 := rfl
    cases hstop : (ex.attempt secrets t before).1.reply.stop? with
    | none =>
      obtain ⟨made, hcut, hmade⟩ := ih (before ++ [t.call])
      refine ⟨t :: made, hcut.cons (Reply.stop?_eq_none.mp (hreply ▸ hstop)), ?_⟩
      rw [attempts_cons_of_none ts hstop]
      have hleft : (ex.attempt secrets t before).2 = before ++ [t.call] := rfl
      rw [hleft, hmade]
      simp only [List.append_assoc, List.singleton_append, List.map_cons]
      rfl
    | some e =>
      refine ⟨[t], Cut.single ts fun hpasses => ?_, ?_⟩
      · rw [hreply, Reply.stop?_eq_none.mpr hpasses] at hstop
        cases hstop
      · rw [attempts_cons_of_some ts hstop]
        rfl

theorem allPass_cons {t : Task} {ts : List Task} :
    AllPass answer before (t :: ts) ↔
      (answer (before ++ [t.call])).2.Passes ∧ AllPass answer (before ++ [t.call]) ts := by
  constructor
  · intro h
    refine ⟨h [t] (List.cons_prefix_cons.mpr ⟨rfl, List.nil_prefix⟩) (List.cons_ne_nil _ _),
      fun us hus _ => ?_⟩
    have hpasses := h (t :: us) (List.cons_prefix_cons.mpr ⟨rfl, hus⟩) (List.cons_ne_nil _ _)
    rwa [List.append_assoc]
  · rintro ⟨hfirst, hrest⟩ us hus hne
    rcases List.prefix_cons_iff.mp hus with rfl | ⟨vs, rfl, hvs⟩
    · exact absurd rfl hne
    · by_cases hnil : vs = []
      · subst hnil
        exact hfirst
      · have hpasses := hrest vs hvs hnil
        rwa [List.append_assoc] at hpasses

/-- Answers stop a phase unless all of them pass. -/
theorem stopOf_answered (ts : List Task) (before : List Call) :
    stopOf (answered answer before ts) = none ↔ AllPass answer before ts := by
  induction ts generalizing before with
  | nil => exact ⟨fun _ us hus hne => absurd (List.prefix_nil.mp hus) hne, fun _ => rfl⟩
  | cons t ts ih =>
    rw [answered, stopOf_cons, Option.or_eq_none_iff, Reply.stop?_eq_none, ih, allPass_cons]

theorem mem_answered {ts : List Task} {a : Attempt} (h : a ∈ answered answer before ts) :
    ∃ calls, a.reply = (answer calls).2 := by
  induction ts generalizing before with
  | nil => cases h
  | cons t ts ih =>
    rcases List.mem_cons.mp h with rfl | h
    · exact ⟨_, rfl⟩
    · exact ih h

/-! ### Endings -/

theorem endingAfter_eq_finished {as : List Attempt} {rest : Ending} :
    endingAfter as rest = .finished ↔ stopOf as = none ∧ rest = .finished := by
  induction as with
  | nil => simp [endingAfter]
  | cons a as ih =>
    cases hstop : a.reply.stop? with
    | none => simpa [endingAfter, Attempt.ending?, stopOf_cons, hstop] using ih
    | some e => simp [endingAfter, Attempt.ending?, stopOf_cons, hstop]

/-- A phase that breaks down does so because its plan does, or because the executor failed. -/
theorem of_endingAfter_eq_broken {as : List Attempt} {rest : Ending} {index : Nat} {stage : String}
    {f : Failure} (h : endingAfter as rest = .stopped index stage (.broken f)) :
    rest = .stopped index stage (.broken f) ∨ ∃ a ∈ as, a.reply = .failed f := by
  induction as with
  | nil => exact Or.inl h
  | cons a as ih =>
    cases hstop : a.reply.stop? with
    | none =>
      have hrest : endingAfter as rest = .stopped index stage (.broken f) := by
        simpa [endingAfter, Attempt.ending?, hstop] using h
      rcases ih hrest with hrest | ⟨b, hb, hfailed⟩
      · exact Or.inl hrest
      · exact Or.inr ⟨b, List.mem_cons_of_mem _ hb, hfailed⟩
    | some e =>
      simp only [endingAfter, List.findSome?_cons, Attempt.ending?, hstop, Option.map_some,
        Option.getD_some, Ending.stopped.injEq] at h
      obtain ⟨-, -, rfl⟩ := h
      refine Or.inr ⟨a, List.mem_cons_self .., ?_⟩
      unfold Reply.stop? at hstop
      split at hstop
      · split_ifs at hstop
        cases hstop
      · cases hstop
      · rename_i f' hreply
        obtain rfl := Stop.broken.inj (Option.some.inj hstop)
        exact hreply

/-! ### Runs -/

/-- **A phase makes the cut of its plan.** -/
theorem visits_answering {w : Surroundings (List Call)}
    (hw : w.executor = Executor.answering tree answer) (secrets : Secrets) (index : Nat)
    (stages : List Stage) (before : List Call) :
    let p := plan w tree index stages
    let v := visits w secrets index stages before
    ∃ made, Cut answer before p.1 made ∧
      v.1.flatMap Visit.attempts = answered answer before made ∧
      v.2 = before ++ made.map Task.call ∧
      (endingOf v.1 = .finished ↔ p.2 = .finished ∧ AllPass answer before p.1) ∧
      ∀ i n f, endingOf v.1 = .stopped i n (.broken f) →
        p.2 = .stopped i n (.broken f) ∨ ∃ calls, (answer calls).2 = .failed f := by
  intro p v
  have hstill : w.executor.Still := hw ▸ Executor.still_answering tree answer
  obtain ⟨hattempts, hleft, hending⟩ := visits_eq_plan hstill secrets index stages before
  have htree : w.executor.tree before = tree := by rw [hw]; rfl
  rw [htree, hw] at hattempts hleft hending
  obtain ⟨made, hcut, hmade⟩ := attempts_answering tree answer secrets p.1 before
  rw [hmade] at hattempts hleft hending
  refine ⟨made, hcut, hattempts, hleft, ?_, fun i n f hbroken => ?_⟩
  · -- that the whole plan passes and that what is made of it passes is the same
    rw [hending, endingAfter_eq_finished, stopOf_answered, and_comm]
    refine and_congr_right fun _ => ⟨fun hall => ?_, fun hall us hus => ?_⟩
    · rwa [hcut.eq_of_allPass hall] at hall
    · exact hall us (hus.trans hcut.isPrefix)
  · rw [hending] at hbroken
    rcases of_endingAfter_eq_broken hbroken with hplan | ⟨a, ha, hfailed⟩
    · exact Or.inl hplan
    · obtain ⟨calls, hcalls⟩ := mem_answered ha
      exact Or.inr ⟨calls, hcalls ▸ hfailed⟩

/-- The results of visits are those of their attempts. -/
theorem flatMap_results (vs : List Visit) :
    vs.flatMap (Visit.results secrets) =
      (vs.flatMap Visit.attempts).filterMap (Attempt.result? secrets) := by
  rw [List.filterMap_flatMap]
  rfl

namespace Order

variable (o : Order (List Call)) (spec : Spec) (ctx : Context)

/-- The publish phase makes the cut of its plan too, after the calls of the main phase, if there is
a publish phase at all. -/
theorem publishVisits_answering (ho : o.executor = Executor.answering tree answer) {ts : List Task}
    (hleft : (o.mainVisits spec ctx secrets []).2 = ts.map Task.call) :
    let p := plan (o.surroundings spec ctx) tree 0 (spec.publishing ctx)
    let v := o.publishVisits spec ctx secrets []
    let finished := endingOf (o.mainVisits spec ctx secrets []).1 = .finished
    ∃ us, (finished → Cut answer (ts.map Task.call) p.1 us) ∧ (¬ finished → us = []) ∧
      v.1.flatMap Visit.attempts = answered answer (ts.map Task.call) us ∧
      v.2 = (ts ++ us).map Task.call ∧
      ∀ i n f, endingOf v.1 = .stopped i n (.broken f) →
        p.2 = .stopped i n (.broken f) ∨ ∃ calls, (answer calls).2 = .failed f := by
  intro p v finished
  simp only [List.map_append]
  cases hend : endingOf (o.mainVisits spec ctx secrets []).1 with
  | finished =>
    have hv : v = visits (o.surroundings spec ctx) secrets 0 (spec.publishing ctx)
        (ts.map Task.call) := by
      simp only [v, publishVisits, hend, hleft]
    obtain ⟨us, hcut, hus, hus', -, hbroken⟩ := visits_answering (w := o.surroundings spec ctx) ho
      secrets 0 (spec.publishing ctx) (ts.map Task.call)
    rw [hv]
    exact ⟨us, fun _ => hcut, fun hnot => absurd hend hnot, hus, hus', hbroken⟩
  | stopped index stage e =>
    have hv : v = ([], ts.map Task.call) := by
      simp only [v, publishVisits, hend, hleft]
    -- nothing is published, and both conditions on what is published are about nothing
    have hnot : ¬ finished := by
      intro hfinished
      cases hend.symm.trans hfinished
    rw [hv]
    refine ⟨[], fun hfinished => absurd hfinished hnot, fun _ => rfl, rfl, by simp, ?_⟩
    intro i n f hnone
    cases hnone

/-- **The calls of a run** are the cut of the plan of the main phase and then, if the whole of this
plan has passed, the cut of the plan of what is published. A plan has in it the commands of all
stages up to the first one that is not ready. There is one result for each call that was answered
with a status. A run breaks down only where a plan does, or if the executor fails. -/
theorem run_calls (settings : Settings) (root : Place) (environment : Environment) (tree : Tree)
    (answer : List Call → List Notice × Reply) (spec : Spec) (ctx : Context) (journal : Journal) :
    let o : Order (List Call) :=
      { settings, executor := Executor.answering tree answer, root, environment }
    let w := o.surroundings spec ctx
    let main := plan w tree 0 spec.mainStages
    let steps := plan w tree 0 (spec.publishing ctx)
    let secrets := (startJournal ctx journal).secrets
    let made := o.run spec ctx journal []
    (main.1.map Task.purpose = purposes w tree 0 spec.mainStages ∧
      (main.2 = .finished ↔ ∀ stage ∈ spec.mainStages, ready w tree stage = true)) ∧
    (steps.1.map Task.purpose = purposes w tree 0 (spec.publishing ctx) ∧
      (steps.2 = .finished ↔ ∀ step ∈ spec.publishing ctx, ready w tree step = true)) ∧
    ∃ ts us : List Task,
      made.state = (ts ++ us).map Task.call ∧
      Cut answer [] main.1 ts ∧
      (main.2 = .finished ∧ AllPass answer [] main.1 → Cut answer (ts.map Task.call) steps.1 us) ∧
      (¬ (main.2 = .finished ∧ AllPass answer [] main.1) → us = []) ∧
      (∀ out, made.outcome = .ok out →
        out.stageResults = (answered answer [] ts).filterMap (Attempt.result? secrets) ∧
          out.publish.stepResults =
            (answered answer (ts.map Task.call) us).filterMap (Attempt.result? secrets)) ∧
      ∀ f, made.outcome = .error f →
        (∃ i n, main.2 = .stopped i n (.broken f) ∨ steps.2 = .stopped i n (.broken f)) ∨
          ∃ calls, (answer calls).2 = .failed f := by
  intro o w main steps secrets made
  refine ⟨purposes_plan tree 0 _, purposes_plan tree 0 _, ?_⟩
  have hmade : made = _ := o.run_eq spec ctx journal []
  have ho : o.executor = Executor.answering tree answer := rfl
  obtain ⟨ts, hcut, hts, hleft, hfinished, hbroken⟩ := visits_answering
    (w := o.surroundings spec ctx) ho secrets 0 spec.mainStages []
  obtain ⟨us, hcut', hnone, hus, hleft', hbroken'⟩ := o.publishVisits_answering spec ctx ho hleft
  refine ⟨ts, us, ?_, hcut, fun hall => hcut' (hfinished.mpr hall),
    fun hnot => hnone fun hend => hnot (hfinished.mp hend), fun out hout => ?_, fun f hf => ?_⟩
  · rw [hmade]
    exact hleft'
  · rw [hmade] at hout
    obtain ⟨hstage, hstep⟩ := o.results_of_madeOutcome spec ctx secrets [] hout
    rw [hstage, hstep, flatMap_results, flatMap_results, hus]
    exact ⟨congrArg _ hts, rfl⟩
  · rw [hmade] at hf
    obtain ⟨index, stage, hend | hend⟩ := o.ending_of_madeOutcome_eq_error spec ctx secrets [] hf
    · exact (hbroken index stage f hend).imp_left fun h => ⟨index, stage, Or.inl h⟩
    · exact (hbroken' index stage f hend).imp_left fun h => ⟨index, stage, Or.inr h⟩

/-- A directory that is a link to itself: the one command of the plan would pass and is not
called. -/
theorem run_calls_loop :
    let tree : Tree := [(["job"], .dir), (["job", "loop"], .link "loop")]
    let stage : Stage := { name := "build", run := "make", role := .build, cwd := some "loop" }
    let spec : Spec :=
      { platform := .text "linux", toolchain := "stable", install := [], script := [stage] }
    let ctx : Context :=
      { branch := "main", isPullRequest := false, credential := none, repoSlug := none }
    let o : Order (List Call) :=
      { executor := Executor.answering tree fun _ => ([], .status { exitCode := 0, logs := "" })
        root := ["job"] }
    stage.commands tree o.root ctx = .ok ["make"] ∧ (o.run spec ctx {} []).state = [] ∧
      (o.run spec ctx {} []).outcome = .error (.unsettled (.loop ["job", "loop"])) := by
  intro tree stage spec ctx o
  have hsecrets : (startJournal ctx {}).secrets = [] := rfl
  rw [run_eq, hsecrets]
  refine ⟨by cbv, ?_, ?_⟩
  · change (o.publishVisits spec ctx [] []).2 = []
    cbv
  · change o.madeOutcome spec ctx [] [] = _
    cbv

end Order

end BuildLine.Run
