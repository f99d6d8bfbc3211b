import BuildLine.Proofs.Run.Account
import BuildLine.Run.Report

/-!
# What the report tells

The report does not see the run. It has the results, the place where the phase stopped and whether
the phase has finished, and from these it makes up the mark of a stage: the dot of a verdict, and
the exit code of a command that failed. What there is to tell is the fate of the stage
(`Visit.fate`), and `markOf_eq` states which mark the report gives to which fate.

Two fates get one mark. A stage that was interrupted after some of its commands had passed has left
results, the last of which has passed, and so it is marked like a stage that was completed. It is
the only case in which a mark does not tell the truth, which is what the main statement,
`report_of_run`, says of every line of the report.
-/

namespace BuildLine.Run

open Files Job Log

/-! ### Visits that have come to an end -/

/-- A visit that has come to an end: all commands of the stage have passed, or the last one of those
that were tried has not. -/
inductive Visit.Ended (v : Visit) : Prop where
  /-- The stage was completed. -/
  | completed (hstop : v.stop? = none) (h : v.Completed)
  /-- The last command has failed. -/
  | failed {front : List Attempt} {a : Attempt} {code : Int} (hstop : v.stop? = some (.failed code))
      (hattempts : v.attempts = front ++ [a]) (hfront : ∀ b ∈ front, b.reply.Passes)
      (h : a.reply.Fails code)
  /-- The run was interrupted while the last command ran. -/
  | cancelled {front : List Attempt} {a : Attempt} (hstop : v.stop? = some .cancelled)
      (hattempts : v.attempts = front ++ [a]) (hfront : ∀ b ∈ front, b.reply.Passes)
      (h : a.reply.Cancels)

/-- The run was interrupted at a command of the stage, after another one had passed. -/
def Visit.Interrupted (v : Visit) : Prop :=
  v.Cancelled ∧ ∃ a ∈ v.attempts, a.reply.Passes

/-- What became of a stage. -/
inductive Fate where
  /-- All of its commands were run and have passed. -/
  | completed
  /-- A command has failed. -/
  | failed (code : Int)
  /-- The run was interrupted after a command of the stage had passed. -/
  | interrupted
  /-- No command of the stage was run to its end. -/
  | idle

/-- What became of the stage that is visited. -/
def Visit.fate (v : Visit) : Fate :=
  match v.stop? with
  | none => .completed
  | some (.failed code) => .failed code
  | some .cancelled => if 1 < v.attempts.length then .interrupted else .idle
  | some (.broken _) => .idle

/-- What became of the stage at `i`, given the visits of its phase. -/
def fateAt (vs : List Visit) (i : Nat) : Fate :=
  (vs[i]?.map Visit.fate).getD .idle

/-- Of attempts that have passed up to the last one, only the last one can have done otherwise. -/
theorem eq_last_of_not_passes {front : List Attempt} {a b : Attempt}
    (hfront : ∀ b ∈ front, b.reply.Passes) (hb : b ∈ front ++ [a]) (hnot : ¬ b.reply.Passes) :
    b = a := by
  rcases List.mem_append.mp hb with hb | hb
  · exact absurd (hfront b hb) hnot
  · exact List.mem_singleton.mp hb

namespace Visit.Ended

variable {v : Visit}

theorem completed_iff (h : v.Ended) : v.Completed ↔ v.fate = .completed := by
  cases h with
  | completed hstop h => exact iff_of_true h (by simp [fate, hstop])
  | failed hstop hattempts hfront h =>
    refine iff_of_false (fun hc => ?_) (by simp [fate, hstop])
    exact (hc.passes _ (by simp [hattempts])).not_fails _ h
  | cancelled hstop hattempts hfront h =>
    refine iff_of_false (fun hc => ?_) ?_
    · exact (hc.passes _ (by simp [hattempts])).not_cancels h
    · simp only [fate, hstop]
      split <;> nofun

theorem failed_iff (h : v.Ended) {code : Int} : v.Failed code ↔ v.fate = .failed code := by
  cases h with
  | completed hstop h =>
    refine iff_of_false ?_ (by simp [fate, hstop])
    rintro ⟨a, ha, hfails⟩
    exact (h.passes a ha).not_fails code hfails
  | failed hstop hattempts hfront h =>
    simp only [Visit.Failed, hattempts, fate, hstop, Fate.failed.injEq]
    constructor
    · rintro ⟨b, hb, hfails⟩
      obtain rfl := eq_last_of_not_passes hfront hb fun hpasses => hpasses.not_fails code hfails
      have hcode := (Reply.stop?_eq_failed.mpr h).symm.trans (Reply.stop?_eq_failed.mpr hfails)
      exact Stop.failed.inj (Option.some.inj hcode)
    · rintro rfl
      exact ⟨_, by simp, h⟩
  | cancelled hstop hattempts hfront h =>
    refine iff_of_false ?_ ?_
    · rintro ⟨b, hb, hfails⟩
      rw [hattempts] at hb
      obtain rfl := eq_last_of_not_passes hfront hb fun hpasses => hpasses.not_fails code hfails
      exact h.not_fails code hfails
    · simp only [fate, hstop]
      split <;> nofun

theorem interrupted_iff (h : v.Ended) : v.Interrupted ↔ v.fate = .interrupted := by
  cases h with
  | completed hstop h =>
    refine iff_of_false ?_ (by simp [fate, hstop])
    rintro ⟨⟨a, ha, hcancels⟩, -⟩
    exact (h.passes a ha).not_cancels hcancels
  | failed hstop hattempts hfront h =>
    refine iff_of_false ?_ (by simp [fate, hstop])
    rintro ⟨⟨b, hb, hcancels⟩, -⟩
    rw [hattempts] at hb
    obtain rfl := eq_last_of_not_passes hfront hb fun hpasses => hpasses.not_cancels hcancels
    exact hcancels.not_fails _ h
  | @cancelled front a hstop hattempts hfront h =>
    simp only [fate, hstop, hattempts, List.length_append, List.length_singleton]
    constructor
    · -- the attempt that has passed is not the last one
      rintro ⟨-, b, hb, hpasses⟩
      rw [hattempts] at hb
      have hne : front ≠ [] := by
        rintro rfl
        obtain rfl := List.mem_singleton.mp hb
        exact hpasses.not_cancels h
      rw [if_pos (by have := List.length_pos_iff.mpr hne; omega)]
    · intro hfate
      have hne : front ≠ [] := by
        rintro rfl
        simp at hfate
      obtain ⟨b, hb⟩ := List.exists_mem_of_ne_nil front hne
      exact ⟨⟨a, by simp [hattempts], h⟩, b, by simp [hattempts, hb], hfront b hb⟩

end Visit.Ended

/-! ### Marks -/

namespace Report

/-- What the line of a stage shows of its fate. -/
structure Mark where
  /-- The dot. -/
  dot : Char
  /-- The exit code, if one is shown. -/
  exit : Option Int

/-- The mark that the report gives to a stage, from its results and where the phase has stopped. -/
def markOf (index : Nat) (results : List StageResult) (failedAt : Option Nat) (finished : Bool) :
    Mark :=
  let status := stageStatus index (results.map StageResult.status) failedAt finished
  { dot := status.dot
    exit := if status = .failed ∨ status = .timeout then results.getLast?.map StageResult.exitCode
      else none }

/-- What a line shows of an exit code. -/
def exitText : Option Int → String
  | none => ""
  | some code => " ❮-- exit " ++ toString code

/-- The line of a stage with a mark. -/
def Mark.line (m : Mark) (now : Int) (width : Nat) (stage : Stage) (results : List StageResult) :
    String :=
  "┃ " ++ String.singleton m.dot ++ " : " ++ fit width stage.name ++ " [" ++
    Event.pad 8 (if stage.pattern?.isSome then "x" ++ toString results.length else "") ++ "] " ++
    timing (seconds now results) ++ exitText m.exit

theorem exitNote_eq (status : Status) (results : List StageResult) :
    exitNote status results = exitText (if status = .failed ∨ status = .timeout then
      results.getLast?.map StageResult.exitCode else none) := by
  unfold exitNote
  cases results.getLast? with
  | none => simp [exitText]
  | some r => cases status <;> rfl

theorem stageLine_eq (now : Int) (width : Nat) (stage : Stage) (index : Nat)
    (results : List StageResult) (failedAt : Option Nat) (finished : Bool) :
    stageLine now width stage index results failedAt finished =
      (markOf index results failedAt finished).line now width stage results := by
  rw [stageLine, exitNote_eq]
  rfl

/-- The line of the stage at `i` has the mark of this stage. -/
theorem getElem?_stageLines (now : Int) (width : Nat) (results : List StageResult)
    (failedAt : Option Nat) (finished : Bool) (index : Nat) (stages : List Stage) (i : Nat) :
    (stageLines now width results failedAt finished index stages)[i]? =
      stages[i]?.map fun stage =>
        (markOf (index + i) (results.filter fun r => r.index = index + i) failedAt finished).line
          now width stage (results.filter fun r => r.index = index + i) := by
  induction stages generalizing index i with
  | nil => rfl
  | cons stage stages ih =>
    cases i with
    | zero => simp [stageLines, stageLine_eq]
    | succ i =>
      have hplace : index + (i + 1) = index + 1 + i := by omega
      rw [hplace]
      exact ih (index + 1) i

/-- The mark of a fate. -/
def markOfFate : Fate → Mark
  | .completed | .interrupted => { dot := Status.passed.dot, exit := none }
  | .failed code => { dot := Status.failed.dot, exit := some code }
  | .idle => { dot := Status.skipped.dot, exit := none }

/-- The phase has gone beyond the stage at `index`. -/
def Beyond (index : Nat) (failedAt : Option Nat) (finished : Bool) : Prop :=
  finished = true ∨ ∃ k, failedAt = some k ∧ index < k

/-- Attempts that have passed are marked as passed, and so are none at all if the phase has gone
beyond them. -/
theorem markOf_of_passes (secrets : Secrets) {as : List Attempt} (h : ∀ a ∈ as, a.reply.Passes)
    {index : Nat} {failedAt : Option Nat} {finished : Bool}
    (hbeyond : as = [] → Beyond index failedAt finished) :
    markOf index (as.filterMap (Attempt.result? secrets)) failedAt finished =
      markOfFate .completed := by
  rcases List.eq_nil_or_concat as with rfl | ⟨front, a, rfl⟩
  · have hpassed : (finished || failedAt.any fun k => decide (index < k)) = true := by
      simpa [Beyond, Option.any_eq_true] using hbeyond rfl
    simp only [markOf, stageStatus, List.filterMap_nil, List.map_nil, List.getLast?_nil, hpassed]
    rfl
  · obtain ⟨r, hr, hpassed, -⟩ := result?_of_passes secrets (h a (by simp))
    have hresults : (front ++ [a]).filterMap (Attempt.result? secrets) =
        front.filterMap (Attempt.result? secrets) ++ [r] := by simp [hr]
    rw [List.concat_eq_append, hresults]
    simp [markOf, stageStatus, hpassed, markOfFate]

/-- A stage without results that the phase has not gone beyond is marked as idle. -/
theorem markOf_nil {index : Nat} {failedAt : Option Nat} {finished : Bool}
    (hbeyond : ¬ Beyond index failedAt finished) :
    markOf index [] failedAt finished = markOfFate .idle := by
  have hskipped : (finished || failedAt.any fun k => decide (index < k)) = false := by
    simpa [Beyond, Option.any_eq_false] using hbeyond
  simp only [markOf, stageStatus, List.map_nil, List.getLast?_nil, hskipped]
  rfl

/-- Attempts the last of which has failed are marked as failed, with its exit code. -/
theorem markOf_of_fails (secrets : Secrets) {front : List Attempt} {a : Attempt} {code : Int}
    (h : a.reply.Fails code) (index : Nat) (failedAt : Option Nat) (finished : Bool) :
    markOf index ((front ++ [a]).filterMap (Attempt.result? secrets)) failedAt finished =
      markOfFate (.failed code) := by
  obtain ⟨r, hr, hstatus, -, hcode⟩ := result?_of_fails secrets h
  have hresults : (front ++ [a]).filterMap (Attempt.result? secrets) =
      front.filterMap (Attempt.result? secrets) ++ [r] := by simp [hr]
  rw [hresults]
  rcases hstatus with hstatus | hstatus <;>
    simp [markOf, stageStatus, hstatus, hcode, markOfFate, Status.dot]

section Phase

variable {w : Surroundings σ} {secrets : Secrets} {stages : List Stage} {s : σ}
  {results : List StageResult} {acc : Account}

/-- In a phase that has an account every visit has come to an end. -/
theorem ended_of_account?
    (h : (endingOf (visits w secrets 0 stages s).1).account? results = some acc) {v : Visit}
    (hv : v ∈ (visits w secrets 0 stages s).1) : v.Ended := by
  cases hstop : v.stop? with
  | none => exact .completed hstop (completed_of_mem_visits hv hstop)
  | some e =>
    obtain ⟨i, hi⟩ := List.mem_iff_getElem?.mp hv
    obtain ⟨stage, -, hvisit⟩ := getElem?_visits hi
    have hhalts := fun hsound => visit_halts (hvisit ▸ hstop) hsound
    rw [← hvisit] at hhalts
    rw [endingOf_of_mem_visits hv hstop] at h
    cases e with
    | failed code =>
      obtain ⟨front, a, hattempts, hfront, ha⟩ := hhalts nofun
      exact .failed hstop hattempts (stopOf_eq_none.mp hfront) (Reply.stop?_eq_failed.mp ha)
    | cancelled =>
      obtain ⟨front, a, hattempts, hfront, ha⟩ := hhalts nofun
      exact .cancelled hstop hattempts (stopOf_eq_none.mp hfront) (Reply.stop?_eq_cancelled.mp ha)
    | broken f => cases h

/-- The phase has gone beyond the stages that were completed. -/
theorem beyond_iff (h : (endingOf (visits w secrets 0 stages s).1).account? results = some acc)
    {i : Nat} (hi : i < stages.length) :
    Beyond i acc.failedAt (acc.status = .passed) ↔
      ∃ v, (visits w secrets 0 stages s).1[i]? = some v ∧ v.stop? = none := by
  rcases visits_cases w secrets 0 stages s with
    ⟨hend, hlength, hall⟩ | ⟨us, v, e, hvs, hall, hstop, hend⟩
  · refine iff_of_true (Or.inl (decide_eq_true ((Ending.status_of_account? h).mpr hend))) ?_
    exact ⟨_, List.getElem?_eq_getElem (hlength ▸ hi), hall _ (List.getElem_mem _)⟩
  · have hfailedAt : acc.failedAt = some us.length := by
      have hlast : (visits w secrets 0 stages s).1[us.length]? = some v := by
        rw [hvs, List.getElem?_concat_length]
      rw [Ending.failedAt_of_account? h hend, (index_of_getElem?_visits hlast).1, Nat.zero_add]
    have hstatus : acc.status ≠ .passed := by
      rw [Ne, Ending.status_of_account? h, hend]
      nofun
    simp only [Beyond, hstatus, hfailedAt, decide_false, Bool.false_eq_true, false_or,
      Option.some.injEq, exists_eq_left']
    constructor
    · intro hlt
      exact ⟨us[i], by rw [hvs, List.getElem?_append_left hlt, List.getElem?_eq_getElem hlt],
        hall _ (List.getElem_mem hlt)⟩
    · rintro ⟨u, hu, hnone⟩
      by_contra hge
      rw [hvs, List.getElem?_append_right (by omega)] at hu
      obtain rfl := List.mem_singleton.mp (List.mem_of_getElem? hu)
      rw [hstop] at hnone
      cases hnone

/-- **The mark of a stage is that of its fate.** -/
theorem markOf_eq (h : (endingOf (visits w secrets 0 stages s).1).account?
      ((visits w secrets 0 stages s).1.flatMap (Visit.results secrets)) = some acc)
    {i : Nat} (hi : i < stages.length) :
    markOf i (acc.results.filter fun r => r.index = i) acc.failedAt
        (decide (acc.status = .passed)) =
      markOfFate (fateAt (visits w secrets 0 stages s).1 i) := by
  have hattempts := filter_attempts w secrets 0 stages s i
  have hbeyond := beyond_iff h hi
  rw [Nat.zero_add] at hattempts
  rw [Ending.results_of_account? h, flatMap_results, filter_filterMap_index, hattempts, fateAt]
  cases hv : (visits w secrets 0 stages s).1[i]? with
  | none =>
    rw [hv] at hbeyond
    exact markOf_nil fun hcon => by simpa using hbeyond.mp hcon
  | some v =>
    simp only [hv, Option.some.injEq, exists_eq_left'] at hbeyond
    simp only [Option.map_some, Option.getD_some]
    cases ended_of_account? h (List.mem_of_getElem? hv) with
    | completed hstop h =>
      rw [markOf_of_passes secrets h.passes fun _ => hbeyond.mpr hstop, Visit.fate, hstop]
    | failed hstop hattempts hfront h =>
      rw [hattempts, markOf_of_fails secrets h, Visit.fate, hstop]
    | @cancelled front a hstop hattempts hfront h =>
      have hresults : v.attempts.filterMap (Attempt.result? secrets) =
          front.filterMap (Attempt.result? secrets) := by simp [hattempts, result?_of_cancels h]
      rw [hresults, Visit.fate, hstop, hattempts]
      cases front with
      | nil =>
        refine markOf_nil fun hcon => ?_
        rw [hbeyond.mp hcon] at hstop
        cases hstop
      | cons b front =>
        rw [markOf_of_passes secrets hfront nofun]
        simp [markOfFate]

end Phase

/-! ### The truth of a mark -/

/-- The phase has completed the stage at `i`. -/
def CompletedAt (vs : List Visit) (i : Nat) : Prop :=
  ∃ v, vs[i]? = some v ∧ v.Completed

/-- The phase was stopped by a command of the stage at `i` that has failed. -/
def FailedAt (vs : List Visit) (i : Nat) (code : Int) : Prop :=
  ∃ v, vs[i]? = some v ∧ v.Failed code

/-- The phase was interrupted within the stage at `i`, after a command of the stage had passed. -/
def InterruptedAt (vs : List Visit) (i : Nat) : Prop :=
  ∃ v, vs[i]? = some v ∧ v.Interrupted

/-- **The mark tells the truth** about the stage at `i`, given the visits of its phase. -/
structure Mark.Truthful (m : Mark) (vs : List Visit) (i : Nat) : Prop where
  /-- The dot is that of a stage that has passed if all of its commands were run and have. -/
  passed_iff : m.dot = Status.passed.dot ↔ CompletedAt vs i
  /-- The dot is that of a stage that has failed if one of its commands has. -/
  failed_iff : m.dot = Status.failed.dot ↔ ∃ code, FailedAt vs i code
  /-- The exit code is the one of this command. -/
  exit_iff : ∀ code, m.exit = some code ↔ FailedAt vs i code
  /-- The dot is that of a stage that was skipped or interrupted in all other cases. -/
  skipped_iff : m.dot = Status.skipped.dot ↔
    ¬ CompletedAt vs i ∧ ¬ ∃ code, FailedAt vs i code

section Truth

variable {vs : List Visit} {i : Nat}

theorem completedAt_iff (h : ∀ v ∈ vs, v.Ended) :
    CompletedAt vs i ↔ fateAt vs i = .completed := by
  unfold CompletedAt fateAt
  cases hv : vs[i]? with
  | none => simp
  | some v => simp [(h v (List.mem_of_getElem? hv)).completed_iff]

theorem failedAt_iff (h : ∀ v ∈ vs, v.Ended) {code : Int} :
    FailedAt vs i code ↔ fateAt vs i = .failed code := by
  unfold FailedAt fateAt
  cases hv : vs[i]? with
  | none => simp
  | some v => simp [(h v (List.mem_of_getElem? hv)).failed_iff]

theorem interruptedAt_iff (h : ∀ v ∈ vs, v.Ended) :
    InterruptedAt vs i ↔ fateAt vs i = .interrupted := by
  unfold InterruptedAt fateAt
  cases hv : vs[i]? with
  | none => simp
  | some v => simp [(h v (List.mem_of_getElem? hv)).interrupted_iff]

/-- **The mark of a fate tells the truth** unless the stage was interrupted. -/
theorem truthful_markOfFate (h : ∀ v ∈ vs, v.Ended) :
    (markOfFate (fateAt vs i)).Truthful vs i ↔ ¬ InterruptedAt vs i := by
  rw [interruptedAt_iff h]
  constructor
  · -- the mark would be that of a stage that was completed
    intro htruth hfate
    have hcompleted := htruth.passed_iff
    rw [completedAt_iff h, hfate] at hcompleted
    exact absurd (hcompleted.mp rfl) nofun
  · intro hfate
    refine ⟨?_, ?_, fun code => ?_, ?_⟩ <;> simp only [completedAt_iff h, failedAt_iff h]
    all_goals
      generalize fateAt vs i = f at hfate ⊢
      cases f <;> simp [markOfFate, Status.dot] at hfate ⊢

end Truth

/-! ### The lines of the report -/

/-- The lines of the report. -/
def graph (tail now : Int) (lines : List String) (spec : Spec) (o : JobOutcome) : List String :=
  let graph := ["", "```linear-ci", title spec o] ++ mainBox now spec o ++
    publishBox now spec o.publish ++ ["```"]
  if tail ≠ 0 && isBroken o then graph ++ logTail tail lines else graph

theorem render_eq (tail now : Int) (lines : List String) (spec : Spec) (o : JobOutcome) :
    render tail now lines spec o =
      "\n" ++ String.intercalate "\n" (graph tail now lines spec o) := rfl

/-- The lines of a report, box by box. -/
theorem exists_graph_eq (tail now : Int) (lines : List String) (spec : Spec) (o : JobOutcome) :
    ∃ rest, graph tail now lines spec o =
      ["", "```linear-ci", title spec o] ++ (mainBox now spec o ++
        (publishBox now spec o.publish ++ rest)) := by
  unfold graph
  split_ifs
  · exact ⟨"```" :: logTail tail lines, by simp⟩
  · exact ⟨["```"], by simp⟩

theorem length_stageLines (now : Int) (width : Nat) (results : List StageResult)
    (failedAt : Option Nat) (finished : Bool) (index : Nat) (stages : List Stage) :
    (stageLines now width results failedAt finished index stages).length = stages.length := by
  induction stages generalizing index with
  | nil => rfl
  | cons stage stages ih => rw [stageLines, List.length_cons, List.length_cons, ih]

theorem getElem?_box (phase state : String) (width : Nat) {lines : List String}
    (rest : List String) {i : Nat} {line : String} (h : lines[i]? = some line) :
    (box phase state width lines ++ rest)[i + 2]? = some line := by
  simp only [box, List.cons_append, List.nil_append, List.append_assoc, List.getElem?_cons_succ]
  rw [List.getElem?_append_left (List.getElem?_eq_some_iff.mp h).1, h]

/-- The line of a stage of the main phase. -/
theorem getElem?_graph_main (tail now : Int) (lines : List String) {spec : Spec} (o : JobOutcome)
    {i : Nat} {stage : Stage} (h : spec.mainStages[i]? = some stage) :
    (graph tail now lines spec o)[i + 5]? =
      some ((markOf i (o.stageResults.filter fun r => r.index = i) o.failedAt o.succeeded).line now
        (nameWidth spec) stage (o.stageResults.filter fun r => r.index = i)) := by
  obtain ⟨rest, hgraph⟩ := exists_graph_eq tail now lines spec o
  rw [hgraph]
  simp only [List.cons_append, List.nil_append, List.getElem?_cons_succ, mainBox]
  refine getElem?_box _ _ _ _ ?_
  rw [getElem?_stageLines, h, Nat.zero_add]
  rfl

/-- The line of a step of the publish phase. -/
theorem getElem?_graph_publish (tail now : Int) (lines : List String) {spec : Spec}
    (o : JobOutcome) {b : PublishBlock} (hb : spec.afterSuccess = some b) {i : Nat} {step : Stage}
    (h : b.steps[i]? = some step) :
    (graph tail now lines spec o)[i + spec.mainStages.length + 8]? =
      some ((markOf i (o.publish.stepResults.filter fun r => r.index = i) o.publish.failedAt
        o.publish.published).line now (nameWidth spec) step
          (o.publish.stepResults.filter fun r => r.index = i)) := by
  obtain ⟨rest, hgraph⟩ := exists_graph_eq tail now lines spec o
  have hmain : (mainBox now spec o).length = spec.mainStages.length + 3 := by
    simp [mainBox, box, length_stageLines]
  have hplace : i + spec.mainStages.length + 8 = ((mainBox now spec o).length + (i + 2)) + 3 := by
    omega
  rw [hgraph, hplace]
  simp only [List.cons_append, List.nil_append, List.getElem?_cons_succ]
  rw [List.getElem?_append_right (Nat.le_add_right _ _), Nat.add_sub_cancel_left, publishBox, hb]
  refine getElem?_box _ _ _ _ ?_
  rw [getElem?_stageLines, h, Nat.zero_add]
  rfl

/-! ### Reports on runs -/

/-- **What the line of the stage at `i` shows**: its mark tells the truth, unless the stage was
interrupted after a command had passed, for then it is the mark of a stage that has passed. -/
def Shows (line : Option String) (now : Int) (width : Nat) (stage : Stage)
    (results : List StageResult) (vs : List Visit) (i : Nat) : Prop :=
  ∃ mark : Mark, line = some (mark.line now width stage results) ∧
    (mark.Truthful vs i ↔ ¬ InterruptedAt vs i) ∧
    (InterruptedAt vs i → mark = { dot := Status.passed.dot, exit := none })

theorem shows_of_fate {vs : List Visit} (hended : ∀ v ∈ vs, v.Ended) {i : Nat} {mark : Mark}
    (hmark : mark = markOfFate (fateAt vs i)) {line : Option String} {now : Int} {width : Nat}
    {stage : Stage} {results : List StageResult}
    (hline : line = some (mark.line now width stage results)) :
    Shows line now width stage results vs i := by
  subst hmark
  refine ⟨_, hline, truthful_markOfFate hended, fun hinterrupted => ?_⟩
  rw [(interruptedAt_iff hended).mp hinterrupted]
  rfl

end Report

theorem PublishOutcome.verdict_eq_passed (p : PublishOutcome) :
    decide (p.verdict = .passed) = p.published := by
  unfold verdict published
  cases p.state <;> rfl

namespace Order

open Report

variable (o : Order σ) (spec : Spec) (ctx : Context) {secrets : Secrets} {state : σ}
  {out : JobOutcome}

/-- A publish phase that is not run visits no step and leaves no results. -/
theorem publish_of_not_run (h : o.madeOutcome spec ctx secrets state = .ok out)
    {b : PublishBlock} (hb : spec.afterSuccess = some b)
    (hrun : ¬ (out.status = .passed ∧ b.rule.holds ctx = true)) :
    (o.publishVisits spec ctx secrets state).1 = [] ∧ out.publish.stepResults = [] ∧
      out.publish.failedAt = none ∧ out.publish.published = false := by
  by_cases hpassed : out.status = .passed
  · have hholds : b.rule.holds ctx = false := by simpa [hpassed] using hrun
    have hsteps : spec.publishing ctx = [] := by simp [Job.Spec.publishing, hb, hholds]
    obtain ⟨hpublish, hresult⟩ := o.publish_of_madeOutcome spec ctx h hpassed
    simp only [publishResult, hb, hholds] at hresult
    rw [hpublish, hsteps, ← Except.ok.inj hresult]
    exact ⟨rfl, rfl, rfl, rfl⟩
  · rw [o.publish_of_not_passed spec ctx h hpassed]
    exact ⟨o.publishVisits_of_not_passed spec ctx h hpassed, rfl, rfl, rfl⟩

/-- The steps of a publish phase that is run have the marks of their fates. -/
theorem publish_of_run (h : o.madeOutcome spec ctx secrets state = .ok out)
    {b : PublishBlock} (hb : spec.afterSuccess = some b)
    (hpassed : out.status = .passed) (hholds : b.rule.holds ctx = true) {i : Nat}
    (hi : i < b.steps.length) :
    (∀ v ∈ (o.publishVisits spec ctx secrets state).1, v.Ended) ∧
      markOf i (out.publish.stepResults.filter fun r => r.index = i) out.publish.failedAt
        out.publish.published =
          markOfFate (fateAt (o.publishVisits spec ctx secrets state).1 i) := by
  obtain ⟨hpublish, hresult⟩ := o.publish_of_holds spec ctx h hpassed hb hholds
  have haccount := account_of_publishOutcome hresult
  rw [hpublish]
  refine ⟨fun v hv => ended_of_account? haccount hv, ?_⟩
  rw [← markOf_eq haccount hi, ← PublishOutcome.verdict_eq_passed]
  rfl

/-- **The report tells the truth about every stage** but those that were interrupted after some of
their commands had passed. -/
theorem report_of_run (journal : Journal) (state : σ) {out : JobOutcome}
    (hout : (o.run spec ctx journal state).outcome = .ok out) (tail now : Int)
    (lines : List String) :
    let secrets := (startJournal ctx journal).secrets
    let main := (o.mainVisits spec ctx secrets state).1
    let publish := (o.publishVisits spec ctx secrets state).1
    let graph := Report.graph tail now lines spec out
    let width := nameWidth spec
    (o.transcribed.run spec ctx journal ([], state)).state.1 =
        ((main ++ publish).flatMap Visit.attempts).map Attempt.exchange ∧
      render tail now lines spec out = "\n" ++ String.intercalate "\n" graph ∧
      (∀ i stage, spec.mainStages[i]? = some stage →
        Shows graph[i + 5]? now width stage (out.stageResults.filter fun r => r.index = i)
          main i) ∧
      ∀ b, spec.afterSuccess = some b → ∀ i step, b.steps[i]? = some step →
        Shows graph[i + spec.mainStages.length + 8]? now width step
          (out.publish.stepResults.filter fun r => r.index = i) publish i := by
  intro secrets main publish graph width
  obtain ⟨-, -, hstate⟩ := o.run_transcribed spec ctx [] state journal
  have h : o.madeOutcome spec ctx secrets state = .ok out := by rwa [run_eq] at hout
  have hmain := o.account_of_madeOutcome spec ctx h
  refine ⟨by rw [hstate]; rfl, render_eq .., fun i stage hstage => ?_, fun b hb i step hstep => ?_⟩
  · exact shows_of_fate (fun v hv => ended_of_account? hmain hv)
      (markOf_eq hmain (List.getElem?_eq_some_iff.mp hstage).1)
      (getElem?_graph_main tail now lines out hstage)
  · have hline := getElem?_graph_publish tail now lines out hb hstep
    by_cases hrun : out.status = .passed ∧ b.rule.holds ctx = true
    · obtain ⟨hended, hmark⟩ := o.publish_of_run spec ctx h hb hrun.1 hrun.2
        (List.getElem?_eq_some_iff.mp hstep).1
      exact shows_of_fate hended hmark hline
    · obtain ⟨hnone, hresults, hfailedAt, hpublished⟩ := o.publish_of_not_run spec ctx h hb hrun
      have hfate : fateAt publish i = .idle := by simp [publish, hnone, fateAt]
      refine shows_of_fate (by simp [publish, hnone]) ?_ hline
      rw [hfate, hresults, hfailedAt, hpublished]
      exact markOf_nil (by simp [Beyond])

/-- The line of a stage that has failed has its exit code. -/
theorem report_of_run_failed :
    let stage : Stage := { name := "build", run := "make", role := .build }
    let spec : Spec :=
      { platform := .text "linux", toolchain := "stable", install := [], script := [stage] }
    let ctx : Context :=
      { branch := "main", isPullRequest := false, credential := none, repoSlug := none }
    let script : Script := { replies := [("make", .exit 2)] }
    let o : Order Script.State := { executor := script.executor, root := ["job"] }
    let main := (o.mainVisits spec ctx [] {}).1
    ∃ out, (o.run spec ctx {} {}).outcome = .ok out ∧ FailedAt main 0 2 ∧
      Shows (graph 0 0 [] spec out)[5]? 0 9 stage out.stageResults main 0 := by
  intro stage spec ctx script o main
  have hsecrets : (startJournal ctx {}).secrets = [] := rfl
  have hmade : ∃ out, o.madeOutcome spec ctx [] {} = .ok out ∧
      (out.stageResults.filter fun r => r.index = 0) = out.stageResults := ⟨_, by cbv, by cbv⟩
  obtain ⟨out, hout, hresults⟩ := hmade
  have hrun : (o.run spec ctx {} {}).outcome = .ok out := by rw [run_eq, hsecrets, hout]
  obtain ⟨-, -, hmain, -⟩ := report_of_run o spec ctx {} {} hrun 0 0 []
  have hwidth : nameWidth spec = 9 := by cbv
  have hshows := hmain 0 stage rfl
  rw [hresults, hwidth] at hshows
  refine ⟨out, hrun, ?_, hshows⟩
  have hended := fun v hv => ended_of_account? (v := v) (o.account_of_madeOutcome spec ctx hout) hv
  exact (failedAt_iff hended).mpr (by cbv)

/-- **A stage that was interrupted at its second file** is shown as one that has passed. -/
theorem report_of_interrupted :
    let stage : Stage :=
      { name := "check", run := "check {file}", role := .test, work := .forEach "*.md" }
    let d : Draft := { platform := some (.text "linux"), script := [stage] }
    let spec : Spec :=
      { platform := .text "linux", toolchain := "stable", install := [], script := [stage] }
    let ctx : Context :=
      { branch := "feature", isPullRequest := false, credential := none, repoSlug := none }
    let script : Script := { replies := [("b.md", .cancel "")] }
    let o : Order Script.State := { executor := script.executor, root := ["job"] }
    let st : Script.State :=
      { tree := [(["job"], .dir), (["job", "a.md"], .file []), (["job", "b.md"], .file [])] }
    Spec.create d = .ok spec ∧
      stage.commands st.tree o.root ctx = .ok ["check a.md", "check b.md"] ∧
      ¬ CompletedAt (o.mainVisits spec ctx [] st).1 0 ∧
      ∃ out, (o.run spec ctx {} st).outcome = .ok out ∧ out.status = .cancelled ∧
        (graph 0 0 [] spec out)[5]? = some "┃ 🟢 : check     [x1      ]   0: 0" := by
  intro stage d spec ctx script o st
  have hsecrets : (startJournal ctx {}).secrets = [] := rfl
  have hmade : ∃ out, o.madeOutcome spec ctx [] st = .ok out ∧ out.status = .cancelled ∧
      (graph 0 0 [] spec out)[5]? = some "┃ 🟢 : check     [x1      ]   0: 0" :=
    ⟨_, by cbv, by cbv, by cbv⟩
  obtain ⟨out, hout, hcancelled, hline⟩ := hmade
  have hended := fun v hv => ended_of_account? (v := v) (o.account_of_madeOutcome spec ctx hout) hv
  have hfate : fateAt (o.mainVisits spec ctx [] st).1 0 = .interrupted := by cbv
  refine ⟨by cbv, by cbv, fun hcompleted => ?_, out, ?_, hcancelled, hline⟩
  · cases hfate.symm.trans ((completedAt_iff hended).mp hcompleted)
  · rw [run_eq, hsecrets, hout]

end Order

end BuildLine.Run
