import BuildLine.Proofs.Run.Trace

/-!
# Where a phase halts

A phase goes through its stages until one of them halts it. Of the attempts that it makes all but
the last one have passed, and whether the last one has passed, too, tells how the phase ends
(`passes_of_finished`, `exists_last_of_stopped`).

The visits of a phase are those of its stages from the first one on. The stage at `i` is visited in
the state in which the stages before it have left the executor (`arrival`), and `getElem?_visits`
states that the visit at `i` is the one that is made there. From this it follows that the attempts
for the stage at `i` are the attempts of the visit at `i` and no others (`filter_attempts`).
-/

namespace BuildLine.Run

open Files Job Log

variable {ex : Executor σ} {w : Surroundings σ} {secrets : Secrets}

/-! ### Replies -/

/-- The command ran but did not pass, and this is its exit code. -/
def Reply.Fails (r : Reply) (code : Int) : Prop :=
  ∃ s : CommandStatus, r = .status s ∧ (s.exitCode ≠ 0 ∨ s.timedOut = true) ∧ s.exitCode = code

/-- The run was interrupted while the command ran. -/
def Reply.Cancels (r : Reply) : Prop :=
  ∃ m, r = .cancelled m

namespace Reply

theorem verdict_eq_passed {s : CommandStatus} :
    verdict s = .passed ↔ s.exitCode = 0 ∧ s.timedOut = false := by
  unfold verdict
  split_ifs <;> simp_all

theorem stop?_eq_failed {r : Reply} {code : Int} :
    r.stop? = some (.failed code) ↔ r.Fails code := by
  cases r with
  | status s =>
    simp only [stop?, Fails, status.injEq, exists_eq_left', verdict_eq_passed]
    by_cases hpassed : s.exitCode = 0 ∧ s.timedOut = false
    · simp [hpassed]
    · have hor : s.exitCode ≠ 0 ∨ s.timedOut = true := by
        rcases not_and_or.mp hpassed with h | h
        · exact Or.inl h
        · exact Or.inr (by simpa using h)
      simp [hpassed, hor]
  | cancelled m => simp [stop?, Fails]
  | failed f => simp [stop?, Fails]

theorem stop?_eq_cancelled {r : Reply} : r.stop? = some .cancelled ↔ r.Cancels := by
  cases r with
  | status s => simp [stop?, Cancels]
  | cancelled m => simp [stop?, Cancels]
  | failed f => simp [stop?, Cancels]

theorem Passes.not_fails {r : Reply} (h : r.Passes) (code : Int) : ¬ r.Fails code := by
  rw [← stop?_eq_failed, stop?_eq_none.mpr h]
  nofun

theorem Passes.not_cancels {r : Reply} (h : r.Passes) : ¬ r.Cancels := by
  rw [← stop?_eq_cancelled, stop?_eq_none.mpr h]
  nofun

theorem Cancels.not_fails {r : Reply} (h : r.Cancels) (code : Int) : ¬ r.Fails code := by
  rw [← stop?_eq_failed, stop?_eq_cancelled.mpr h]
  nofun

end Reply

/-! ### Attempts -/

theorem stopOf_eq_none {as : List Attempt} : stopOf as = none ↔ ∀ a ∈ as, a.reply.Passes := by
  simp [stopOf, Reply.stop?_eq_none]

/-- If nothing stops a phase, all tasks are tried. -/
theorem toTask_attempts_of_none {ts : List Task} {s : σ}
    (h : stopOf (attempts ex secrets ts s).1 = none) :
    (attempts ex secrets ts s).1.map Attempt.toTask = ts := by
  induction ts generalizing s with
  | nil => rfl
  | cons t ts ih =>
    cases hstop : (ex.attempt secrets t s).1.reply.stop? with
    | none =>
      rw [attempts_cons_of_none ts hstop] at h ⊢
      rw [stopOf_cons, hstop] at h
      rw [List.map_cons, ih h, Executor.toTask_attempt]
    | some e =>
      rw [attempts_cons_of_some ts hstop, stopOf_cons, hstop] at h
      cases h

/-- If something stops a phase, it is the last attempt and no other. -/
theorem attempts_of_some {ts : List Task} {s : σ} {e : Stop}
    (h : stopOf (attempts ex secrets ts s).1 = some e) :
    ∃ front a, (attempts ex secrets ts s).1 = front ++ [a] ∧ stopOf front = none ∧
      a.reply.stop? = some e := by
  induction ts generalizing s with
  | nil => cases h
  | cons t ts ih =>
    cases hstop : (ex.attempt secrets t s).1.reply.stop? with
    | none =>
      rw [attempts_cons_of_none ts hstop] at h ⊢
      rw [stopOf_cons, hstop] at h
      obtain ⟨front, a, hfront, hnone, ha⟩ := ih h
      exact ⟨_ :: front, a, by rw [hfront]; rfl, by rw [stopOf_cons, hstop, hnone]; rfl, ha⟩
    | some e' =>
      rw [attempts_cons_of_some ts hstop] at h ⊢
      rw [stopOf_cons, hstop] at h
      exact ⟨[], _, rfl, rfl, hstop.trans h⟩

/-! ### One visit -/

/-- The tasks of a stage have its commands. -/
theorem commands_of_tasksOf {tree : Tree} {index : Nat} {stage : Stage} {tasks : List Task}
    (h : tasksOf w tree index stage = .ok tasks) :
    stage.commands tree w.root w.ctx = .ok (tasks.map fun t => t.call.command) := by
  unfold tasksOf at h
  split at h
  · cases h
  · rename_i commands hcommands
    split at h
    · cases h
    · obtain rfl := Except.ok.inj h
      rw [hcommands, List.map_map]
      exact congrArg _ (List.map_id' commands).symm

/-- All commands of the stage were run, and all of them passed. -/
structure Visit.Completed (v : Visit) : Prop where
  /-- All tasks were tried. -/
  tasks : v.tasks = .ok (v.attempts.map Attempt.toTask)
  /-- Every attempt passed. -/
  passes : ∀ a ∈ v.attempts, a.reply.Passes

/-- A command of the stage ran but did not pass, and this is its exit code. -/
def Visit.Failed (v : Visit) (code : Int) : Prop :=
  ∃ a ∈ v.attempts, a.reply.Fails code

/-- The run was interrupted at a command of the stage. -/
def Visit.Cancelled (v : Visit) : Prop :=
  ∃ a ∈ v.attempts, a.reply.Cancels

section Visit

variable {index : Nat} {stage : Stage} {s : σ}

/-- The attempts of a visit are made for the stage that is visited. -/
theorem place_of_mem_visit {a : Attempt} (h : a ∈ (visit w secrets index stage s).1.attempts) :
    a.index = index ∧ a.stage = stage := by
  cases htasks : tasksOf w (w.executor.tree s) index stage with
  | error f =>
    rw [(visit_of_error secrets htasks).1] at h
    cases h
  | ok tasks =>
    rw [(visit_of_ok secrets htasks).1] at h
    obtain ⟨hindex, hstage, -⟩ := stage_of_mem_tasksOf htasks (mem_of_mem_attempts h)
    exact ⟨hindex, hstage⟩

/-- **A stage that does not stop the phase is completed.** -/
theorem visit_completed (h : (visit w secrets index stage s).1.stop? = none) :
    (visit w secrets index stage s).1.Completed := by
  cases htasks : tasksOf w (w.executor.tree s) index stage with
  | error f =>
    rw [(visit_of_error secrets htasks).2.2] at h
    cases h
  | ok tasks =>
    obtain ⟨hattempts, -, hstop⟩ := visit_of_ok secrets htasks
    have hnone := hstop.symm.trans h
    have hall : (visit w secrets index stage s).1.attempts.map Attempt.toTask = tasks := by
      rw [hattempts]
      exact toTask_attempts_of_none hnone
    refine ⟨?_, ?_⟩
    · rw [hall]
      exact htasks
    · rw [hattempts]
      exact stopOf_eq_none.mp hnone

/-- A stage that stops the phase and has not broken down does so with its last attempt. -/
theorem visit_halts {e : Stop} (h : (visit w secrets index stage s).1.stop? = some e)
    (hsound : ∀ f, e ≠ .broken f) :
    ∃ front a, (visit w secrets index stage s).1.attempts = front ++ [a] ∧
      stopOf front = none ∧ a.reply.stop? = some e := by
  cases htasks : tasksOf w (w.executor.tree s) index stage with
  | error f =>
    rw [(visit_of_error secrets htasks).2.2] at h
    exact absurd (Option.some.inj h).symm (hsound f)
  | ok tasks =>
    obtain ⟨hattempts, -, hstop⟩ := visit_of_ok secrets htasks
    rw [hattempts]
    exact attempts_of_some (hstop.symm.trans h)

end Visit

/-! ### The visits of a phase -/

/-- The state in which the executor is when the phase comes to the stage at `i`. -/
def arrival (w : Surroundings σ) (secrets : Secrets) (index : Nat) (stages : List Stage) (s : σ)
    (i : Nat) : σ :=
  (visits w secrets index (stages.take i) s).2

section Visits

variable {index : Nat} {stages : List Stage} {s : σ}

/-- **The visit at `i` is that of the stage at `i`,** made where the stages before it have led. -/
theorem getElem?_visits {i : Nat} {v : Visit}
    (h : (visits w secrets index stages s).1[i]? = some v) :
    ∃ stage, stages[i]? = some stage ∧
      v = (visit w secrets (index + i) stage (arrival w secrets index stages s i)).1 := by
  induction stages generalizing index s i with
  | nil => cases h
  | cons stage stages ih =>
    cases hstop : (visit w secrets index stage s).1.stop? with
    | none =>
      rw [visits_cons_of_none stages hstop] at h
      cases i with
      | zero => exact ⟨stage, rfl, (Option.some.inj h).symm⟩
      | succ i =>
        obtain ⟨stage', hstage', rfl⟩ := ih h
        refine ⟨stage', hstage', ?_⟩
        rw [arrival, arrival, List.take_succ_cons, visits_cons_of_none _ hstop,
          Nat.add_right_comm, Nat.add_assoc]
    | some e =>
      rw [visits_cons_of_some stages hstop] at h
      cases i with
      | zero => exact ⟨stage, rfl, (Option.some.inj h).symm⟩
      | succ i => cases h

theorem index_of_getElem?_visits {i : Nat} {v : Visit}
    (h : (visits w secrets index stages s).1[i]? = some v) :
    v.index = index + i ∧ stages[i]? = some v.stage := by
  obtain ⟨stage, hstage, rfl⟩ := getElem?_visits h
  exact ⟨rfl, hstage⟩

/-- The visits that do not stop the phase are completed. -/
theorem completed_of_mem_visits {v : Visit} (h : v ∈ (visits w secrets index stages s).1)
    (hstop : v.stop? = none) : v.Completed := by
  obtain ⟨i, hi⟩ := List.mem_iff_getElem?.mp h
  obtain ⟨stage, -, rfl⟩ := getElem?_visits hi
  exact visit_completed hstop

variable (w secrets index stages s) in
/-- **How a phase ends**: it has visited all its stages, or the last one that it has visited stops
it, and no other visit does. -/
theorem visits_cases :
    let vs := (visits w secrets index stages s).1
    (endingOf vs = .finished ∧ vs.length = stages.length ∧ ∀ v ∈ vs, v.stop? = none) ∨
      ∃ us v e, vs = us ++ [v] ∧ (∀ u ∈ us, u.stop? = none) ∧ v.stop? = some e ∧
        endingOf vs = .stopped v.index v.stage.name e := by
  induction stages generalizing index s with
  | nil => exact Or.inl ⟨rfl, rfl, by simp⟩
  | cons stage stages ih =>
    intro vs
    cases hstop : (visit w secrets index stage s).1.stop? with
    | none =>
      have hvs : vs = _ := congrArg Prod.fst (visits_cons_of_none stages hstop)
      rw [hvs, endingOf_cons_of_none _ hstop]
      rcases ih (index + 1) (visit w secrets index stage s).2 with
        ⟨hend, hlength, hall⟩ | ⟨us, v, e, hrest, hall, hv, hend⟩
      · exact Or.inl ⟨hend, by simp [hlength], List.forall_mem_cons.mpr ⟨hstop, hall⟩⟩
      · exact Or.inr ⟨_ :: us, v, e, by rw [hrest]; rfl, List.forall_mem_cons.mpr ⟨hstop, hall⟩,
          hv, hend⟩
    | some e =>
      have hvs : vs = _ := congrArg Prod.fst (visits_cons_of_some stages hstop)
      rw [hvs, endingOf_cons_of_some _ hstop]
      exact Or.inr ⟨[], _, e, rfl, by simp, hstop, rfl⟩

/-- A phase that has finished has visited all its stages, and none of them stops it. -/
theorem visits_of_finished (h : endingOf (visits w secrets index stages s).1 = .finished) :
    (visits w secrets index stages s).1.length = stages.length ∧
      ∀ v ∈ (visits w secrets index stages s).1, v.stop? = none := by
  rcases visits_cases w secrets index stages s with ⟨-, hall⟩ | ⟨us, v, e, -, -, -, hend⟩
  · exact hall
  · rw [h] at hend
    cases hend

/-- A phase that has stopped has visited the stages up to the one that stops it. -/
theorem visits_of_stopped {k : Nat} {n : String} {e : Stop}
    (h : endingOf (visits w secrets index stages s).1 = .stopped k n e) :
    ∃ us v, (visits w secrets index stages s).1 = us ++ [v] ∧ (∀ u ∈ us, u.stop? = none) ∧
      v.stop? = some e ∧ v.index = k ∧ v.stage.name = n ∧ k = index + us.length ∧
      stages[us.length]? = some v.stage := by
  rcases visits_cases w secrets index stages s with ⟨hend, -⟩ | ⟨us, v, e', hvs, hall, hv, hend⟩
  · rw [h] at hend
    cases hend
  · rw [h] at hend
    obtain ⟨rfl, rfl, rfl⟩ := Ending.stopped.inj hend
    have hlast : (visits w secrets index stages s).1[us.length]? = some v := by
      rw [hvs, List.getElem?_concat_length]
    obtain ⟨hindex, hstage⟩ := index_of_getElem?_visits hlast
    exact ⟨us, v, hvs, hall, hv, rfl, rfl, hindex, hstage⟩

/-- What stops a visit stops its phase. -/
theorem endingOf_of_mem_visits {v : Visit} (h : v ∈ (visits w secrets index stages s).1) {e : Stop}
    (hstop : v.stop? = some e) :
    endingOf (visits w secrets index stages s).1 = .stopped v.index v.stage.name e := by
  rcases visits_cases w secrets index stages s with ⟨-, -, hall⟩ | ⟨us, u, e', hvs, hall, hu, hend⟩
  · rw [hall v h] at hstop
    cases hstop
  · rw [hvs, List.mem_append, List.mem_singleton] at h
    rcases h with hv | rfl
    · rw [hall v hv] at hstop
      cases hstop
    · rw [hend, Option.some.inj (hu.symm.trans hstop)]

/-! ### The attempts of a phase -/

/-- The place and the stage of an attempt are those of a visit. -/
theorem place_of_mem_attempts {v : Visit} (hv : v ∈ (visits w secrets index stages s).1)
    {a : Attempt} (ha : a ∈ v.attempts) : a.index = v.index ∧ a.stage = v.stage := by
  obtain ⟨i, hi⟩ := List.mem_iff_getElem?.mp hv
  obtain ⟨stage, -, rfl⟩ := getElem?_visits hi
  exact place_of_mem_visit ha

/-- Later visits are visits of later stages. -/
theorem pairwise_index_visits :
    (visits w secrets index stages s).1.Pairwise fun u v => u.index < v.index := by
  refine List.pairwise_iff_getElem.mpr fun i j hi hj hij => ?_
  obtain ⟨hu, -⟩ := index_of_getElem?_visits (List.getElem?_eq_getElem hi)
  obtain ⟨hv, -⟩ := index_of_getElem?_visits (List.getElem?_eq_getElem hj)
  omega

/-- Attempts are made in the order of the stages. -/
theorem pairwise_index_attempts :
    ((visits w secrets index stages s).1.flatMap Visit.attempts).Pairwise
      fun a b => a.index ≤ b.index := by
  refine List.pairwise_flatMap.mpr ⟨fun v hv => ?_, ?_⟩
  · refine List.pairwise_of_forall_mem_list fun a ha b hb => ?_
    rw [(place_of_mem_attempts hv ha).1, (place_of_mem_attempts hv hb).1]
  · refine pairwise_index_visits.imp_of_mem fun {u v} hu hv hlt a ha b hb => ?_
    rw [(place_of_mem_attempts hu ha).1, (place_of_mem_attempts hv hb).1]
    exact hlt.le

/-- **In a phase that finishes everything passes.** -/
theorem passes_of_finished (h : endingOf (visits w secrets index stages s).1 = .finished) :
    ∀ a ∈ (visits w secrets index stages s).1.flatMap Visit.attempts, a.reply.Passes := by
  intro a ha
  obtain ⟨v, hv, ha⟩ := List.mem_flatMap.mp ha
  exact (completed_of_mem_visits hv ((visits_of_finished h).2 v hv)).passes a ha

/-- **In a phase that is stopped everything passes but the last attempt,** unless the phase has
broken down. -/
theorem exists_last_of_stopped {k : Nat} {n : String} {e : Stop}
    (h : endingOf (visits w secrets index stages s).1 = .stopped k n e)
    (hsound : ∀ f, e ≠ .broken f) :
    ∃ front a, (visits w secrets index stages s).1.flatMap Visit.attempts = front ++ [a] ∧
      (∀ b ∈ front, b.reply.Passes) ∧ a.reply.stop? = some e ∧ a.index = k ∧ a.stage.name = n := by
  obtain ⟨us, v, hvs, hall, hstop, hk, hn, -, -⟩ := visits_of_stopped h
  have hmem : v ∈ (visits w secrets index stages s).1 := by simp [hvs]
  obtain ⟨i, hi⟩ := List.mem_iff_getElem?.mp hmem
  obtain ⟨stage, -, hvisit⟩ := getElem?_visits hi
  obtain ⟨front, a, hattempts, hfront, ha⟩ := visit_halts (hvisit ▸ hstop) hsound
  rw [← hvisit] at hattempts
  obtain ⟨hindex, hstage⟩ := place_of_mem_attempts hmem (a := a) (by simp [hattempts])
  refine ⟨us.flatMap Visit.attempts ++ front, a, by simp [hvs, hattempts], fun b hb => ?_, ha,
    hindex.trans hk, by rw [hstage, hn]⟩
  rcases List.mem_append.mp hb with hb | hb
  · obtain ⟨u, hu, hb⟩ := List.mem_flatMap.mp hb
    have hu' : u ∈ (visits w secrets index stages s).1 := hvs ▸ List.mem_append_left _ hu
    exact (completed_of_mem_visits hu' (hall u hu)).passes b hb
  · exact stopOf_eq_none.mp hfront b hb

/-- The attempts of a visit are all made for one stage. -/
theorem filter_attempts_visit (i k : Nat) (stage : Stage) :
    (visit w secrets i stage s).1.attempts.filter (fun a => a.index = k) =
      if i = k then (visit w secrets i stage s).1.attempts else [] := by
  split_ifs with hik
  · exact List.filter_eq_self.mpr fun a ha => by simp [(place_of_mem_visit ha).1, hik]
  · exact List.filter_eq_nil_iff.mpr fun a ha => by simp [(place_of_mem_visit ha).1, hik]

theorem le_index_of_mem_attempts {a : Attempt}
    (h : a ∈ (visits w secrets index stages s).1.flatMap Visit.attempts) : index ≤ a.index := by
  obtain ⟨v, hv, ha⟩ := List.mem_flatMap.mp h
  obtain ⟨i, hi⟩ := List.mem_iff_getElem?.mp hv
  rw [(place_of_mem_attempts hv ha).1, (index_of_getElem?_visits hi).1]
  omega

variable (w secrets index stages s) in
/-- **The attempts for the stage at `i` are those of the visit at `i`,** if there is one. -/
theorem filter_attempts (i : Nat) :
    ((visits w secrets index stages s).1.flatMap Visit.attempts).filter
        (fun a => a.index = index + i) =
      (((visits w secrets index stages s).1[i]?).map Visit.attempts).getD [] := by
  induction stages generalizing index s i with
  | nil => simp
  | cons stage stages ih =>
    cases hstop : (visit w secrets index stage s).1.stop? with
    | none =>
      rw [visits_cons_of_none stages hstop, List.flatMap_cons, List.filter_append,
        filter_attempts_visit]
      cases i with
      | zero =>
        -- the stages after this one are all at higher places
        have hrest : ((visits w secrets (index + 1) stages
            (visit w secrets index stage s).2).1.flatMap Visit.attempts).filter
              (fun a => a.index = index + 0) = [] := by
          refine List.filter_eq_nil_iff.mpr fun a ha => ?_
          have hle := le_index_of_mem_attempts ha
          simp
          omega
        rw [hrest]
        simp
      | succ i =>
        have hplace : index + (i + 1) = index + 1 + i := by omega
        rw [if_neg (by omega), hplace, ih]
        simp
    | some e =>
      rw [visits_cons_of_some stages hstop, List.flatMap_cons, List.flatMap_nil, List.append_nil,
        filter_attempts_visit]
      cases i with
      | zero => simp
      | succ i => simp

end Visits

end BuildLine.Run
