import BuildLine.Proofs.Data.Table
import BuildLine.Proofs.Job.Admission

/-!
# How a manifest is refused

A manifest that describes no job is to be refused with a complaint that its author can read. Reading
goes through many small readers, and none of them fails in another way (`OnlyComplains`), whatever
values stand in whatever places: that passes from the readers of single values through chains and
lists to the reader of the parts of a job (`onlyComplains_parts`).

There is one more way to fail, and it comes last, when the parts are handed on together with the
options that no job has. An option of the name of the one argument that is not an option cannot be
handed on. So a manifest is refused without a complaint exactly if it has this option and would be
read without it (`parse_complains_iff`).
-/

namespace BuildLine.Job.Manifest

open Data (Value Table Number)

/-- Whatever the reader fails with is a complaint about the manifest. -/
def OnlyComplains (x : Except Fault α) : Prop :=
  ∀ f, x = .error f → f.isComplaint = true

/-! ### Readers that only complain -/

section Readers

variable {α β : Type} {x : Except Fault α}

theorem onlyComplains_ok (a : α) : OnlyComplains (.ok a) := nofun

theorem onlyComplains_error {f : Fault} (h : f.isComplaint = true) :
    OnlyComplains (.error f : Except Fault α) := by
  rintro _ ⟨⟩
  exact h

theorem OnlyComplains.bind {g : α → Except Fault β} (hx : OnlyComplains x)
    (hg : ∀ a, OnlyComplains (g a)) : OnlyComplains (x >>= g) := by
  intro f h
  rcases bind_eq_error.mp h with h | ⟨a, -, h⟩
  · exact hx f h
  · exact hg a f h

theorem OnlyComplains.map (hx : OnlyComplains x) (g : α → β) : OnlyComplains (x.map g) := by
  intro f h
  cases x with
  | error f' =>
    obtain rfl := Except.error.inj h
    exact hx _ rfl
  | ok a => cases h

theorem OnlyComplains.mapM {read : α → Except Fault β} (h : ∀ a, OnlyComplains (read a))
    (as : List α) : OnlyComplains (as.mapM read) := by
  induction as with
  | nil => exact onlyComplains_ok []
  | cons a as ih =>
    rw [List.mapM_cons]
    exact (h a).bind fun b => ih.bind fun bs => onlyComplains_ok (b :: bs)

theorem onlyComplains_text (what : String) (v : Value) : OnlyComplains (text what v) := by
  cases v with
  | text s => exact onlyComplains_ok s
  | _ => exact onlyComplains_error rfl

theorem onlyComplains_truth (what : String) (v : Value) : OnlyComplains (truth what v) := by
  cases v with
  | bool b => exact onlyComplains_ok b
  | _ => exact onlyComplains_error rfl

theorem onlyComplains_items (what : String) (v : Value) : OnlyComplains (items what v) := by
  cases v with
  | list vs => exact onlyComplains_ok vs
  | _ => exact onlyComplains_error rfl

theorem onlyComplains_entries (what : String) (v : Value) : OnlyComplains (entries what v) := by
  cases v with
  | table t => exact onlyComplains_ok t
  | _ => exact onlyComplains_error rfl

theorem onlyComplains_number (what : String) (v : Value) : OnlyComplains (number what v) := by
  cases v with
  | number n => exact onlyComplains_ok n
  | _ => exact onlyComplains_error rfl

theorem onlyComplains_table (place : String) (v : Value) : OnlyComplains (table place v) := by
  cases v with
  | table t => exact onlyComplains_ok t
  | _ => exact onlyComplains_error rfl

theorem OnlyComplains.field {read : Value → Except Fault α} (h : ∀ v, OnlyComplains (read v))
    (t : Table) (key : String) (fallback : α) : OnlyComplains (field t key fallback read) := by
  unfold Manifest.field
  split
  · exact onlyComplains_ok fallback
  · exact h _

theorem OnlyComplains.optional {read : Value → Except Fault α} (h : ∀ v, OnlyComplains (read v))
    (t : Table) (key : String) : OnlyComplains (optional t key read) := by
  unfold Manifest.optional
  split
  · exact onlyComplains_ok none
  · exact onlyComplains_ok none
  · exact (h _).map some

theorem onlyComplains_required (place : String) (t : Table) (key : String) :
    OnlyComplains (required place t key) := by
  unfold required
  split
  · exact onlyComplains_error rfl
  · exact onlyComplains_ok _

theorem onlyComplains_checkKeys (place : String) (known : List String) (t : Table) :
    OnlyComplains (checkKeys place known t) := by
  simp only [checkKeys]
  split
  · exact onlyComplains_ok ()
  · exact onlyComplains_error rfl

end Readers

/-! ### Stages -/

theorem onlyComplains_limit (name : String) (v : Value) : OnlyComplains (limit name v) := by
  refine (onlyComplains_number _ v).bind fun n => ?_
  split
  · refine onlyComplains_error ?_
    rfl
  · exact onlyComplains_ok n

theorem onlyComplains_work (t : Table) (name : String) (secret : Bool) :
    OnlyComplains (work t name secret) := by
  unfold work
  split
  · exact onlyComplains_ok _
  · refine (onlyComplains_text _ _).bind fun pattern => ?_
    dsimp only
    split
    · refine onlyComplains_error ?_
      rfl
    · split
      · refine onlyComplains_error ?_
        rfl
      · exact onlyComplains_ok _

theorem onlyComplains_role (place name : String) (fallback : Option Role) (t : Table) :
    OnlyComplains (role place name fallback t) := by
  unfold role
  split
  · exact onlyComplains_ok _
  · refine (onlyComplains_required place t "role").bind fun v =>
      (onlyComplains_text _ v).bind fun word => ?_
    rw [Role.parse]
    cases Role.ofWord? word with
    | none => exact onlyComplains_error rfl
    | some r => exact onlyComplains_ok r

/-- Reading a stage only complains, one step after the other. -/
theorem onlyComplains_stage (place : String) (fallback : Option Role) (entry : Value) :
    OnlyComplains (stage place fallback entry) := by
  refine (onlyComplains_table place entry).bind fun t => ?_
  refine (onlyComplains_checkKeys place stageKeys t).bind fun _ => ?_
  refine (onlyComplains_required place t "name").bind fun v => ?_
  refine (onlyComplains_text _ v).bind fun name => ?_
  refine (onlyComplains_required place t "run").bind fun v => ?_
  refine (onlyComplains_text _ v).bind fun _ => ?_
  refine (onlyComplains_role place name fallback t).bind fun _ => ?_
  refine (OnlyComplains.field (onlyComplains_entries _) t "env" []).bind fun _ => ?_
  refine (OnlyComplains.optional (onlyComplains_text _) t "cwd").bind fun _ => ?_
  refine (OnlyComplains.optional (onlyComplains_limit name) t "timeout").bind fun _ => ?_
  refine (OnlyComplains.field (onlyComplains_truth _) t "secret" false).bind fun secret => ?_
  refine (onlyComplains_work t name secret).bind fun _ => ?_
  exact onlyComplains_ok _

theorem onlyComplains_installStep (v : Value) : OnlyComplains (installStep v) := by
  unfold installStep
  split
  · exact onlyComplains_ok _
  · exact OnlyComplains.map (onlyComplains_stage _ _ _) InstallStep.stage

theorem onlyComplains_publishBlock (settings : Settings) (v : Value) :
    OnlyComplains (publishBlock settings v) := by
  refine (onlyComplains_entries _ v).bind fun t => ?_
  refine (OnlyComplains.field (onlyComplains_text _) t "branch" _).bind fun _ => ?_
  refine (OnlyComplains.field (onlyComplains_truth _) t "pull_request" false).bind fun _ => ?_
  refine (OnlyComplains.field (onlyComplains_items _) t "steps" []).bind fun values => ?_
  refine (OnlyComplains.mapM (onlyComplains_stage _ none) values).bind fun _ => ?_
  refine (onlyComplains_checkKeys _ publishKeys t).bind fun _ => ?_
  exact onlyComplains_ok _

/-! ### The job -/

/-- The draft that a table describes, without the options that no job has. -/
def parts (settings : Settings) (job : Table) : Except Fault Draft := do
  let install ← field job "install" [] (items "job.install")
  let install ← install.mapM installStep
  let script ← field job "script" [] (items "job.script")
  let script ← script.mapM (stage "job.script" none)
  let afterSuccess ← optional job "after_success" (publishBlock settings)
  let language ← field job "language" "" (text "job.language")
  let toolchain ← field job "toolchain" "stable" (text "job.toolchain")
  let env ← field job "env" [] (entries "job.env")
  let platform ← field job "platform" "linux" (text "job.platform")
  return {
    platform := some (.text platform), toolchain := .text toolchain, install, script, afterSuccess
    language := .text language, env }

/-- The options that no job has. -/
def unknownOptions (job : Table) : List String :=
  job.keys.filter fun k => !jobKeys.contains k

theorem mem_unknownOptions {job : Table} {k : String} :
    k ∈ unknownOptions job ↔ k ∈ job.keys ∧ k ∉ jobKeys := by
  simp [unknownOptions]

theorem reserved_mem_unknownOptions {job : Table} :
    "cls" ∈ unknownOptions job ↔ "cls" ∈ job.keys := by
  rw [mem_unknownOptions]
  exact and_iff_left (by decide)

/-- A draft is read by its parts, and then its unknown options are handed on. -/
theorem draft_eq (settings : Settings) (job : Table) :
    draft settings job = parts settings job >>= fun d =>
      if "cls" ∈ job.keys then .error (.reserved "cls")
      else .ok { d with unknown := unknownOptions job } := by
  simp only [draft, parts, bind_assoc, pure_bind]
  by_cases hreserved : "cls" ∈ job.keys
  · have hunknown : (job.keys.filter fun k => !jobKeys.contains k).contains "cls" = true :=
      List.contains_iff_mem.mpr (reserved_mem_unknownOptions.mpr hreserved)
    simp only [hunknown, if_pos hreserved, if_true]
    rfl
  · have hunknown : ¬(job.keys.filter fun k => !jobKeys.contains k).contains "cls" = true :=
      fun h => hreserved (reserved_mem_unknownOptions.mp (List.contains_iff_mem.mp h))
    simp only [if_neg hunknown, if_neg hreserved]
    rfl

/-- **Reading the parts of a job only complains**, whatever stands in their places. -/
theorem onlyComplains_parts (settings : Settings) (job : Table) :
    OnlyComplains (parts settings job) := by
  refine (OnlyComplains.field (onlyComplains_items _) job "install" []).bind fun values => ?_
  refine (OnlyComplains.mapM onlyComplains_installStep values).bind fun _ => ?_
  refine (OnlyComplains.field (onlyComplains_items _) job "script" []).bind fun values => ?_
  refine (OnlyComplains.mapM (onlyComplains_stage _ none) values).bind fun _ => ?_
  refine (OnlyComplains.optional (onlyComplains_publishBlock settings) job
    "after_success").bind fun _ => ?_
  refine (OnlyComplains.field (onlyComplains_text _) job "language" "").bind fun _ => ?_
  refine (OnlyComplains.field (onlyComplains_text _) job "toolchain" "stable").bind fun _ => ?_
  refine (OnlyComplains.field (onlyComplains_entries _) job "env" []).bind fun _ => ?_
  refine (OnlyComplains.field (onlyComplains_text _) job "platform" "linux").bind fun _ => ?_
  exact onlyComplains_ok _

/-- The parts are read from what stands under the keys of a job, and from nothing else. -/
theorem parts_congr {settings : Settings} {job job' : Table}
    (h : ∀ k ∈ jobKeys, job.get? k = job'.get? k) : parts settings job = parts settings job' := by
  simp only [jobKeys, List.forall_mem_cons] at h
  obtain ⟨hplatform, htoolchain, hinstall, hscript, hblock, hlanguage, henv, -⟩ := h
  simp only [parts, field, optional, hplatform, htoolchain, hinstall, hscript, hblock, hlanguage,
    henv]

theorem platform_of_parts {settings : Settings} {job : Table} {d : Draft}
    (h : parts settings job = .ok d) : d.platform ≠ none := by
  simp only [parts, bind_eq_ok] at h
  obtain ⟨_, -, _, -, _, -, _, -, _, -, _, -, _, -, _, -, platform, -, h⟩ := h
  obtain rfl := Except.ok.inj h
  exact Option.some_ne_none _

/-- A draft is read if its parts are and no option has the reserved name. -/
theorem draft_eq_ok_iff {settings : Settings} {job : Table} {d : Draft} :
    draft settings job = .ok d ↔ ∃ p, parts settings job = .ok p ∧ "cls" ∉ job.keys ∧
      d = { p with unknown := unknownOptions job } := by
  rw [draft_eq, bind_eq_ok]
  refine exists_congr fun p => and_congr_right fun _ => ?_
  split
  · rename_i hreserved
    exact iff_of_false nofun fun h => h.1 hreserved
  · rename_i hfree
    rw [Except.ok.injEq, eq_comm]
    exact (and_iff_right hfree).symm

theorem draft_eq_error {settings : Settings} {job : Table} {f : Fault}
    (h : draft settings job = .error f) :
    parts settings job = .error f ∨
      (∃ p, parts settings job = .ok p) ∧ "cls" ∈ job.keys ∧ f = .reserved "cls" := by
  rw [draft_eq, bind_eq_error] at h
  rcases h with h | ⟨p, hp, h⟩
  · exact Or.inl h
  · split at h
    · exact Or.inr ⟨⟨p, hp⟩, ‹_›, (Except.error.inj h).symm⟩
    · cases h

/-- The job has the option of the reserved name, and would be read without it. -/
def StopsAtReserved (settings : Settings) (document : Table) : Prop :=
  ∃ (job : Table) (d : Draft), document.get? "job" = some (.table job) ∧ "cls" ∈ job.keys ∧
    draft settings (job.without "cls") = .ok d

/-- The parts of a job are read alike with and without the option of the reserved name. -/
theorem parts_without_reserved (settings : Settings) (job : Table) :
    parts settings (job.without "cls") = parts settings job := by
  refine parts_congr fun k hk => Data.Table.get?_without_of_ne ?_
  rintro rfl
  exact absurd hk (by decide)

theorem parse_of_stopsAtReserved {settings : Settings} {document : Table}
    (h : StopsAtReserved settings document) :
    parse settings document = .error (.reserved "cls") := by
  obtain ⟨job, d, hjob, hreserved, hd⟩ := h
  obtain ⟨p, hp, -, -⟩ := draft_eq_ok_iff.mp hd
  rw [parts_without_reserved] at hp
  cases hdraft : draft settings job with
  | ok d' =>
    obtain ⟨-, -, hfree, -⟩ := draft_eq_ok_iff.mp hdraft
    exact absurd hreserved hfree
  | error f =>
    rcases draft_eq_error hdraft with hparts | ⟨-, -, rfl⟩
    · rw [hp] at hparts
      cases hparts
    · simp only [parse, hjob, hdraft]
      rfl

theorem isComplaint_of_parse {settings : Settings} {document : Table} {f : Fault}
    (h : parse settings document = .error f) :
    f.isComplaint = true ∨ StopsAtReserved settings document := by
  unfold parse at h
  split at h
  · rename_i job hjob
    rcases bind_eq_error.mp h with h | ⟨d, hd, h⟩
    · rcases draft_eq_error h with h | ⟨⟨p, hp⟩, hreserved, -⟩
      · exact Or.inl (onlyComplains_parts settings job f h)
      · -- the parts have been read, and without the option nothing stands in the way
        refine Or.inr ⟨job, _, hjob, hreserved, draft_eq_ok_iff.mpr ⟨p, ?_, ?_, rfl⟩⟩
        · rw [parts_without_reserved, hp]
        · exact fun hmem => (Data.Table.mem_keys_without.mp hmem).2 rfl
    · -- what the draft is refused for is complained of, since it has a platform
      obtain ⟨p, hp, -, rfl⟩ := draft_eq_ok_iff.mp hd
      cases hcreate : Spec.create { p with unknown := unknownOptions job } with
      | ok spec =>
        rw [hcreate] at h
        cases h
      | error f' =>
        rw [hcreate] at h
        obtain rfl := Except.error.inj h
        have hplatform : p.platform ≠ none := platform_of_parts hp
        exact Or.inl (Spec.isComplaint_of_applies (Spec.applies_of_create hcreate) hplatform)
  · obtain rfl := Except.error.inj h
    exact Or.inl rfl

/-- **A manifest describes a job or is refused with a complaint**, exactly if it does not have the
option of the reserved name in a job that is read without it. -/
theorem parse_complains_iff (settings : Settings) (document : Table) :
    ((∃ spec, parse settings document = .ok spec) ∨
        (∃ f, parse settings document = .error f ∧ f.isComplaint = true) ↔
      ¬StopsAtReserved settings document) ∧
      (StopsAtReserved settings document →
        parse settings document = .error (.reserved "cls")) := by
  refine ⟨?_, parse_of_stopsAtReserved⟩
  constructor
  · rintro hends hstops
    rw [parse_of_stopsAtReserved hstops] at hends
    rcases hends with ⟨spec, ⟨⟩⟩ | ⟨f, hf, hcomplaint⟩
    obtain rfl := Except.error.inj hf
    cases hcomplaint
  · intro hruns
    cases h : parse settings document with
    | ok spec => exact Or.inl ⟨spec, rfl⟩
    | error f => exact Or.inr ⟨f, rfl, (isComplaint_of_parse h).resolve_right hruns⟩

/-- **An option that is refused without a complaint**, while any other one is complained of. -/
theorem parse_of_reserved_option :
    let document (option : String) : Table := [("job", .table [(option, .number (.whole 1))])]
    parse {} (document "cls") = .error (.reserved "cls") ∧
      (Fault.reserved "cls").isComplaint = false ∧
      parse {} (document "colour") = .error (.spec (.unknownOptions ["colour"])) ∧
      (Fault.spec (.unknownOptions ["colour"])).isComplaint = true := by
  refine ⟨?_, rfl, ?_, rfl⟩
  · cbv
  · cbv

end BuildLine.Job.Manifest
