import BuildLine.Job.Manifest
import BuildLine.Proofs.Data.Chain

/-!
# What an accepted manifest says

A manifest is read by a chain of checks, and what has been accepted has passed all of them. The
chain is taken apart link by link here: `parse_eq_ok` leads from a specification back to the draft
and the table that it was read from, and `stage_eq_ok` from a stage back to the fields of its entry.

The first thing to be read off is where a stage has its credential from: it asks for it exactly if
its entry says `secret = true` (`secretVar_of_describes`), and any entry may say so, whichever list
it stands in.
-/

namespace BuildLine.Job

open Data (Value Table Number)

/-- The pattern of a stage, if it has one, is not empty and does not begin at the root of the file
system. -/
def Stage.Relative (s : Stage) : Prop :=
  ∀ p, s.pattern? = some p → p.isEmpty = false ∧ p.startsWith "/" = false

/-! ### Specifications -/

namespace Spec

theorem ordered_eq_ok {allowed : List Role} {phase : String} {stages out : List Stage}
    (h : ordered allowed phase stages = .ok out) :
    out = sorted stages ∧ ∀ s ∈ stages, s.role ∈ allowed := by
  unfold ordered at h
  split at h
  · cases h
  · rename_i hall
    obtain rfl := Except.ok.inj h
    exact ⟨rfl, by simpa using hall⟩

theorem mem_sorted {stages : List Stage} {s : Stage} : s ∈ sorted stages ↔ s ∈ stages :=
  List.mem_mergeSort

/-- A stage of the installation was drafted as such, or as a command that got its name from its
place. -/
theorem mem_installStages {steps : List InstallStep} {i : Nat} {s : Stage}
    (h : s ∈ installStages i steps) :
    .stage s ∈ steps ∨
      ∃ (run : String) (j : Nat), .command run ∈ steps ∧
        s = { name := s!"install-{j}", run, role := .install } := by
  induction steps generalizing i with
  | nil => cases h
  | cons step steps ih =>
    cases step with
    | command run =>
      rcases List.mem_cons.mp h with rfl | h
      · exact Or.inr ⟨run, i, List.mem_cons_self .., rfl⟩
      · rcases ih h with hstep | ⟨run, j, hstep, rfl⟩
        · exact Or.inl (List.mem_cons_of_mem _ hstep)
        · exact Or.inr ⟨run, j, List.mem_cons_of_mem _ hstep, rfl⟩
    | stage s' =>
      rcases List.mem_cons.mp h with rfl | h
      · exact Or.inl (List.mem_cons_self ..)
      · rcases ih h with hstep | ⟨run, j, hstep, rfl⟩
        · exact Or.inl (List.mem_cons_of_mem _ hstep)
        · exact Or.inr ⟨run, j, List.mem_cons_of_mem _ hstep, rfl⟩

/-- What is published is published under the same rule, and the steps are related. -/
def BlocksBy (R : List Stage → List Stage → Prop) :
    Option PublishBlock → Option PublishBlock → Prop :=
  Option.Rel fun b b' => b'.rule = b.rule ∧ R b.steps b'.steps

theorem orderedBlock_eq_ok_iff {block out : Option PublishBlock} :
    orderedBlock block = .ok out ↔
      BlocksBy (fun xs ys => ordered Role.publish "publish" xs = .ok ys) block out := by
  cases block with
  | none =>
    constructor
    · intro h
      obtain rfl := Except.ok.inj h
      exact .none
    · rintro ⟨⟩
      rfl
  | some b =>
    rw [orderedBlock, bind_eq_ok]
    constructor
    · rintro ⟨steps, hsteps, h⟩
      obtain rfl := Except.ok.inj h
      exact .some ⟨rfl, hsteps⟩
    · intro h
      cases h with
      | @some _ b' h =>
        refine ⟨b'.steps, h.2, ?_⟩
        rw [← h.1]
        rfl

theorem BlocksBy.exists_left {R : List Stage → List Stage → Prop} {block : Option PublishBlock}
    {b' : PublishBlock} (h : BlocksBy R block (some b')) :
    ∃ b, block = some b ∧ b'.rule = b.rule ∧ R b.steps b'.steps := by
  cases h with
  | some h => exact ⟨_, rfl, h⟩

/-- The draft passes all checks, and this is the specification that comes of it. -/
structure Makes (d : Draft) (spec : Spec) : Prop where
  toolchain : checkToolchain d.toolchain = .ok spec.toolchain
  install : ordered [.install] "install" (installStages 0 d.install) = .ok spec.install
  script : ordered Role.main "main" d.script = .ok spec.script
  block : orderedBlock d.afterSuccess = .ok spec.afterSuccess
  platform : d.platform = some spec.platform
  known : d.unknown = []
  language : spec.language = d.language
  env : spec.env = d.env
  names : checkNames [] (spec.stages.map Stage.name) = .ok ()

/-- **When a draft becomes a specification.** -/
theorem create_eq_ok_iff {d : Draft} {spec : Spec} : create d = .ok spec ↔ Makes d spec := by
  constructor
  · intro h
    simp only [create, bind_eq_ok] at h
    obtain ⟨toolchain, htoolchain, install, hinstall, script, hscript, block, hblock, h⟩ := h
    split at h
    · rename_i platform hplatform
      split at h
      · cases h
      · rename_i hknown
        simp only [bind_eq_ok] at h
        obtain ⟨⟨⟩, hnames, h⟩ := h
        obtain rfl := Except.ok.inj h
        exact ⟨htoolchain, hinstall, hscript, hblock, hplatform, by simpa using hknown, rfl, rfl,
          hnames⟩
    · cases h
  · rintro ⟨htoolchain, hinstall, hscript, hblock, hplatform, hknown, hlanguage, henv, hnames⟩
    obtain ⟨platform, toolchain, install, script, block, language, env⟩ := spec
    simp only at *
    subst hlanguage henv
    simp [create, bind_eq_ok, htoolchain, hinstall, hscript, hblock, hplatform, hknown, hnames]

end Spec

namespace Manifest

/-! ### Fields -/

theorem text_eq_ok {what : String} {v : Value} {s : String} (h : text what v = .ok s) :
    v = .text s := by
  cases v with
  | text s' =>
    obtain rfl := Except.ok.inj h
    rfl
  | _ => cases h

theorem items_eq_ok {what : String} {v : Value} {vs : List Value} (h : items what v = .ok vs) :
    v = .list vs := by
  cases v with
  | list vs' =>
    obtain rfl := Except.ok.inj h
    rfl
  | _ => cases h

theorem truth_eq_ok {what : String} {v : Value} {b : Bool} (h : truth what v = .ok b) :
    v = .bool b := by
  cases v with
  | bool b' =>
    obtain rfl := Except.ok.inj h
    rfl
  | _ => cases h

theorem table_eq_ok {place : String} {v : Value} {t : Table} (h : table place v = .ok t) :
    v = .table t := by
  cases v with
  | table t' =>
    obtain rfl := Except.ok.inj h
    rfl
  | _ => cases h

theorem required_eq_ok {place key : String} {t : Table} {v : Value}
    (h : required place t key = .ok v) : t.get? key = some v := by
  unfold required at h
  split at h
  · cases h
  · obtain rfl := Except.ok.inj h
    assumption

/-- The list under a key; there is an empty one if there is none. -/
def listUnder (t : Table) (key : String) : List Value :=
  match t.get? key with
  | some (.list vs) => vs
  | _ => []

theorem optional_eq_ok {t : Table} {key : String} {f : Value → Except Fault α} {a : α}
    (h : optional t key f = .ok (some a)) : ∃ v, t.get? key = some v ∧ f v = .ok a := by
  unfold optional at h
  split at h
  · cases h
  · cases h
  · rename_i v _ _
    cases hv : f v with
    | error e =>
      rw [hv] at h
      cases h
    | ok a' =>
      rw [hv] at h
      exact ⟨v, ‹_›, by rw [hv, Option.some.inj (Except.ok.inj h)]⟩

/-- What stands under a key and is not the empty value has been read. -/
theorem optional_of_get? {t : Table} {key : String} {f : Value → Except Fault α} {r : Option α}
    {v : Value} (h : optional t key f = .ok r) (hv : t.get? key = some v) (hne : v ≠ .null) :
    ∃ a, r = some a ∧ f v = .ok a := by
  unfold optional at h
  rw [hv] at h
  split at h
  · cases ‹some v = none›
  · exact absurd (Option.some.inj ‹_›) hne
  · obtain rfl := Option.some.inj ‹_›
    cases hread : f v with
    | error e =>
      rw [hread] at h
      cases h
    | ok a =>
      rw [hread] at h
      exact ⟨a, (Except.ok.inj h).symm, rfl⟩

theorem eq_none_or_null_of_optional {t : Table} {key : String} {f : Value → Except Fault α}
    (h : optional t key f = .ok none) : t.get? key = none ∨ t.get? key = some .null := by
  cases hv : t.get? key with
  | none => exact Or.inl rfl
  | some v =>
    by_cases hnull : v = .null
    · exact Or.inr (congrArg some hnull)
    · obtain ⟨a, ha, -⟩ := optional_of_get? h hv hnull
      cases ha

theorem field_items_eq_ok {what key : String} {t : Table} {vs : List Value}
    (h : field t key [] (items what) = .ok vs) : vs = listUnder t key := by
  unfold field at h
  unfold listUnder
  split at h
  · rename_i hnone
    rw [hnone]
    exact (Except.ok.inj h).symm
  · rename_i v hsome
    rw [hsome, items_eq_ok h]

/-! ### Stages -/

/-- An entry asks for the credential. -/
def asksForCredential : Value → Bool
  | .table t =>
    match Table.get? t "secret" with
    | some (.bool b) => b
    | _ => false
  | _ => false

/-- What a stage has from its entry. -/
structure Accepts (place : String) (fallback : Option Role) (t : Table) (s : Stage) : Prop where
  /-- All keys are known. -/
  keys : checkKeys place stageKeys t = .ok ()
  /-- The name. -/
  name : t.get? "name" = some (.text s.name)
  /-- The template of the command. -/
  run : t.get? "run" = some (.text s.run)
  /-- The role. -/
  role : role place s.name fallback t = .ok s.role
  /-- The variables, which are written as texts. -/
  env : ∃ env, field t "env" [] (entries ("env of " ++ s.name)) = .ok env ∧
    s.env = env.map fun e => (e.1, .text e.2.display)
  /-- The directory. -/
  cwd : optional t "cwd" (text ("cwd of " ++ s.name)) = .ok s.cwd
  /-- The limit of time. -/
  timeout : optional t "timeout" (limit s.name) = .ok s.timeout
  /-- What is run. -/
  work : ∃ secret, field t "secret" false (truth ("secret of " ++ s.name)) = .ok secret ∧
    work t s.name secret = .ok s.work

/-- **A stage was accepted field by field.** -/
theorem stage_eq_ok {place : String} {fallback : Option Role} {entry : Value} {s : Stage}
    (h : stage place fallback entry = .ok s) :
    ∃ t, entry = .table t ∧ Accepts place fallback t s := by
  simp only [stage, bind_eq_ok] at h
  obtain ⟨t, ht, ⟨⟩, hkeys, nameValue, hname, name, hname', runValue, hrun, run, hrun', role, hrole,
    env, henv, cwd, hcwd, timeout, htimeout, secret, hsecret, work, hwork, h⟩ := h
  obtain rfl := Except.ok.inj h
  obtain rfl := text_eq_ok hname'
  obtain rfl := text_eq_ok hrun'
  exact ⟨t, table_eq_ok ht, hkeys, required_eq_ok hname, required_eq_ok hrun, hrole,
    ⟨env, henv, rfl⟩, hcwd, htimeout, ⟨secret, hsecret, hwork⟩⟩

theorem work_eq_ok {t : Table} {name : String} {secret : Bool} {w : Work}
    (h : work t name secret = .ok w) :
    w = .once (if secret then some Settings.secretVar else none) ∨
      secret = false ∧ ∃ pattern, w = .forEach pattern ∧ pattern.isEmpty = false ∧
        pattern.startsWith "/" = false := by
  unfold work at h
  split at h
  · exact Or.inl (Except.ok.inj h).symm
  · simp only [bind_eq_ok] at h
    obtain ⟨pattern, -, h⟩ := h
    split at h
    · cases h
    · rename_i hrelative
      rw [Bool.not_eq_true, Bool.or_eq_false_iff] at hrelative
      -- a stage for each file that asks for the credential is refused
      cases secret with
      | true => cases h
      | false => exact Or.inr ⟨rfl, pattern, (Except.ok.inj h).symm, hrelative⟩

theorem field_secret_eq_ok {what : String} {t : Table} {secret : Bool}
    (h : field t "secret" false (truth what) = .ok secret) :
    secret = asksForCredential (.table t) := by
  unfold field at h
  simp only [asksForCredential]
  split at h
  · rename_i hnone
    rw [hnone]
    exact (Except.ok.inj h).symm
  · rename_i v hsome
    rw [hsome, truth_eq_ok h]

theorem Accepts.secretVar_eq {place : String} {fallback : Option Role} {t : Table} {s : Stage}
    (h : Accepts place fallback t s) :
    s.secretVar = if asksForCredential (.table t) then some Settings.secretVar else none := by
  obtain ⟨secret, hsecret, hwork⟩ := h.work
  rw [← field_secret_eq_ok hsecret, Stage.secretVar]
  rcases work_eq_ok hwork with hw | ⟨rfl, pattern, hw, -⟩
  · rw [hw]
  · rw [hw]
    rfl

theorem Accepts.relative {place : String} {fallback : Option Role} {t : Table} {s : Stage}
    (h : Accepts place fallback t s) : s.Relative := by
  intro pattern hp
  obtain ⟨secret, -, hwork⟩ := h.work
  rw [Stage.pattern?] at hp
  rcases work_eq_ok hwork with hw | ⟨-, pattern', hw, hrelative⟩
  · rw [hw] at hp
    cases hp
  · rw [hw] at hp
    exact Option.some.inj hp ▸ hrelative

/-! ### The job -/

/-- The entries of a document that describe the main phase: those of the installation and those of
the script. -/
def mainEntries (document : Table) : List Value :=
  match document.get? "job" with
  | some (.table job) => listUnder job "install" ++ listUnder job "script"
  | _ => []

/-- An entry describes a stage: it was read as this stage, or it is a bare command that got its name
from its place. -/
def Describes (entry : Value) (s : Stage) : Prop :=
  (∃ place role, stage place role entry = .ok s) ∨
    ∃ (run : String) (i : Nat), entry = .text run ∧
      s = { name := s!"install-{i}", run, role := .install }

/-- **A stage asks for the credential exactly if its entry does.** -/
theorem secretVar_of_describes {entry : Value} {s : Stage} (h : Describes entry s) :
    s.secretVar = if asksForCredential entry then some Settings.secretVar else none := by
  rcases h with ⟨place, role, h⟩ | ⟨run, i, rfl, rfl⟩
  · obtain ⟨t, rfl, ht⟩ := stage_eq_ok h
    exact ht.secretVar_eq
  · rfl

theorem draft_eq_ok {settings : Settings} {job : Table} {d : Draft}
    (h : draft settings job = .ok d) :
    List.Forall₂ (fun v step => installStep v = .ok step) (listUnder job "install") d.install ∧
      List.Forall₂ (fun v s => stage "job.script" none v = .ok s) (listUnder job "script")
        d.script ∧
      optional job "after_success" (publishBlock settings) = .ok d.afterSuccess ∧
      field job "env" [] (entries "job.env") = .ok d.env := by
  simp only [draft, bind_eq_ok] at h
  obtain ⟨installValues, hinstall, install, hinstall', scriptValues, hscript, script, hscript',
    block, hblock, language, -, toolchain, -, env, henv, platform, -, h⟩ := h
  split at h
  · cases h
  · obtain rfl := Except.ok.inj h
    obtain rfl := field_items_eq_ok hinstall
    obtain rfl := field_items_eq_ok hscript
    exact ⟨forall₂_of_mapM hinstall', forall₂_of_mapM hscript', hblock, henv⟩

theorem entries_eq_ok {what : String} {v : Value} {t : Table} (h : entries what v = .ok t) :
    v = .table t := by
  cases v with
  | table t' =>
    obtain rfl := Except.ok.inj h
    rfl
  | _ => cases h

theorem publishBlock_eq_ok {settings : Settings} {v : Value} {b : PublishBlock}
    (h : publishBlock settings v = .ok b) :
    ∃ t, v = .table t ∧ checkKeys "job.after_success" publishKeys t = .ok () ∧
      List.Forall₂ (fun v s => stage "job.after_success.steps" none v = .ok s)
        (listUnder t "steps") b.steps := by
  simp only [publishBlock, bind_eq_ok] at h
  obtain ⟨t, ht, branch, -, allow, -, values, hvalues, steps, hsteps, ⟨⟩, hkeys, h⟩ := h
  obtain rfl := Except.ok.inj h
  obtain rfl := field_items_eq_ok hvalues
  exact ⟨t, entries_eq_ok ht, hkeys, forall₂_of_mapM hsteps⟩

theorem parse_eq_ok {settings : Settings} {document : Table} {spec : Spec}
    (h : parse settings document = .ok spec) :
    ∃ job d, document.get? "job" = some (.table job) ∧ draft settings job = .ok d ∧
      Spec.create d = .ok spec := by
  unfold parse at h
  split at h
  · rename_i job hjob
    obtain ⟨d, hd, hspec⟩ := bind_eq_ok.mp h
    refine ⟨job, d, hjob, hd, ?_⟩
    cases hcreate : Spec.create d with
    | error f =>
      rw [hcreate] at hspec
      cases hspec
    | ok spec' =>
      rw [hcreate] at hspec
      exact congrArg _ (Except.ok.inj hspec)
  · cases h

/-- The same of a table of which it is known that it is the job. -/
theorem draft_of_parse {settings : Settings} {document job : Table} {spec : Spec}
    (h : parse settings document = .ok spec) (hjob : document.get? "job" = some (.table job)) :
    ∃ d, draft settings job = .ok d ∧ Spec.create d = .ok spec := by
  obtain ⟨job', d, hjob', hd, hspec⟩ := parse_eq_ok h
  obtain rfl : job = job' := Value.table.inj (Option.some.inj (hjob.symm.trans hjob'))
  exact ⟨d, hd, hspec⟩

theorem parse_of_create {settings : Settings} {document job : Table} {d : Draft} {spec : Spec}
    (hjob : document.get? "job" = some (.table job)) (hd : draft settings job = .ok d)
    (hspec : Spec.create d = .ok spec) : parse settings document = .ok spec := by
  simp only [parse, hjob]
  exact bind_eq_ok.mpr ⟨d, hd, by rw [hspec]; rfl⟩

theorem installStep_eq_ok {v : Value} {step : InstallStep} (h : installStep v = .ok step) :
    (∃ run, v = .text run ∧ step = .command run) ∨
      ∃ s, stage "job.install" (some .install) v = .ok s ∧ step = .stage s := by
  unfold installStep at h
  split at h
  · exact Or.inl ⟨_, rfl, (Except.ok.inj h).symm⟩
  · cases hs : stage "job.install" (some .install) v with
    | error f =>
      rw [hs] at h
      cases h
    | ok s =>
      rw [hs] at h
      exact Or.inr ⟨s, rfl, (Except.ok.inj h).symm⟩

end Manifest

end BuildLine.Job
