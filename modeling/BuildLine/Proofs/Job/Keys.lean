import BuildLine.Proofs.Job.Entries
import BuildLine.Proofs.Job.Refusal

/-!
# Which keys a manifest may have

A key that means nothing is most likely one that was misspelt, and what stands under it does not
happen. Within the table of the job this is found out on every level, though not in one way: the
entries and the table of what is published look through their keys, while the options of the job
that are left over keep the draft from being admitted. Only the variables are free.

Nobody looks at what stands beside the table of the job. So an accepted manifest has known keys only
exactly if it has no key but `job` (`knownKeys_iff`). With any others it is accepted all the same
and describes the same job, as `parse_of_misplaced_table` does, which publishes nothing.
-/

namespace BuildLine.Job.Manifest

open Data (Value Table)

/-- Every key means something in its place, on all levels but in the tables of variables. -/
structure KnownKeys (document : Table) : Prop where
  outer : document.keys ⊆ ["job"]
  job : ∀ job, document.get? "job" = some (.table job) → Table.keys job ⊆
    ["platform", "language", "toolchain", "install", "script", "env", "after_success"]
  publish : ∀ job after, document.get? "job" = some (.table job) →
    Table.get? job "after_success" = some (.table after) →
      Table.keys after ⊆ ["branch", "pull_request", "steps"]
  stages : ∀ t, .table t ∈ stageEntries document → Table.keys t ⊆
    ["name", "run", "role", "for_each", "cwd", "timeout", "env", "secret"]

variable {settings : Settings} {document : Table} {spec : Spec}

/-! ### Level by level -/

theorem keys_subset_of_checkKeys {place : String} {known : List String} {t : Table}
    (h : checkKeys place known t = .ok ()) : t.keys ⊆ known := by
  simp only [checkKeys] at h
  split at h
  · rename_i hnone
    intro k hk
    by_contra hknown
    rw [List.isEmpty_iff, List.filter_eq_nil_iff] at hnone
    exact hnone k hk (by simpa using hknown)
  · cases h

/-- The options of a job are those that a job has, since the others keep it from being made. -/
theorem keys_job_of_parse (h : parse settings document = .ok spec) {job : Table}
    (hjob : document.get? "job" = some (.table job)) : job.keys ⊆ jobKeys := by
  obtain ⟨d, hd, hspec⟩ := draft_of_parse h hjob
  obtain ⟨p, -, -, rfl⟩ := draft_eq_ok_iff.mp hd
  have hknown : unknownOptions job = [] := (Spec.create_eq_ok_iff.mp hspec).known
  intro k hk
  by_contra hunknown
  exact List.not_mem_nil (hknown ▸ mem_unknownOptions.mpr ⟨hk, hunknown⟩)

theorem keys_publish_of_parse (h : parse settings document = .ok spec) {job after : Table}
    (hjob : document.get? "job" = some (.table job))
    (hafter : job.get? "after_success" = some (.table after)) : after.keys ⊆ publishKeys := by
  obtain ⟨d, hd, -⟩ := draft_of_parse h hjob
  obtain ⟨-, -, hblock, -⟩ := draft_eq_ok hd
  obtain ⟨b, -, hread⟩ := optional_of_get? hblock hafter nofun
  obtain ⟨t, ht, hkeys, -⟩ := publishBlock_eq_ok hread
  obtain rfl := Value.table.inj ht
  exact keys_subset_of_checkKeys hkeys

theorem keys_of_describes {t : Table} {s : Stage} (h : Describes (.table t) s) :
    t.keys ⊆ stageKeys := by
  rcases h with ⟨place, fallback, hread⟩ | ⟨run, i, hcommand, -⟩
  · obtain ⟨t', ht, haccepts⟩ := stage_eq_ok hread
    obtain rfl := Value.table.inj ht
    exact keys_subset_of_checkKeys haccepts.keys
  · cases hcommand

/-- What stands beside the table of the job is not read. -/
theorem parse_congr {document' : Table} (h : document.get? "job" = document'.get? "job") :
    parse settings document = parse settings document' := by
  rw [parse, parse, h]

/-! ### All levels -/

/-- **An accepted manifest has known keys only**, exactly if it has no key but the one of the job:
below it every key is known, and beside it any key is accepted and ignored. -/
theorem knownKeys_iff (h : parse settings document = .ok spec) :
    (KnownKeys document ↔ ∀ k ∈ document.keys, k = "job") ∧
      ∀ others : Table, "job" ∉ others.keys →
        parse settings (others ++ document) = .ok spec ∧
          (others ≠ [] → ¬KnownKeys (others ++ document)) := by
  have hbeside : ∀ keys : List String, keys ⊆ ["job"] ↔ ∀ k ∈ keys, k = "job" :=
    fun keys => by simp [List.subset_def]
  refine ⟨⟨fun hknown => (hbeside _).mp hknown.outer, fun honly => ?_⟩,
    fun others hothers => ⟨?_, fun hne hknown => ?_⟩⟩
  · refine ⟨(hbeside _).mpr honly, fun job hjob => ?_, fun job after hjob hafter => ?_,
      fun t ht => ?_⟩
    · exact List.Subset.trans (keys_job_of_parse h hjob) (by decide)
    · exact List.Subset.trans (keys_publish_of_parse h hjob hafter) (by decide)
    · obtain ⟨s, -, hdescribes⟩ := exists_stage_of_mem_stageEntries h ht
      exact List.Subset.trans (keys_of_describes hdescribes) (by decide)
  · have hjob : Table.get? (others ++ document) "job" = document.get? "job" := by
      rw [Table.get?_append, Table.get?_eq_none_iff.mpr hothers, Option.none_or]
    rw [parse_congr hjob, h]
  · cases others with
    | nil => exact hne rfl
    | cons e others =>
      have hkey : e.1 = "job" := (hbeside _).mp hknown.outer e.1 (List.mem_cons_self ..)
      exact hothers (hkey ▸ List.mem_cons_self ..)

/-- A job that renders a site, with a key for everything that it says. -/
def siteJob : Table :=
  [("platform", .text "linux"), ("env", .table [("anything", .text "goes")]),
    ("install", .list [.text "make tools"]),
    ("script", .list [.table
      [("name", .text "docs"), ("run", .text "check \x7bfile\x7d"), ("role", .text "doc-test"),
       ("for_each", .text "**/*.md"), ("cwd", .text "book"), ("env", .table [("A", .text "1")])]]),
    ("after_success", .table [("branch", .text "main"), ("steps", .list [.table
      [("name", .text "push"), ("run", .text "git push"), ("role", .text "push"),
       ("timeout", .number (.whole 60)), ("secret", .bool true)]])])]

/-- What the site is drafted as. -/
def siteDraft : Draft where
  platform := some (.text "linux")
  install := [.command "make tools"]
  script :=
    [{ name := "docs", run := "check \x7bfile\x7d", role := .docTest, cwd := some "book"
       env := [("A", .text "1")], work := .forEach "**/*.md" }]
  afterSuccess := some {
    rule := { branch := "main" }
    steps :=
      [{ name := "push", run := "git push", role := .push, timeout := some (.whole 60)
         work := .once (some "LINEAR_CI_TOKEN") }] }
  env := [("anything", .text "goes")]

/-- The job of the site. -/
def siteSpec : Spec where
  platform := .text "linux"
  toolchain := "stable"
  install := [{ name := "install-0", run := "make tools", role := .install }]
  script := siteDraft.script
  afterSuccess := siteDraft.afterSuccess
  env := siteDraft.env

/-- A manifest of known keys, and what comes of it when a table is added that means nothing. -/
theorem knownKeys_iff_site :
    parse {} [("job", .table siteJob)] = .ok siteSpec ∧ KnownKeys [("job", .table siteJob)] ∧
      parse {} [("jobs", .table siteJob), ("job", .table siteJob)] = .ok siteSpec ∧
      ¬KnownKeys [("jobs", .table siteJob), ("job", .table siteJob)] := by
  have hnames : siteSpec.stages.map Stage.name = ["install-0", "docs", "push"] := rfl
  have hspec : Spec.create siteDraft = .ok siteSpec :=
    Spec.create_eq_ok_iff.mpr
      { toolchain := rfl
        install := by cbv
        script := by cbv
        block := by cbv
        platform := rfl
        known := rfl
        language := rfl
        env := rfl
        names := hnames ▸ rfl }
  have hparse : parse {} [("job", .table siteJob)] = .ok siteSpec :=
    parse_of_create rfl (by cbv) hspec
  obtain ⟨hknown, hbeside⟩ := knownKeys_iff hparse
  obtain ⟨haccepted, hunknown⟩ := hbeside [("jobs", .table siteJob)] (by decide)
  exact ⟨hparse, hknown.mpr (by simp [Table.keys]), haccepted, hunknown (List.cons_ne_nil _ _)⟩

/-- **A phase that is lost without a word**: the table of what is published stands beside the job
instead of within it. -/
theorem parse_of_misplaced_table :
    let steps : Value := .list [.table
      [("name", .text "push"), ("run", .text "git push"), ("role", .text "push")]]
    let document : Table := [("job", .table []), ("after_success", .table [("steps", steps)])]
    let spec : Spec :=
      { platform := .text "linux", toolchain := "stable", install := [], script := [] }
    parse {} document = .ok spec ∧ spec.publishSteps = [] ∧ ¬KnownKeys document := by
  intro steps document spec
  refine ⟨by cbv, rfl, fun hknown => ?_⟩
  have hkey : "after_success" ∈ document.keys := by simp [document, Table.keys]
  exact absurd (hknown.outer hkey) (by decide)

end BuildLine.Job.Manifest
