import BuildLine.Job.Search
import BuildLine.Proofs.Command.Template
import BuildLine.Shell.Token

/-!
# Values stay in their words

What a shell makes of a character depends on the quotes that it has read before. A `Reader` keeps
track of them: it goes through a command character by character, and keeps the words that it has
read and every character that it met outside quotes. It knows quotes and nothing else; it neither
expands anything nor leaves comments out.

A value that is put into a command is written as one word (`Word.encode`). The reader finds the
value in it again, character by character, each standing for itself, and nothing outside quotes that
could mean something (`Reader.takes_encode`). This holds wherever the reader is outside quotes, and
so in every place of a template that is not between quotes of the template itself
(`staysInWord`).
-/

namespace BuildLine.Command

/-- What the quotes that were read make of the next character. -/
inductive Quoting where
  /-- It stands outside quotes. -/
  | unquoted
  /-- It stands behind a backslash, which may stand between double quotes. -/
  | backslash (inDouble : Bool)
  /-- It stands between single quotes. -/
  | single
  /-- It stands between double quotes. -/
  | double
  deriving DecidableEq, Repr

/-- A character of a word. -/
inductive Glyph where
  /-- The character stands for itself. -/
  | literal (c : Char)
  /-- The character has a meaning: it expands to something or matches something. -/
  | active (c : Char)
  deriving DecidableEq, Repr

/-- How far a command has been read. -/
structure Reader where
  /-- What the quotes make of the next character. -/
  quoting : Quoting := .unquoted
  /-- The words that have ended. -/
  words : List (List Glyph) := []
  /-- The word that has begun, if one has. -/
  current : Option (List Glyph) := none
  /-- The characters that were read outside quotes, without those that quote. -/
  exposed : List Char := []
  deriving DecidableEq, Repr

namespace Reader

/-- The word has begun, even if nothing follows. -/
def opened (r : Reader) : Reader :=
  { r with current := some (r.current.getD []) }

/-- The word goes on with a character. -/
def put (r : Reader) (g : Glyph) : Reader :=
  { r with current := some (r.current.getD [] ++ [g]) }

/-- The characters that end a word where they are not quoted. -/
def endsWord (c : Char) : Bool :=
  Shell.Token.isBlank c || c = '\n' || Shell.Token.isOperatorChar c

/-- The characters that have a meaning within a word where they are not quoted. -/
def isActive (c : Char) : Bool :=
  ['$', '\x60', '*', '?', '[', ']', '~', '#', '!', '{', '}', '^'].contains c

/-- The characters that keep their meaning between double quotes. -/
def isActiveInDouble (c : Char) : Bool :=
  c = '$' || c = '\x60'

/-- The characters that a backslash quotes between double quotes. -/
def isEscapable (c : Char) : Bool :=
  isActiveInDouble c || c = '"' || c = '\\'

/-- Read a character outside quotes that does not quote. -/
def expose (r : Reader) (c : Char) : Reader :=
  let r := { r with exposed := r.exposed ++ [c] }
  if endsWord c then { r with words := r.words ++ r.current.toList, current := none }
  else if isActive c then r.put (.active c)
  else r.put (.literal c)

/-- Read a character. -/
def step (r : Reader) (c : Char) : Reader :=
  match r.quoting with
  | .unquoted =>
    if c = '\'' then { r.opened with quoting := .single }
    else if c = '"' then { r.opened with quoting := .double }
    else if c = '\\' then { r with quoting := .backslash false }
    else r.expose c
  | .backslash inDouble =>
    let r := { r with quoting := if inDouble then .double else .unquoted }
    if c = '\n' then r
    else if inDouble && !isEscapable c then (r.put (.literal '\\')).put (.literal c)
    else r.put (.literal c)
  | .single =>
    if c = '\'' then { r with quoting := .unquoted } else r.put (.literal c)
  | .double =>
    if c = '"' then { r with quoting := .unquoted }
    else if c = '\\' then { r with quoting := .backslash true }
    else if isActiveInDouble c then r.put (.active c)
    else r.put (.literal c)

/-- **Read a text.** -/
def read (r : Reader) (s : List Char) : Reader :=
  s.foldl step r

/-- The reader takes a text, all of it within the word that it is reading, for `v`: every character
of `v` stands for itself, the reader is where it was before, and outside quotes it has met letters,
digits and the marks that mean nothing to a shell. -/
def Takes (r : Reader) (s v : List Char) : Prop :=
  ∃ exposed : List Char,
    (∀ c ∈ exposed,
      c.isAlphanum = true ∨ c ∈ ['_', '@', '%', '+', '=', ':', ',', '.', '/', '-']) ∧
    r.read s =
      { r with
        current := some (r.current.getD [] ++ v.map .literal)
        exposed := r.exposed ++ exposed }

variable {r : Reader} {c : Char} {v : List Char}

@[simp] theorem read_nil (r : Reader) : r.read [] = r := rfl

@[simp] theorem read_cons (r : Reader) (c : Char) (s : List Char) :
    r.read (c :: s) = (r.step c).read s := rfl

theorem read_append (r : Reader) (s t : List Char) : r.read (s ++ t) = (r.read s).read t :=
  List.foldl_append

/-! ### Words -/

/-- A safe character neither quotes nor ends a word nor has a meaning. -/
theorem not_safe (h : c = '\'' ∨ c = '"' ∨ c = '\\' ∨ endsWord c = true ∨ isActive c = true) :
    Word.isSafe c = false := by
  rcases h with rfl | rfl | rfl | h | h
  · decide
  · decide
  · decide
  · simp only [endsWord, Shell.Token.isBlank, Shell.Token.isOperatorChar, Bool.or_eq_true,
      decide_eq_true_iff, List.contains_iff_mem, List.mem_cons, List.not_mem_nil, or_false] at h
    rcases h with ((rfl | rfl) | rfl) | rfl | rfl | rfl | rfl | rfl | rfl | rfl <;> decide
  · simp only [isActive, List.contains_iff_mem, List.mem_cons, List.not_mem_nil, or_false] at h
    rcases h with rfl | rfl | rfl | rfl | rfl | rfl | rfl | rfl | rfl | rfl | rfl | rfl <;> decide

theorem step_safe (hr : r.quoting = .unquoted) (hc : Word.isSafe c = true) :
    r.step c =
      { r with
        current := some (r.current.getD [] ++ [.literal c])
        exposed := r.exposed ++ [c] } := by
  have hnot := mt not_safe (by rw [hc]; decide)
  simp only [not_or, Bool.not_eq_true] at hnot
  obtain ⟨hsingle, hdouble, hbackslash, hends, hactive⟩ := hnot
  simp [step, hr, hsingle, hdouble, hbackslash, expose, hends, hactive, put]

theorem read_safe (hr : r.quoting = .unquoted) (hv : ∀ c ∈ v, Word.isSafe c = true)
    (hne : v ≠ []) :
    r.read v =
      { r with
        current := some (r.current.getD [] ++ v.map .literal)
        exposed := r.exposed ++ v } := by
  induction v generalizing r with
  | nil => exact absurd rfl hne
  | cons c v ih =>
    have hstep := step_safe hr (hv c (List.mem_cons_self ..))
    by_cases hnil : v = []
    · subst hnil
      exact hstep
    · have hrest := ih (r := r.step c) (by rw [hstep]; exact hr)
        (fun d hd => hv d (List.mem_cons_of_mem _ hd)) hnil
      rw [read_cons, hrest, hstep]
      simp

/-- A character between single quotes stands for itself; a quote does so, too, since the quotes are
left for it and entered again. -/
theorem read_quoteChar (hr : r.quoting = .single) (c : Char) :
    r.read (Word.quoteChar c) = r.put (.literal c) := by
  rw [Word.quoteChar]
  split_ifs with hc
  · subst hc
    obtain ⟨quoting, words, current, exposed⟩ := r
    obtain rfl : quoting = .single := hr
    rfl
  · simp [step, hr, hc]

/-- A text between single quotes stands for itself. -/
theorem read_quoted (hr : r.quoting = .single) (v : List Char) :
    r.opened.read (v.flatMap Word.quoteChar) =
      { r with current := some (r.current.getD [] ++ v.map .literal) } := by
  induction v generalizing r with
  | nil => simp [opened]
  | cons c v ih =>
    have hput : r.opened.put (.literal c) = (r.put (.literal c)).opened := by simp [opened, put]
    rw [List.flatMap_cons, read_append, read_quoteChar (r := r.opened) hr, hput,
      ih (r := r.put (.literal c)) hr]
    simp [put]

/-- **A word is taken for what it was made from.** -/
theorem takes_encode (hr : r.quoting = .unquoted) (v : List Char) : r.Takes (Word.encode v) v := by
  unfold Word.encode
  split_ifs with hsafe
  · rw [Bool.and_eq_true, Bool.not_eq_true', List.isEmpty_eq_false_iff, List.all_eq_true] at hsafe
    obtain ⟨hne, hsafe⟩ := hsafe
    refine ⟨v, fun c hc => ?_, read_safe hr hsafe hne⟩
    simpa [Word.isSafe, List.contains_iff_mem] using hsafe c hc
  · -- everything stands between quotes, and nothing is met outside
    refine ⟨[], fun c hc => absurd hc (List.not_mem_nil), ?_⟩
    have hopen : r.step '\'' = Reader.opened { r with quoting := .single } := by
      simp [step, hr, opened]
    rw [List.cons_append, read_cons, hopen, read_append, read_quoted rfl]
    simp [step, hr]

end Reader

/-! ### Commands -/

open Template

/-- **The value stays in its word**: if a reader of what stands in front of the name between braces
is outside quotes there, it takes what is put in for the value, as a part of the word that it is
reading, and then goes on with what stands behind. Braces behind a dollar sign belong to the
shell. -/
def StaysInWord (ps : List (String × Option String)) (a n b v : String) : Prop :=
  a.toList.getLast? ≠ some '$' →
    let before := Reader.read {} (render ps a).toList
    before.quoting = .unquoted →
      ∃ word : String,
        render ps (a ++ placeholder n ++ b) = render ps a ++ word ++ render ps b ∧
          before.Takes word.toList v.toList

theorem staysInWord {ps : List (String × Option String)} {n v : String} (hn : IsName n.toList)
    (hv : ps.lookup n = some (some v)) (a b : String) : StaysInWord ps a n b v := by
  intro hdollar before hbefore
  have hplace : inPlaceOf ps a n = String.ofList (Word.encode v.toList) := by
    simp [inPlaceOf, hv, hdollar]
  refine ⟨inPlaceOf ps a n, render_append ps hn a b, ?_⟩
  rw [hplace, String.toList_ofList]
  exact Reader.takes_encode hbefore v.toList

end BuildLine.Command

namespace BuildLine.Job.Stage

open Command Files Template

variable {ps : List (String × Option String)}

/-- A name that has a value can stand between braces, if all the names of the list can. -/
theorem isName_of_lookup (hps : ∀ n ∈ ps.map Prod.fst, IsName n.toList) {n : String}
    {v : Option String} (h : ps.lookup n = some v) : IsName n.toList := by
  obtain ⟨before, behind, rfl, -⟩ := List.lookup_eq_some_iff.mp h
  exact hps n (by simp)

theorem isName_placeholders (file : Option String) (ctx : Context) :
    ∀ n ∈ (("file", file) :: ctx.placeholders).map Prod.fst, IsName n.toList := by
  simp only [Context.placeholders, List.map_cons, List.map_nil, List.mem_cons, List.not_mem_nil,
    or_false]
  rintro n (rfl | rfl | rfl) <;> decide

/-- The values in a command of the stage: names that can stand between braces, the branch and the
slug among them, and the path if the stage runs for every file. -/
structure Supplies (s : Stage) (t : Tree) (root : Place) (ctx : Context)
    (ps : List (String × Option String)) : Prop where
  names : ∀ n ∈ ps.map Prod.fst, IsName n.toList
  branch : ps.lookup "branch" = some (some ctx.branch)
  slug : ps.lookup "repo_slug" = some ctx.repoSlug
  file : ∀ pattern, s.pattern? = some pattern →
    ∃ files, s.discover pattern t root = .ok files ∧
      ∃ file ∈ files, ps.lookup "file" = some (some file)

/-- A command of a stage is its template with such values. -/
theorem exists_supplies {s : Stage} {t : Tree} {root : Place} {ctx : Context}
    {commands : List String} (h : s.commands t root ctx = .ok commands) {command : String}
    (hmem : command ∈ commands) : ∃ ps, command = render ps s.run ∧ s.Supplies t root ctx ps := by
  unfold Stage.commands at h
  cases hwork : s.work with
  | once secretVar =>
    simp only [hwork, Except.ok.injEq] at h
    subst h
    refine ⟨ctx.placeholders, List.mem_singleton.mp hmem, ?_, rfl, rfl, fun pattern hpattern => ?_⟩
    · exact fun n hn => isName_placeholders none ctx n (List.mem_cons_of_mem _ hn)
    · simp [pattern?, hwork] at hpattern
  | forEach pattern =>
    simp only [hwork] at h
    cases hfiles : s.discover pattern t root with
    | error f => simp [hfiles, Except.map] at h
    | ok files =>
      simp only [hfiles, Except.map, Except.ok.injEq] at h
      subst h
      obtain ⟨file, hfile, rfl⟩ := List.mem_map.mp hmem
      refine ⟨("file", some file) :: ctx.placeholders, rfl, isName_placeholders _ ctx, rfl, rfl,
        fun pattern' hpattern => ?_⟩
      obtain rfl : pattern = pattern' := by simpa [pattern?, hwork] using hpattern
      exact ⟨files, hfiles, file, hfile, rfl⟩

/-- **The values in the commands of a stage stay in their words**, as they do in every template: the
branch and the slug in all commands, and the path in the commands of a stage that runs for every
file. -/
theorem values_stay_in_words :
    (∀ (ps : List (String × Option String)) (a n b v : String), IsName n.toList →
      ps.lookup n = some (some v) → StaysInWord ps a n b v) ∧
    ∀ (s : Stage) (t : Tree) (root : Place) (ctx : Context) (commands : List String),
      s.commands t root ctx = .ok commands → ∀ command ∈ commands, ∃ ps,
        command = render ps s.run ∧ s.Supplies t root ctx ps ∧
          ∀ a n b v : String, s.run = a ++ placeholder n ++ b → ps.lookup n = some (some v) →
            StaysInWord ps a n b v := by
  refine ⟨fun ps a n b v hn hv => staysInWord hn hv a b, ?_⟩
  intro s t root ctx commands hcommands command hmem
  obtain ⟨ps, hcommand, hsupplies⟩ := exists_supplies hcommands hmem
  exact ⟨ps, hcommand, hsupplies, fun a n b v _ hv =>
    staysInWord (isName_of_lookup hsupplies.names hv) hv a b⟩

/-- A path with a quote in it, in the command of a stage that runs for every file. -/
theorem values_stay_in_words_path :
    let s : Stage :=
      { name := "list", run := "cat {file} | wc", role := .test, work := .forEach "*" }
    let t : Tree := [(["job"], .dir), (["job", "$(rm 'x')"], .file [])]
    let ctx : Context := ⟨"main", false, none, none⟩
    s.commands t ["job"] ctx = .ok ["cat '$(rm '\"'\"'x'\"'\"')' | wc"] ∧
      ∃ word : String, "cat '$(rm '\"'\"'x'\"'\"')' | wc" = "cat " ++ word ++ " | wc" ∧
        (Reader.read {} "cat ".toList).Takes word.toList "$(rm 'x')".toList := by
  intro s t ctx
  have hcommands : s.commands t ["job"] ctx = .ok ["cat '$(rm '\"'\"'x'\"'\"')' | wc"] := by
    cbv
  have hfound : s.discover "*" t ["job"] = .ok ["$(rm 'x')"] := by cbv
  refine ⟨hcommands, ?_⟩
  obtain ⟨ps, hcommand, hsupplies, hstays⟩ :=
    values_stay_in_words.2 s t ["job"] ctx _ hcommands _ (List.mem_singleton_self _)
  obtain ⟨files, hfiles, file, hmem, hlookup⟩ := hsupplies.file "*" rfl
  obtain rfl : [_] = files := Except.ok.inj (hfound.symm.trans hfiles)
  obtain rfl := List.mem_singleton.mp hmem
  have hfront : render ps "cat " = "cat " := by cbv
  have hbehind : render ps " | wc" = " | wc" := by cbv
  have hword := hstays "cat " "file" " | wc" _ rfl hlookup (by decide)
  rw [hfront, hbehind] at hword
  obtain ⟨word, hword, htakes⟩ := hword (by decide)
  exact ⟨word, hcommand.trans hword, htakes⟩

end BuildLine.Job.Stage
