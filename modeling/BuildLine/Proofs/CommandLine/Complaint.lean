import BuildLine.CommandLine.Surroundings
import BuildLine.Proofs.Log.Journal
import BuildLine.Proofs.Source.Userinfo

/-!
# What the journal shows of a remote

A checkout that cannot be read is told to the journal, and the complaint may repeat the remote. This
comes before any secret is known, so nothing is masked: user information that stands in the remote
stands in the journal then.

Two remotes that differ in their user information leave the same lines exactly if this does not
happen for either of them (`lines_context_eq_iff`). It does not happen if the remote can be read,
nor if a command failed, nor for a bracket without its partner.
-/

namespace BuildLine.CommandLine

open Job Log Source Text

/-! ### The line of a complaint -/

theorem any_isDelicate_message (f : Checkout.Fault) :
    f.message.toList.any Event.isDelicate = true := by
  have hwording : f.wording.1.toList.any Event.isDelicate = true := by
    rcases f with _ | _ | _ | _ | _ | _ <;> rw [Checkout.Fault.wording] <;> decide
  rw [f.message_eq, String.toList_append, String.toList_append, List.any_append, List.any_append,
    hwording, Bool.true_or, Bool.true_or]

/-- A literal ends with a quote, so there is nothing to be trimmed behind it. -/
theorem trimRight_literal (a s : String) :
    trimRight (· = ' ') (a ++ Quoted.literal s).toList = (a ++ Quoted.literal s).toList := by
  have hquote : decide (Quoted.quoteFor s.toList = ' ') = false := by
    rcases Quoted.quoteFor_eq s.toList with h | h <;> rw [h] <;> decide
  rw [String.toList_append, Quoted.literal, String.toList_ofList, Quoted.encode,
    ← List.append_assoc]
  exact trimRight_append_cons hquote

/-- What stands in front of a complaint. -/
def lead (stamp : String) : String :=
  stamp ++ " [warning  ] Cannot read git checkout       error="

/-- **The line of a complaint** shows its wording as a literal. -/
theorem line_checkoutEvent (stamp : String) (f : Checkout.Fault) :
    (checkoutEvent f).line stamp id = lead stamp ++ Quoted.literal f.message := by
  have hsorted : Event.sortedFields [("error", .text f.message)] =
      [("error", .text f.message)] := by
    simp [Event.sortedFields, Event.columnNames, Event.loggerNames]
  have htexts : Event.loggerTexts [("error", .text f.message)] = [] := by
    simp [Event.loggerTexts, Event.loggerNames, Data.Table.get?]
  have hvalue : Event.valueText (.text f.message) = Quoted.literal f.message := by
    rw [Event.valueText, any_isDelicate_message, if_pos rfl]
  have hlevel : "[" ++ Event.pad 9 Level.warning.word ++ "]" = "[warning  ]" := by decide
  have htext : Event.pad 30 "Cannot read git checkout" = "Cannot read git checkout      " := by
    decide
  have hjoin (a b c d : String) :
      " ".intercalate ([a, b, c] ++ [] ++ [d]) = a ++ " " ++ b ++ " " ++ c ++ " " ++ d := rfl
  have hline : stamp ++ " " ++ "[warning  ]" ++ " " ++ "Cannot read git checkout      " ++ " " ++
      ("error" ++ "=" ++ Quoted.literal f.message) = lead stamp ++ Quoted.literal f.message := by
    simp only [lead, String.append_assoc]
    rfl
  simp only [Event.line, checkoutEvent, List.map_cons, List.map_nil, Event.redactValue, id_eq,
    hsorted, htexts, hvalue, hlevel, htext, hjoin, hline, trimRight_literal, String.ofList_toList]

/-! ### What a journal keeps of it -/

/-- A journal without secrets that is told of a checkout. -/
theorem lines_record {journal : Journal} (h : journal.secrets = []) (f : Checkout.Fault) :
    (journal.record (checkoutEvent f)).lines =
      Journal.trimmed (journal.lines ++ [lead journal.stamp ++ Quoted.literal f.message]) := by
  rw [Journal.record, Journal.redact_eq_id h, line_checkoutEvent, Journal.emit,
    Journal.redact_eq_id h]
  rfl

/-- The complaint about the checkout that the answers describe. -/
def complaint? (answers : Checkout.Answers) : Option Checkout.Fault :=
  match Checkout.ofAnswers answers with
  | .ok _ => none
  | .error f => some f

/-- The lines of a journal that is told of a complaint, if there is one. -/
def told (journal : Journal) : Option Checkout.Fault → List String
  | none => journal.lines
  | some f => (journal.record (checkoutEvent f)).lines

/-- The flags and the variables do not matter for the journal. -/
theorem lines_context (settings : Settings) (answers : Checkout.Answers) (env : Environment)
    (flags : Context.Flags) (journal : Journal) :
    (context settings answers env flags journal).2.lines = told journal (complaint? answers) := by
  rw [context, Context.gather, complaint?]
  cases Checkout.ofAnswers answers <;> rfl

/-- **What was told can be seen** in the journal. -/
theorem literal_eq_of_told_eq {journal : Journal} (h : journal.secrets = []) {f : Checkout.Fault}
    {complaint : Option Checkout.Fault} (htold : told journal (some f) = told journal complaint) :
    ∃ g, complaint = some g ∧ Quoted.literal f.message = Quoted.literal g.message := by
  cases complaint with
  | none =>
    simp only [told, lines_record h] at htold
    exact absurd htold Journal.trimmed_append_ne
  | some g =>
    simp only [told, lines_record h] at htold
    have hline := Journal.eq_of_trimmed_append_eq htold
    refine ⟨g, rfl, String.toList_injective ?_⟩
    have hlist := congrArg String.toList hline
    rw [String.toList_append, String.toList_append] at hlist
    exact List.append_cancel_left hlist

/-! ### The complaint about a filled slot -/

variable {slot : Slot} {u v : List Char} {branch : Option String}

/-- The answers of a checkout with user information in its remote. -/
def answersOf (slot : Slot) (user : List Char) (branch : Option String) : Checkout.Answers :=
  { remote := some (String.ofList (slot.fill user)), branch }

/-- The complaint about the checkout repeats what was written. -/
def Repeated (answers : Checkout.Answers) : Prop :=
  ∃ f, complaint? answers = some f ∧ f.repeats = true

theorem complaint?_of_error (hu : IsUserinfo u) {f : Checkout.Fault}
    (h : Checkout.rewriteRemote (String.ofList (slot.trimmed.fill u)) = .error f) :
    complaint? (answersOf slot u branch) = some f := by
  rw [complaint?, answersOf,
    Checkout.ofAnswers_of_error (Slot.trimmed_fill_ne hu) (by rwa [Slot.trimmed_fill hu])]

theorem complaint?_of_ok (hu : IsUserinfo u) {r : String}
    (h : Checkout.rewriteRemote (String.ofList (slot.trimmed.fill u)) = .ok r) :
    complaint? (answersOf slot u branch) =
      if branch = none then some (.commandFailed Checkout.askBranch) else none := by
  rw [complaint?, answersOf,
    Checkout.ofAnswers_of_ok (Slot.trimmed_fill_ne hu) (by rwa [Slot.trimmed_fill hu])]
  cases branch <;> rfl

/-- A complaint that repeats what was written is about the remote. -/
theorem rewriteRemote_of_complaint? (hu : IsUserinfo u) {f : Checkout.Fault}
    (h : complaint? (answersOf slot u branch) = some f) (hf : f.repeats = true) :
    Checkout.rewriteRemote (String.ofList (slot.trimmed.fill u)) = .error f := by
  cases hrewrite : Checkout.rewriteRemote (String.ofList (slot.trimmed.fill u)) with
  | error g =>
    rw [complaint?_of_error hu hrewrite] at h
    rw [Option.some.inj h]
  | ok r =>
    rw [complaint?_of_ok hu hrewrite] at h
    split at h <;> cases h
    cases hf

/-- **A complaint that repeats what was written** shows the user information, so it is told again
with the same user information only. -/
theorem eq_of_told_eq {journal : Journal} (hj : journal.secrets = []) (hu : IsUserinfo u)
    (hv : IsUserinfo v) (hrepeated : Repeated (answersOf slot u branch))
    (h : told journal (complaint? (answersOf slot u branch)) =
      told journal (complaint? (answersOf slot v branch))) : u = v := by
  obtain ⟨f, hf, hrepeats⟩ := hrepeated
  rw [hf] at h
  obtain ⟨g, hg, hliteral⟩ := literal_eq_of_told_eq hj h
  have hinitial : f.initial = g.initial := by
    obtain ⟨s, hs⟩ := f.toList_message
    obtain ⟨t, ht⟩ := g.toList_message
    exact Quoted.head_eq_of_literal_eq hs ht f.isVisible_initial g.isVisible_initial hliteral
  obtain ⟨hwording, hsame, hframe⟩ := Slot.alike_of_initial_eq slot.trimmed hinitial
  have hrewrite := rewriteRemote_of_complaint? hu hf hrepeats
  have hrewrite' := rewriteRemote_of_complaint? hv hg (hsame ▸ hrepeats)
  -- the two wordings are the same but for the user information in the middle
  rw [f.message_eq, g.message_eq, Slot.repeated_of_repeats hu hrewrite hrepeats,
    Slot.repeated_of_repeats hv hrewrite' (hsame ▸ hrepeats), ← hwording, ← hframe] at hliteral
  exact Quoted.eq_of_literal_eq (fun c hc => (hu c hc).1) (fun c hc => (hv c hc).1) hliteral

/-- A complaint that repeats nothing is about a bracket without its partner. -/
theorem rewriteRemote_of_not_repeated (hu : IsUserinfo u) {f : Checkout.Fault}
    (h : ¬ Repeated (answersOf slot u branch))
    (hrewrite : Checkout.rewriteRemote (String.ofList (slot.trimmed.fill u)) = .error f) :
    f = .remote (.url .loneBracket) := by
  have hf : ¬ f.repeats = true := fun hf => h ⟨f, complaint?_of_error hu hrewrite, hf⟩
  obtain rfl | rfl | rfl | ⟨g, rfl, -⟩ := Slot.rewriteRemote_fill_eq_error hu hrewrite
  · exact absurd rfl hf
  · exact absurd rfl hf
  · exact absurd rfl hf
  · cases g with
    | loneBracket => rfl
    | hiddenSeparator a => exact absurd rfl hf

/-- **What is complained of without repeating anything** does not depend on user information. -/
theorem complaint?_eq (hu : IsUserinfo u) (hv : IsUserinfo v)
    (hu' : ¬ Repeated (answersOf slot u branch)) (hv' : ¬ Repeated (answersOf slot v branch)) :
    complaint? (answersOf slot u branch) = complaint? (answersOf slot v branch) := by
  cases hrewrite : Checkout.rewriteRemote (String.ofList (slot.trimmed.fill u)) with
  | error f =>
    obtain rfl := rewriteRemote_of_not_repeated hu hu' hrewrite
    have hrewrite' := Slot.rewriteRemote_fill_loneBracket hu hv hrewrite
    rw [complaint?_of_error hu hrewrite, complaint?_of_error hv hrewrite']
  | ok r =>
    cases hrewrite' : Checkout.rewriteRemote (String.ofList (slot.trimmed.fill v)) with
    | error g =>
      obtain rfl := rewriteRemote_of_not_repeated hv hv' hrewrite'
      cases (Slot.rewriteRemote_fill_loneBracket hv hu hrewrite').symm.trans hrewrite
    | ok q => rw [complaint?_of_ok hu hrewrite, complaint?_of_ok hv hrewrite']

/-- **Remotes that differ in their user information** leave the same lines exactly if neither of
them is repeated. -/
theorem lines_context_eq_iff (settings : Settings) (hu : IsUserinfo u)
    (hv : IsUserinfo v) (env env' : Environment) (flags : Context.Flags)
    {journal : Journal} (hj : journal.secrets = []) :
    (context settings (answersOf slot u branch) env flags journal).2.lines =
        (context settings (answersOf slot v branch) env' flags journal).2.lines ↔
      u = v ∨ ¬ Repeated (answersOf slot u branch) ∧ ¬ Repeated (answersOf slot v branch) := by
  rw [lines_context, lines_context]
  constructor
  · intro h
    by_cases hrepeated : Repeated (answersOf slot u branch)
    · exact Or.inl (eq_of_told_eq hj hu hv hrepeated h)
    · by_cases hrepeated' : Repeated (answersOf slot v branch)
      · exact Or.inl (eq_of_told_eq hj hv hu hrepeated' h.symm).symm
      · exact Or.inr ⟨hrepeated, hrepeated'⟩
  · rintro (rfl | ⟨hu', hv'⟩)
    · rfl
    · rw [complaint?_eq hu hv hu' hv']

/-- A remote that can be read is not shown, whichever of two tokens it holds. -/
theorem lines_context_eq_of_read :
    let slot : Slot :=
      .locator "https".toList Url.isScheme_https "github.com/owner/project.git".toList
    let lines (token : String) :=
      (context {} (answersOf slot token.toList (some "main")) [("GH_TOKEN", token)] {} {}).2.lines
    IsUserinfo "tok1".toList ∧ IsUserinfo "tok2".toList ∧ lines "tok1" = lines "tok2" := by
  intro slot lines
  have hread {token : String} (htoken : IsUserinfo token.toList) {r : Remote}
      (hwritten : String.ofList (slot.trimmed.fill token.toList) = r.written)
      (hform : Checkout.Rewritable r.written.toList) (hparse : Remote.parse r.written = .ok r) :
      ¬ Repeated (answersOf slot token.toList (some "main")) := by
    rintro ⟨f, hf, -⟩
    have hrewrite := Checkout.rewriteRemote_of_parse_ok hform hparse
    rw [← hwritten] at hrewrite
    cases (complaint?_of_ok htoken hrewrite).symm.trans hf
  let r (written : String) : Remote :=
    { host := "github.com", owner := "owner", name := "project", written }
  have hone : IsUserinfo "tok1".toList := by decide
  have htwo : IsUserinfo "tok2".toList := by decide
  refine ⟨hone, htwo, (lines_context_eq_iff {} hone htwo _ _ {} rfl).mpr (Or.inr ⟨?_, ?_⟩)⟩
  · exact hread (r := r "https://tok1@github.com/owner/project.git") hone (by cbv) (by decide)
      (by cbv)
  · exact hread (r := r "https://tok2@github.com/owner/project.git") htwo (by cbv) (by decide)
      (by cbv)

/-- **A token is shown** where the remote that holds it does not end as it should. -/
theorem lines_context_ne_of_token :
    (context {} { remote := some "https://tok1@github.com/owner/project", branch := some "main" } []
        {} {}).2.lines ≠
      (context {} { remote := some "https://tok2@github.com/owner/project", branch := some "main" }
        [] {} {}).2.lines := by
  have hcomplaint {s : String} (htrimmed : Checkout.trimmed s = s) (hne : s ≠ "")
      (hform : ¬ Checkout.Rewritable s.toList) :
      complaint? { remote := some s, branch := some "main" } = some (.notRewritable s) := by
    have hrewrite := Checkout.rewriteRemote_of_not_rewritable hform
    rw [complaint?, Checkout.ofAnswers_of_error (by rwa [htrimmed]) (by rwa [htrimmed])]
  rw [lines_context, lines_context, hcomplaint (by cbv) (by decide) (by decide),
    hcomplaint (by cbv) (by decide) (by decide)]
  intro h
  obtain ⟨g, hg, hliteral⟩ := literal_eq_of_told_eq rfl h
  cases hg
  rw [Checkout.Fault.message_eq, Checkout.Fault.message_eq] at hliteral
  exact absurd hliteral (by decide)

end BuildLine.CommandLine
