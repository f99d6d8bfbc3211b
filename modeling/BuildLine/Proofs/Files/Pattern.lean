import BuildLine.Files.Pattern

/-!
# Which texts spell a pattern

Not every text spells a pattern, and what is wrong with one that does not comes out only when it is
read. It may be empty or begin at the root of the file system, and these two faults can be seen
before; but it may also hold no name at all, or a name in which two stars stand next to something
else. A text without the latter faults is `Sound`, and `parse_isOk_iff` states that nothing else
is asked of it.
-/

namespace BuildLine.Files.Pattern

open Text

/-- **A text with the names of a pattern**: there is one, and two stars stand alone. -/
structure Sound (s : String) : Prop where
  /-- There is a name. -/
  names : Written.namesOf s ≠ []
  /-- Where two stars stand, they are the whole name. -/
  stars : ∀ n ∈ Written.namesOf s, ['*', '*'] <:+: n.toList → n = "**"

theorem part_isOk_iff (n : String) :
    (part n).isOk = true ↔ (['*', '*'] <:+: n.toList → n = "**") := by
  have hstars : n.toList = ['*', '*'] ↔ n = "**" := by
    rw [← String.toList_inj]
    rfl
  unfold part
  by_cases hname : n = "**"
  · rw [if_pos (hstars.mpr hname)]
    exact iff_of_true rfl fun _ => hname
  · rw [if_neg (mt hstars.mp hname)]
    by_cases hholds : holdsStars n.toList = true
    · rw [if_pos hholds]
      exact iff_of_false nofun fun h => hname (h (occurs_iff.mp hholds))
    · rw [if_neg hholds]
      refine iff_of_true ?_ fun h => absurd (occurs_iff.mpr h) hholds
      split <;> rfl

/-- The names are parts of a pattern if each of them is one. -/
theorem mapM_part_isOk_iff (ns : List String) :
    (ns.mapM part).isOk = true ↔ ∀ n ∈ ns, (part n).isOk = true := by
  induction ns with
  | nil => exact iff_of_true rfl (by simp)
  | cons n ns ih =>
    rw [List.forall_mem_cons, ← ih, List.mapM_cons]
    cases part n with
    | error f => exact iff_of_false nofun fun h => nomatch h.1
    | ok p =>
      cases ns.mapM part with
      | error f => exact iff_of_false nofun fun h => nomatch h.2
      | ok ps => exact iff_of_true rfl ⟨rfl, rfl⟩

/-- There are parts if there are names. -/
theorem isEmpty_of_mapM_part {ns : List String} {ps : List Part} (h : ns.mapM part = .ok ps) :
    ps.isEmpty = ns.isEmpty := by
  cases ns with
  | nil =>
    rw [← Except.ok.inj h]
    rfl
  | cons n ns =>
    rw [List.mapM_cons] at h
    cases hp : part n with
    | error f =>
      rw [hp] at h
      cases h
    | ok p =>
      cases hps : ns.mapM part with
      | error f =>
        rw [hp, hps] at h
        cases h
      | ok ps' =>
        rw [hp, hps] at h
        rw [← Except.ok.inj h]
        rfl

theorem sound_iff (s : String) :
    Sound s ↔ (Written.namesOf s).isEmpty = false ∧
      ((Written.namesOf s).mapM part).isOk = true := by
  rw [mapM_part_isOk_iff, List.isEmpty_eq_false_iff]
  simp only [part_isOk_iff]
  exact ⟨fun h => ⟨h.names, h.stars⟩, fun h => ⟨h.1, h.2⟩⟩

/-- What is asked of a text that is not empty and does not begin at the root. -/
theorem parse_eq {s : String} (hempty : s.isEmpty = false) (hrelative : s.startsWith "/" = false) :
    parse s = (Written.namesOf s).mapM part >>= fun parts =>
      if parts.isEmpty then .error (if s.endsWith "/" then .onlySlash else .noNames)
      else .ok { parts, dirsOnly := s.endsWith "/" } := by
  simp only [parse, hempty, hrelative]
  rfl

/-- **Which texts spell a pattern.** -/
theorem parse_isOk_iff (s : String) :
    (parse s).isOk = true ↔ s.isEmpty = false ∧ s.startsWith "/" = false ∧ Sound s := by
  cases hempty : s.isEmpty with
  | true =>
    simp only [parse, hempty]
    exact iff_of_false nofun fun h => nomatch h.1
  | false =>
    cases hrelative : s.startsWith "/" with
    | true =>
      simp only [parse, hempty, hrelative]
      exact iff_of_false nofun fun h => nomatch h.2.1
    | false =>
      rw [sound_iff, parse_eq hempty hrelative]
      cases hps : (Written.namesOf s).mapM part with
      | error f => exact iff_of_false nofun fun h => nomatch h.2.2.2
      | ok ps =>
        rw [← isEmpty_of_mapM_part hps]
        simp only [bind, Except.bind]
        cases ps.isEmpty with
        | true => exact iff_of_false nofun fun h => nomatch h.2.2.1
        | false => exact iff_of_true rfl ⟨trivial, trivial, rfl, rfl⟩

end BuildLine.Files.Pattern
