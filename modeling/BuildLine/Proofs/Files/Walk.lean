import Mathlib
import BuildLine.Files.Tree

/-!
# Following a path

`walk` goes along names, and where it meets a link it goes along the names of the link first. How
many links it may still follow is part of where it is, so a path cannot just be cut in two and each
part be walked by itself: the second part is walked with the links that the first one has left.
`Route` keeps these two numbers, and with them a path can be cut anywhere (`Route.exists_of_append`)
and put together again where a directory stands (`Route.append`).

A list of entries is a tree of files if it is `WellFormed`. Only then is a directory a place where
one can get to, and what stands in it all that one can get to from there.

`settle` is not bound to what exists. It looks at a tree for its links only, and where there are
none a path means what it spells (`settle_of_no_link`).
-/

namespace BuildLine.Files

/-- A name that an entry can have. -/
structure IsName (n : String) : Prop where
  /-- It is not empty. -/
  ne_empty : n ≠ ""
  /-- It is not the name for where one stands. -/
  ne_here : n ≠ "."
  /-- It is not the name for the way up. -/
  ne_up : n ≠ ".."
  /-- It is one name. -/
  slash : '/' ∉ n.toList

instance (n : String) : Decidable (IsName n) :=
  decidable_of_iff (n ≠ "" ∧ n ≠ "." ∧ n ≠ ".." ∧ '/' ∉ n.toList)
    ⟨fun h => ⟨h.1, h.2.1, h.2.2.1, h.2.2.2⟩, fun h => ⟨h.1, h.2, h.3, h.4⟩⟩

namespace Tree

/-- **A tree of files**: no two entries have the same place, every entry has a name, and it stands
in a directory. -/
structure WellFormed (t : Tree) : Prop where
  /-- The places are different. -/
  distinct : (t.map Prod.fst).Nodup
  /-- Entries have names. -/
  named : ∀ e ∈ t, ∃ n ∈ e.1.getLast?, IsName n
  /-- Entries stand in directories. -/
  inDir : ∀ e ∈ t, t.entry? e.1.dropLast = some .dir

variable {t : Tree} {p q : Place} {n : String} {e : Entry}

namespace WellFormed

theorem mem_iff (ht : t.WellFormed) (hp : p ≠ []) : (p, e) ∈ t ↔ t.entry? p = some e := by
  refine ⟨fun h => ?_, mem_of_entry? hp⟩
  have hdistinct := ht.distinct
  unfold entry?
  rw [if_neg (by simpa using hp)]
  clear ht
  induction t with
  | nil => cases h
  | cons x t ih =>
    obtain ⟨hx, ht⟩ := List.nodup_cons.mp hdistinct
    rcases List.mem_cons.mp h with rfl | h
    · simp
    · have hne : (p == x.1) = false := by
        rw [beq_eq_false_iff_ne]
        rintro rfl
        exact hx (List.mem_map.mpr ⟨_, h, rfl⟩)
      rw [List.lookup_cons, hne]
      exact ih h ht

/-- What stands below a place has names on the way there, and the place is a directory. -/
theorem below (ht : t.WellFormed) {ns : List String} (hns : ns ≠ [])
    (h : t.entry? (p ++ ns) = some e) : t.entry? p = some .dir ∧ ∀ n ∈ ns, IsName n := by
  induction ns using List.reverseRecOn generalizing e with
  | nil => exact absurd rfl hns
  | append_singleton ns n ih =>
    have hmem := mem_of_entry? (by simp) h
    obtain ⟨m, hm, hname⟩ := ht.named _ hmem
    have hdir := ht.inDir _ hmem
    simp only [← List.append_assoc, List.getLast?_concat, List.dropLast_concat,
      Option.mem_some_iff] at hm hdir
    subst hm
    by_cases hnil : ns = []
    · subst hnil
      rw [List.append_nil] at hdir
      exact ⟨hdir, by simpa using hname⟩
    · obtain ⟨hp, hnames⟩ := ih hnil hdir
      refine ⟨hp, fun k hk => ?_⟩
      rcases List.mem_append.mp hk with hk | hk
      · exact hnames k hk
      · rwa [List.mem_singleton.mp hk]

/-- On the way to a directory there are directories. -/
theorem dir_of_append (ht : t.WellFormed) {ns : List String}
    (h : t.entry? (p ++ ns) = some .dir) : t.entry? p = some .dir := by
  by_cases hns : ns = []
  · rwa [hns, List.append_nil] at h
  · exact (ht.below hns h).1

end WellFormed

/-! ### Routes -/

/-- **Where names lead**: from the directory `here`, where `links` links may be followed, to a place
where `left` links are left. -/
inductive Route (t : Tree) : (links : Nat) → (here : Place) → List String → (left : Nat) →
    (p : Place) → Prop
  /-- One is there. -/
  | nil (links : Nat) (here : Place) : Route t links here [] links here
  /-- One goes up. -/
  | up {links left : Nat} {here p : Place} {ns : List String}
      (h : Route t links here.dropLast ns left p) : Route t links here (".." :: ns) left p
  /-- One goes into a directory. -/
  | dir {links left : Nat} {here p : Place} {n : String} {ns : List String} (hn : n ≠ "..")
      (hentry : t.entry? (here ++ [n]) = some .dir) (h : Route t links (here ++ [n]) ns left p) :
      Route t links here (n :: ns) left p
  /-- One comes to a file. -/
  | file {links : Nat} {here : Place} {n : String} {octets : List UInt8} (hn : n ≠ "..")
      (hentry : t.entry? (here ++ [n]) = some (.file octets)) :
      Route t links here [n] links (here ++ [n])
  /-- One follows a link. -/
  | link {links left : Nat} {here p : Place} {n target : String} {ns : List String} (hn : n ≠ "..")
      (hentry : t.entry? (here ++ [n]) = some (.link target))
      (h : Route t links (linkStart here target).1 ((linkStart here target).2 ++ ns) left p) :
      Route t (links + 1) here (n :: ns) left p

/-- What becomes of a name that does not lead up. -/
theorem Route.cons_cases {links left : Nat} {here : Place} {ns : List String} (hn : n ≠ "..")
    (h : t.Route links here (n :: ns) left p) :
    (t.entry? (here ++ [n]) = some .dir ∧ t.Route links (here ++ [n]) ns left p) ∨
      (∃ octets, t.entry? (here ++ [n]) = some (.file octets) ∧ ns = [] ∧ left = links ∧
        p = here ++ [n]) ∨
      ∃ target k, t.entry? (here ++ [n]) = some (.link target) ∧ links = k + 1 ∧
        t.Route k (linkStart here target).1 ((linkStart here target).2 ++ ns) left p := by
  cases h with
  | up => exact absurd rfl hn
  | dir _ hentry h => exact .inl ⟨hentry, h⟩
  | file _ hentry => exact .inr (.inl ⟨_, hentry, rfl, rfl, rfl⟩)
  | link _ hentry h => exact .inr (.inr ⟨_, _, hentry, rfl, h⟩)

/-- A walk comes to a place if there is a route to it. -/
theorem walkFrom_eq_ok_iff {links : Nat} {here : Place} {ns : List String} :
    t.walkFrom links here ns = .ok p ↔ ∃ left, t.Route links here ns left p := by
  fun_induction walkFrom t links here ns with
  | case1 links here =>
    constructor
    · intro h
      cases h
      exact ⟨_, .nil ..⟩
    · rintro ⟨left, h⟩
      cases h
      rfl
  | case2 links here ns ih =>
    rw [ih]
    constructor
    · rintro ⟨left, h⟩
      exact ⟨left, .up h⟩
    · rintro ⟨left, h⟩
      cases h with
      | up h => exact ⟨left, h⟩
      | _ => contradiction
  | case3 links here n ns hn place hentry =>
    -- nothing has this name
    refine iff_of_false nofun ?_
    rintro ⟨left, h⟩
    rcases h.cons_cases hn with ⟨h, -⟩ | ⟨octets, h, -⟩ | ⟨target, k, h, -⟩
    all_goals cases hentry.symm.trans h
  | case4 links here n ns hn place hentry ih =>
    rw [ih]
    constructor
    · rintro ⟨left, h⟩
      exact ⟨left, .dir hn hentry h⟩
    · rintro ⟨left, h⟩
      rcases h.cons_cases hn with ⟨-, h⟩ | ⟨octets, h, -⟩ | ⟨target, k, h, -⟩
      · exact ⟨left, h⟩
      · cases hentry.symm.trans h
      · cases hentry.symm.trans h
  | case5 links here n ns hn place octets hentry hns =>
    obtain rfl := List.isEmpty_iff.mp hns
    constructor
    · intro h
      rw [← Except.ok.inj h]
      exact ⟨links, .file hn hentry⟩
    · rintro ⟨left, h⟩
      rcases h.cons_cases hn with ⟨h, -⟩ | ⟨octets', -, -, -, rfl⟩ | ⟨target, k, h, -⟩
      · cases hentry.symm.trans h
      · rfl
      · cases hentry.symm.trans h
  | case6 links here n ns hn place octets hentry hns =>
    -- names follow that of a file
    refine iff_of_false nofun ?_
    rintro ⟨left, h⟩
    rcases h.cons_cases hn with ⟨h, -⟩ | ⟨octets', -, rfl, -⟩ | ⟨target, k, h, -⟩
    · cases hentry.symm.trans h
    · exact hns rfl
    · cases hentry.symm.trans h
  | case7 here n ns hn place target hentry =>
    -- no link is left
    refine iff_of_false nofun ?_
    rintro ⟨left, h⟩
    rcases h.cons_cases hn with ⟨h, -⟩ | ⟨octets, h, -⟩ | ⟨target', k, -, hk, -⟩
    · cases hentry.symm.trans h
    · cases hentry.symm.trans h
    · cases hk
  | case8 here n ns hn place target hentry links start more hstart ih =>
    rw [ih]
    constructor
    · rintro ⟨left, h⟩
      exact ⟨left, .link hn hentry (by rwa [hstart])⟩
    · rintro ⟨left, h⟩
      rcases h.cons_cases hn with ⟨h, -⟩ | ⟨octets, h, -⟩ | ⟨target', k, hlink, hk, h⟩
      · cases hentry.symm.trans h
      · cases hentry.symm.trans h
      · obtain rfl := Nat.succ.inj hk
        obtain rfl := Entry.link.inj (Option.some.inj (hentry.symm.trans hlink))
        rw [hstart] at h
        exact ⟨left, h⟩

namespace Route

variable {links left m : Nat} {here : Place} {xs ys ns : List String}

/-- **Routes can be joined** where a directory stands. -/
theorem append (h : t.Route links here xs m q) (hrest : t.Route m q ys left p)
    (hq : ys ≠ [] → t.entry? q = some .dir) : t.Route links here (xs ++ ys) left p := by
  induction h with
  | nil => exact hrest
  | up _ ih => exact .up (ih hrest hq)
  | dir hn hentry _ ih => exact .dir hn hentry (ih hrest hq)
  | @file _ here n octets hn hentry =>
    by_cases hys : ys = []
    · subst hys
      cases hrest
      exact .file hn hentry
    · rw [hq hys] at hentry
      cases hentry
  | link hn hentry _ ih =>
    have hgo := ih hrest hq
    rw [List.append_assoc] at hgo
    exact .link hn hentry hgo

/-- One can go down along directories, and no link is followed. -/
theorem dirs (ht : t.WellFormed) (links : Nat) (h : t.entry? (here ++ ns) = some .dir) :
    t.Route links here ns links (here ++ ns) := by
  induction ns generalizing here with
  | nil =>
    rw [List.append_nil]
    exact .nil ..
  | cons n ns ih =>
    have hname := (ht.below (List.cons_ne_nil n ns) h).2 n (List.mem_cons_self ..)
    rw [List.append_cons] at h ⊢
    exact .dir hname.ne_up (ht.dir_of_append h) (ih h)

end Route

/-! ### What names lead to -/

namespace WellFormed

variable {xs ys ns ds : List String}

/-- Down along directories, names lead where they say. -/
theorem walk_append (ht : t.WellFormed) (hwalk : t.walk ns = .ok q)
    (h : t.entry? (q ++ ds) = some .dir) : t.walk (ns ++ ds) = .ok (q ++ ds) := by
  obtain ⟨left, hroute⟩ := walkFrom_eq_ok_iff.mp hwalk
  exact walkFrom_eq_ok_iff.mpr
    ⟨left, hroute.append (.dirs ht left h) fun _ => ht.dir_of_append h⟩

theorem mem_dirsBelow_iff (ht : t.WellFormed) :
    ds ∈ t.dirsBelow ns ↔ ds ≠ [] ∧ ∃ q, t.walk ns = .ok q ∧ t.entry? (q ++ ds) = some .dir := by
  unfold dirsBelow
  cases t.walk ns with
  | error f => simp
  | ok q =>
    simp only [List.mem_filterMap, dirBelow?, Bool.and_eq_true, decide_eq_true_eq,
      List.isPrefixOf_iff_prefix, Option.ite_none_right_eq_some, Except.ok.injEq, exists_eq_left']
    constructor
    · rintro ⟨⟨place, e⟩, hmem, ⟨⟨rfl, back, rfl⟩, hlength⟩, hdrop⟩
      rw [List.drop_left] at hdrop
      obtain rfl := Option.some.inj hdrop
      have hback : back ≠ [] := by
        rintro rfl
        simp at hlength
      exact ⟨hback, (ht.mem_iff (by simp [hback])).mp hmem⟩
    · rintro ⟨hds, h⟩
      exact ⟨_, (ht.mem_iff (by simp [hds])).mpr h, by simp [List.length_pos_iff, hds], by simp⟩

end WellFormed

/-- A directory stands under the name where the names lead to, and not a link to one. -/
def HoldsDir (t : Tree) (ns : List String) (n : String) : Prop :=
  ∃ q, t.walk ns = .ok q ∧ t.entry? (q ++ [n]) = some .dir

theorem WellFormed.nil_notMem_dirsBelow {ns : List String} (ht : t.WellFormed) :
    [] ∉ t.dirsBelow ns :=
  fun h => (ht.mem_dirsBelow_iff.mp h).1 rfl

/-- **The directories below a directory** are those in it and the directories below them. -/
theorem WellFormed.cons_mem_dirsBelow_iff {ns ds : List String} (ht : t.WellFormed) :
    n :: ds ∈ t.dirsBelow ns ↔
      t.HoldsDir ns n ∧ (ds = [] ∨ ds ∈ t.dirsBelow (ns ++ [n])) := by
  rw [ht.mem_dirsBelow_iff]
  constructor
  · rintro ⟨-, q, hwalk, h⟩
    rw [List.append_cons] at h
    have hn := ht.dir_of_append h
    refine ⟨⟨q, hwalk, hn⟩, ?_⟩
    by_cases hds : ds = []
    · exact .inl hds
    · exact .inr (ht.mem_dirsBelow_iff.mpr ⟨hds, _, ht.walk_append hwalk hn, h⟩)
  · rintro ⟨⟨q, hwalk, hn⟩, hds⟩
    refine ⟨List.cons_ne_nil n ds, q, hwalk, ?_⟩
    rcases hds with rfl | hds
    · exact hn
    · obtain ⟨-, q', hwalk', h⟩ := ht.mem_dirsBelow_iff.mp hds
      rw [ht.walk_append hwalk hn] at hwalk'
      obtain rfl := Except.ok.inj hwalk'
      rwa [List.append_cons]

/-! ### Settling a path -/

section Settling

variable {opened : List Place} {here : Place} {ns : List String}

theorem settleFrom_of_no_link (ht : ∀ p target, t.entry? p ≠ some (.link target))
    (hns : ∀ n ∈ ns, hasNull n = false) :
    t.settleFrom opened here ns = .ok (ns.foldl Place.step here) := by
  induction ns generalizing here with
  | nil => simp [settleFrom]
  | cons n ns ih =>
    obtain ⟨hn, hns⟩ := List.forall_mem_cons.mp hns
    rw [settleFrom, List.foldl_cons]
    split
    · exact ih hns
    · next hmeant =>
      have hstep : here.step n = here ++ [n] := by grind [Place.step]
      rw [if_neg (by simp [hn]), hstep]
      dsimp only
      split
      · next target hlink => exact absurd hlink (ht _ target)
      · exact ih hns

/-- **Where no link stands, a path means what it spells,** and nobody has to look at the entries. -/
theorem settle_of_no_link (ht : ∀ p target, t.entry? p ≠ some (.link target))
    (hns : ∀ n ∈ ns, hasNull n = false) : t.settle ns = .ok (Place.spelled ns) := by
  rw [settle, settleFrom_of_no_link ht hns]
  rfl

/-- A link to itself has no place, and what is spelled without it has one. -/
example :
    let t : Tree := [(["job"], .dir), (["job", "loop"], .link "loop")]
    t.settle ["job", "loop", "x"] = .error (.loop ["job", "loop", "x"]) ∧
      t.settle ["job", "loop", "..", "x"] = .ok ["job", "x"] := by
  intro t
  exact ⟨by cbv, by cbv⟩

end Settling

end Tree

end BuildLine.Files
