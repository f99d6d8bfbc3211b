import BuildLine.Proofs.Source.Legible
import BuildLine.Proofs.Source.Naming
import BuildLine.Text.Word

/-!
# The forms of a remote

One repository can be written as a remote in several ways. There are four locators of the secure
shell, two of the web, and the short form. All of them are read as the same host, owner and name,
and all of them are rewritten to the locator of the web, which is left as it is (`parse_write`).

Names are made of letters, digits, `.`, `-` and `_`. What matters about these is that none of them
is *special*: none means anything in a remote, and none turns into such a sign when an authority is
normalised. So a remote is cut at no other places than those where it was put together. The one
place where two forms could be confused is behind the colon of the secure shell, where an owner
that is made of digits would be taken for a port.
-/

namespace BuildLine.Source

open Text

/-! ### Names -/

/-- The characters that mean something in a remote, or turn into such. -/
def special : List Char :=
  ['/', ':', '@'] ++ Remote.signs ++ Url.hiddenSeparators.map Char.ofNat

theorem mem_special {c : Char} (h : c ∈ ['/', ':', '@']) : c ∈ special :=
  List.mem_append_left _ (List.mem_append_left _ h)

/-- A character of a name: a letter or a number of any script, or one of `_`, `.` and `-`. -/
def isNameChar (c : Char) : Bool :=
  isWord c || c == '.' || c == '-'

variable {c : Char}

theorem not_special_of_isNameChar (h : isNameChar c = true) : c ∉ special := by
  have hspecial : special.any isNameChar = false := by decide +kernel
  exact fun hmem => List.any_eq_false.mp hspecial c hmem h

theorem not_special_of_isDigit (h : isDigit c = true) : c ∉ special := by
  have hspecial : special.any isDigit = false := by decide +kernel
  exact fun hmem => List.any_eq_false.mp hspecial c hmem h

theorem ne_of_not_special {d : Char} (h : c ∉ special) (hd : d ∈ ['/', ':', '@']) : c ≠ d :=
  fun hcd => h (mem_special (hcd ▸ hd))

theorem isPlain_of_not_special (h : c ∉ special) : Remote.IsPlain c := by
  refine ⟨fun hmem => h ?_, fun hmem => h ?_⟩
  · exact List.mem_append_left _ (List.mem_append_right _ hmem)
  · exact List.mem_append_right _ (List.mem_map.mpr ⟨c.toNat, hmem, Char.ofNat_toNat c⟩)

/-- **A repository and the way to it.** -/
structure Address where
  /-- The user who asks for it. -/
  user : List Char
  /-- The host where it is. -/
  host : List Char
  /-- The segments of its owner. -/
  owner : List (List Char)
  /-- Its name, without the ending. -/
  name : List Char
  /-- The user is a name. -/
  user_chars : ∀ c ∈ user, isNameChar c = true
  /-- The host is a name. -/
  host_chars : ∀ c ∈ host, isNameChar c = true
  /-- There is an owner. -/
  owner_ne : owner ≠ []
  /-- The segments of the owner are names and not empty. -/
  owner_chars : ∀ p ∈ owner, p ≠ [] ∧ ∀ c ∈ p, isNameChar c = true
  /-- The name is one. -/
  name_chars : ∀ c ∈ name, isNameChar c = true

namespace Address

variable (a : Address)

/-- The segments of the path: those of the owner, and the name with its ending. -/
def parts : List (List Char) :=
  a.owner ++ [a.name ++ ".git".toList]

/-- The path. -/
def path : List Char :=
  joinWith ['/'] a.parts

/-- User and host. -/
def login : List Char :=
  a.user ++ '@' :: a.host

variable {a : Address}

theorem of_mem_parts {p : List Char} (h : p ∈ a.parts) : p ≠ [] ∧ ∀ c ∈ p, isNameChar c = true := by
  rcases List.mem_append.mp h with h | h
  · exact a.owner_chars p h
  · obtain rfl := List.mem_singleton.mp h
    refine ⟨by simp, fun c hc => ?_⟩
    rcases List.mem_append.mp hc with hc | hc
    · exact a.name_chars c hc
    · have hending : ".git".toList.all isNameChar = true := by decide
      exact List.all_eq_true.mp hending c hc

theorem slash_not_mem_parts {p : List Char} (h : p ∈ a.parts) : p ≠ [] ∧ '/' ∉ p :=
  have hchars := (of_mem_parts h).2
  ⟨(of_mem_parts h).1, fun hmem =>
    not_special_of_isNameChar (hchars _ hmem) (mem_special (by simp))⟩

theorem segments_path (a : Address) : Remote.segments a.path = a.parts :=
  Remote.segments_joinWith fun _ => slash_not_mem_parts

theorem two_le_length_parts (a : Address) : 2 ≤ a.parts.length := by
  rw [parts, List.length_append, List.length_singleton]
  exact Nat.succ_le_succ (List.length_pos_of_ne_nil a.owner_ne)

theorem not_special_of_mem_path (h : c ∈ a.path) : c = '/' ∨ c ∉ special := by
  rcases mem_joinWith h with h | ⟨p, hp, hc⟩
  · exact Or.inl (List.mem_singleton.mp h)
  · exact Or.inr (not_special_of_isNameChar ((of_mem_parts hp).2 c hc))

theorem isPlain_of_mem_path (h : c ∈ a.path) : Remote.IsPlain c := by
  rcases not_special_of_mem_path h with rfl | hc
  · decide
  · exact isPlain_of_not_special hc

theorem not_mem_path (h : c ∈ [':', '@']) : c ∉ a.path := by
  intro hmem
  rcases not_special_of_mem_path hmem with rfl | hc
  · exact absurd h (by decide)
  · exact hc (mem_special (List.mem_cons_of_mem _ h))

theorem head?_path (a : Address) : a.path.head? ≠ some '/' := by
  have hsplit : splitAt '/' a.path = a.parts :=
    splitAt_joinWith (by simp [parts]) fun p hp => (slash_not_mem_parts hp).2
  have hproper : Remote.Proper (String.ofList a.path) := by
    refine Remote.Proper.of_splitAt ?_
    rw [hsplit]
    exact fun hnil => (slash_not_mem_parts hnil).1 rfl
  simpa using hproper.head

theorem not_mem_host (h : c ∈ ['/', ':', '@']) : c ∉ a.host :=
  fun hmem => not_special_of_isNameChar (a.host_chars c hmem) (mem_special h)

theorem isPlain_of_mem_host (h : c ∈ a.host) : Remote.IsPlain c ∧ c ≠ '/' :=
  ⟨isPlain_of_not_special (not_special_of_isNameChar (a.host_chars c h)),
    fun hslash => not_mem_host (hslash ▸ by simp) h⟩

theorem isPlain_of_mem_login (h : c ∈ a.login) : Remote.IsPlain c ∧ c ≠ '/' ∧ c ≠ ':' := by
  have hname {d : Char} (hd : isNameChar d = true) : Remote.IsPlain d ∧ d ≠ '/' ∧ d ≠ ':' :=
    have hspecial := not_special_of_isNameChar hd
    ⟨isPlain_of_not_special hspecial, ne_of_not_special hspecial (by simp),
      ne_of_not_special hspecial (by simp)⟩
  rcases List.mem_append.mp h with h | h
  · exact hname (a.user_chars c h)
  · rcases List.mem_cons.mp h with rfl | h
    · decide
    · exact hname (a.host_chars c h)

end Address

/-- **The forms of a remote.** -/
inductive Form where
  /-- `ssh://user@host/path` -/
  | shell
  /-- `ssh://user@host:port/path` -/
  | shellPort (port : List Char)
  /-- `ssh://user@host:path` -/
  | shellOwner
  /-- `ssh+git://user@host/path` -/
  | shellGit
  /-- `user@host:path` -/
  | short
  /-- `https://host/path` -/
  | web
  /-- `http://host/path` -/
  | plainWeb

/-- A locator, with what stands behind its scheme. -/
def locator (scheme : String) (rest : List Char) : List Char :=
  scheme.toList ++ "://".toList ++ rest

/-- **The remote in a form.** -/
def Form.write (a : Address) : Form → List Char
  | shell => locator "ssh" (a.login ++ '/' :: a.path)
  | shellPort port => locator "ssh" (a.login ++ ':' :: port ++ '/' :: a.path)
  | shellOwner => locator "ssh" (a.login ++ ':' :: a.path)
  | shellGit => locator "ssh+git" (a.login ++ '/' :: a.path)
  | short => a.login ++ ':' :: a.path
  | web => locator "https" (a.host ++ '/' :: a.path)
  | plainWeb => locator "http" (a.host ++ '/' :: a.path)

/-- What a form asks for: ports are made of digits, and an owner in the place of a port is not. -/
def Form.Fits (a : Address) : Form → Prop
  | shellPort port => ∀ c ∈ port, isDigit c = true
  | shellOwner => ∀ p, a.owner.head? = some p → allDigits p = false
  | _ => True

/-! ### Cutting where it was put together -/

section Cutting

variable {scheme : String} {a p : List Char}

/-- A locator without special characters but for those that part its path from the rest. -/
theorem hostAndPath_of_plain (hscheme : Url.IsScheme scheme.toList)
    (ha : ∀ c ∈ a, Remote.IsPlain c ∧ c ≠ '/') (hp : ∀ c ∈ p, Remote.IsPlain c) :
    Remote.hostAndPath (String.ofList (locator scheme (a ++ '/' :: p))) =
      .ok (Remote.ofUrl
        { scheme := scheme.toList.map Char.toLower, authority := a, path := '/' :: p }) := by
  have hplain : ∀ c ∈ a ++ '/' :: p, Remote.IsPlain c := by
    intro c hc
    rcases List.mem_append.mp hc with hc | hc
    · exact (ha c hc).1
    · rcases List.mem_cons.mp hc with rfl | hc
      · decide
      · exact hp c hc
  have hlegible : Url.legible (a ++ '/' :: p) = a ++ '/' :: p := Remote.legible_of_plain hplain
  have hne : ∀ c ∈ a, (c != '/') = true := fun c hc => bne_iff_ne.mpr (ha c hc).2
  have hauthority : Url.authorityOf (a ++ '/' :: p) = a := by
    rw [Url.authorityOf, hlegible, takeWhile_append_cons hne (by decide)]
  have hpath : Url.pathOf (a ++ '/' :: p) = '/' :: p := by
    rw [Url.pathOf, hlegible, dropWhile_append_cons hne (by decide)]
  have hparameters : Url.withoutParameters ('/' :: p) = '/' :: p :=
    Remote.withoutParameters_of_plain fun c hc => hplain c (List.mem_append_right _ hc)
  have hlist : (String.ofList (locator scheme (a ++ '/' :: p))).toList =
      scheme.toList ++ "://".toList ++ (a ++ '/' :: p) := String.toList_ofList
  rw [Remote.hostAndPath_of_scheme hscheme hlist, hauthority, hpath,
    Remote.checkAuthority_of_plain fun c hc => (ha c hc).1, hparameters, ite_self]
  rfl

variable {scheme user host port path : List Char}

/-- The secure shell: the host ends where the port begins. -/
theorem ofUrl_of_shell (hscheme : "ssh".toList <+: scheme) (hat : '@' ∉ host)
    (hcolon : ':' ∉ host) :
    Remote.ofUrl { scheme, authority := user ++ '@' :: host, path } = (host, path) := by
  simp only [Remote.ofUrl, List.isPrefixOf_iff_prefix.mpr hscheme, afterLast_append_cons,
    afterLast_of_not_mem hat, Remote.cutColon_of_not_mem hcolon, List.isEmpty_nil,
    Bool.true_or, if_true]

theorem ofUrl_of_shell_colon (hscheme : "ssh".toList <+: scheme) (hat : '@' ∉ host ++ ':' :: port)
    (hcolon : ':' ∉ host) :
    Remote.ofUrl { scheme, authority := user ++ '@' :: (host ++ ':' :: port), path } =
      if port.isEmpty || allDigits port then (host, path)
      else (host, port ++ '/' :: trimLeft (· = '/') path) := by
  simp only [Remote.ofUrl, List.isPrefixOf_iff_prefix.mpr hscheme, afterLast_append_cons,
    afterLast_of_not_mem hat, Remote.cutColon_append_cons hcolon, if_true]

/-- The web: the host is what stands behind the user information. -/
theorem ofUrl_of_web (hscheme : ¬ "ssh".toList <+: scheme) (hat : '@' ∉ host) :
    Remote.ofUrl { scheme, authority := host, path } = (host, path) := by
  simp only [Remote.ofUrl, Bool.eq_false_iff.mpr (mt List.isPrefixOf_iff_prefix.mp hscheme),
    afterLast_of_not_mem hat, Bool.false_eq_true, if_false]

end Cutting

/-! ### Reading the forms -/

namespace Form

variable {scheme : String}

theorem hostAndPath_shell (hscheme : Url.IsScheme scheme.toList)
    (hshell : "ssh".toList <+: scheme.toList.map Char.toLower) (a : Address) :
    Remote.hostAndPath (String.ofList (locator scheme (a.login ++ '/' :: a.path))) =
      .ok (a.host, '/' :: a.path) := by
  rw [hostAndPath_of_plain hscheme, Address.login, ofUrl_of_shell hshell]
  · exact Address.not_mem_host (by simp)
  · exact Address.not_mem_host (by simp)
  · intro c hc
    obtain ⟨hplain, hslash, -⟩ := Address.isPlain_of_mem_login hc
    exact ⟨hplain, hslash⟩
  · exact fun c => Address.isPlain_of_mem_path

theorem hostAndPath_web (hscheme : Url.IsScheme scheme.toList)
    (hweb : ¬ "ssh".toList <+: scheme.toList.map Char.toLower) (a : Address) :
    Remote.hostAndPath (String.ofList (locator scheme (a.host ++ '/' :: a.path))) =
      .ok (a.host, '/' :: a.path) := by
  rw [hostAndPath_of_plain hscheme, ofUrl_of_web hweb]
  · exact Address.not_mem_host (by simp)
  · exact fun c => Address.isPlain_of_mem_host
  · exact fun c => Address.isPlain_of_mem_path

theorem isScheme_ssh : Url.IsScheme "ssh".toList :=
  ⟨⟨_, _, rfl, by decide⟩, List.all_eq_true.mp (by decide)⟩

theorem isScheme_sshGit : Url.IsScheme "ssh+git".toList :=
  ⟨⟨_, _, rfl, by decide⟩, List.all_eq_true.mp (by decide)⟩

theorem isScheme_http : Url.IsScheme "http".toList :=
  ⟨⟨_, _, rfl, by decide⟩, List.all_eq_true.mp (by decide)⟩

/-- What stands behind the colon of the secure shell, up to the next slash. -/
theorem hostAndPath_shell_colon {port rest : List Char} (a : Address)
    (hport : ∀ c ∈ port, Remote.IsPlain c ∧ c ≠ '/' ∧ c ≠ '@')
    (hrest : ∀ c ∈ rest, Remote.IsPlain c) :
    Remote.hostAndPath (String.ofList (locator "ssh" (a.login ++ ':' :: port ++ '/' :: rest))) =
      .ok (if port.isEmpty || allDigits port then (a.host, '/' :: rest)
        else (a.host, port ++ '/' :: trimLeft (· = '/') ('/' :: rest))) := by
  have hauthority : a.login ++ ':' :: port = a.user ++ '@' :: (a.host ++ ':' :: port) := by
    rw [Address.login, List.append_assoc, List.cons_append]
  rw [hostAndPath_of_plain isScheme_ssh, hauthority, ofUrl_of_shell_colon (by decide)]
  · intro hmem
    rcases List.mem_append.mp hmem with hmem | hmem
    · exact Address.not_mem_host (by simp) hmem
    · rcases List.mem_cons.mp hmem with hcolon | hmem
      · exact absurd hcolon (by decide)
      · exact (hport _ hmem).2.2 rfl
  · exact Address.not_mem_host (by simp)
  · intro c hc
    rcases List.mem_append.mp hc with hc | hc
    · obtain ⟨hplain, hslash, -⟩ := Address.isPlain_of_mem_login hc
      exact ⟨hplain, hslash⟩
    · rcases List.mem_cons.mp hc with rfl | hc
      · decide
      · exact ⟨(hport c hc).1, (hport c hc).2.1⟩
  · exact hrest

theorem hostAndPath_short (a : Address) :
    Remote.hostAndPath (String.ofList (a.login ++ ':' :: a.path)) = .ok (a.host, a.path) := by
  have hlogin : ':' ∉ a.login := fun hmem => (Address.isPlain_of_mem_login hmem).2.2 rfl
  have hpath : ':' ∉ a.path := Address.not_mem_path (by simp)
  have hlocator : ¬ "://".toList <:+: a.login ++ ':' :: a.path := by
    rintro ⟨x, y, hxy⟩
    -- the colon of a locator would be the only colon, but it is followed by no slash
    have hsplit : x ++ ':' :: '/' :: '/' :: y = a.login ++ ':' :: a.path := by
      rw [← hxy]
      simp
    obtain ⟨z, hz, hrest⟩ | ⟨z, hz, hrest⟩ := List.append_eq_append_iff.mp hsplit
    · cases z with
      | nil => exact a.head?_path (by rw [← (List.cons.inj hrest).2]; rfl)
      | cons d z =>
        rw [(List.cons.inj hrest).1.symm] at hz
        exact hlogin (by simp [hz])
    · cases z with
      | nil => exact a.head?_path (by rw [(List.cons.inj hrest).2]; rfl)
      | cons d z =>
        exact hpath (by rw [(List.cons.inj hrest).2]; simp)
  have hafter : afterLast '@' (a.login ++ ':' :: a.path) = a.host ++ ':' :: a.path := by
    have hat : '@' ∉ a.host ++ ':' :: a.path := by
      simp only [List.mem_append, List.mem_cons, not_or]
      exact ⟨Address.not_mem_host (by simp), by decide, Address.not_mem_path (by simp)⟩
    rw [Address.login, List.append_assoc, List.cons_append, afterLast_append_cons,
      afterLast_of_not_mem hat]
  have hlist : (String.ofList (a.login ++ ':' :: a.path)).toList = a.login ++ ':' :: a.path :=
    String.toList_ofList
  rw [Remote.hostAndPath_of_short, hlist, hafter,
    Remote.cutColon_append_cons (Address.not_mem_host (by simp))]
  · rwa [hlist]
  · rw [hlist, Address.login]
    simp
  · rw [hlist]
    simp

/-- An owner in the place of a port is read as the front of the path. -/
theorem hostAndPath_shellOwner {a : Address} (h : shellOwner.Fits a) :
    ∃ path, Remote.hostAndPath (String.ofList (shellOwner.write a)) = .ok (a.host, path) ∧
      Remote.segments path = a.parts := by
  obtain ⟨group, groups, howner⟩ := List.exists_cons_of_ne_nil a.owner_ne
  have hgroup : group ∈ a.owner := by rw [howner]; exact List.mem_cons_self ..
  obtain ⟨hne, hchars⟩ := a.owner_chars group hgroup
  have hdigits : allDigits group = false := h group (by rw [howner]; rfl)
  obtain ⟨rest, hpath⟩ : ∃ rest, a.path = group ++ '/' :: rest := by
    obtain ⟨p, ps, hps⟩ : ∃ p ps, groups ++ [a.name ++ ".git".toList] = p :: ps :=
      List.exists_cons_of_ne_nil (by simp)
    refine ⟨joinWith ['/'] (p :: ps), ?_⟩
    rw [Address.path, Address.parts, howner, List.cons_append, hps, joinWith_cons_cons,
      List.append_assoc, List.singleton_append]
  have hwrite : shellOwner.write a =
      locator "ssh" (a.login ++ ':' :: group ++ '/' :: rest) := by
    rw [write, hpath, List.append_assoc a.login, List.cons_append]
  refine ⟨group ++ '/' :: trimLeft (· = '/') ('/' :: rest), ?_, ?_⟩
  · rw [hwrite, hostAndPath_shell_colon, hdigits, Bool.or_false, List.isEmpty_eq_false_iff.mpr hne,
      if_neg Bool.false_ne_true]
    · intro c hc
      have hspecial := not_special_of_isNameChar (hchars c hc)
      exact ⟨isPlain_of_not_special hspecial, ne_of_not_special hspecial (by simp),
        ne_of_not_special hspecial (by simp)⟩
    · intro c hc
      exact Address.isPlain_of_mem_path (by rw [hpath]; simp [hc])
  · rw [Remote.segments_append_slash, Remote.segments_trimLeft, Remote.segments_slash,
      ← Remote.segments_append_slash, ← hpath, Address.segments_path]

/-- **Every form is read as the same host and the same segments.** -/
theorem hostAndPath_write {a : Address} {f : Form} (h : f.Fits a) :
    ∃ path, Remote.hostAndPath (String.ofList (f.write a)) = .ok (a.host, path) ∧
      Remote.segments path = a.parts := by
  have hslash : Remote.segments ('/' :: a.path) = a.parts := by
    rw [Remote.segments_slash, Address.segments_path]
  cases f with
  | shell => exact ⟨_, hostAndPath_shell isScheme_ssh (by decide) a, hslash⟩
  | shellPort port =>
    have hport : (port.isEmpty || allDigits port) = true := by
      cases port with
      | nil => rfl
      | cons c port =>
        have hall : (c :: port).all isDigit = true := List.all_eq_true.mpr h
        rw [allDigits, hall]
        rfl
    refine ⟨'/' :: a.path, ?_, hslash⟩
    rw [write, hostAndPath_shell_colon, if_pos hport]
    · intro c hc
      have hspecial := not_special_of_isDigit (h c hc)
      exact ⟨isPlain_of_not_special hspecial, ne_of_not_special hspecial (by simp),
        ne_of_not_special hspecial (by simp)⟩
    · exact fun c => Address.isPlain_of_mem_path
  | shellOwner => exact hostAndPath_shellOwner h
  | shellGit => exact ⟨_, hostAndPath_shell isScheme_sshGit (by decide) a, hslash⟩
  | short => exact ⟨_, hostAndPath_short a, a.segments_path⟩
  | web => exact ⟨_, hostAndPath_web Url.isScheme_https (by decide) a, hslash⟩
  | plainWeb => exact ⟨_, hostAndPath_web isScheme_http (by decide) a, hslash⟩

theorem suffix_locator (scheme : String) (s t : List Char) (c : Char) :
    t <:+ locator scheme (s ++ c :: t) :=
  (List.suffix_cons c t).trans ((List.suffix_append s _).trans (List.suffix_append _ _))

/-- Every form ends as it must, and has a sign that stands in locators or in the short form. -/
theorem rewritable_write (a : Address) (f : Form) : Checkout.Rewritable (f.write a) := by
  have hending : ".git".toList <:+ a.path := by
    refine ⟨joinWith ['/'] a.owner ++ ['/'] ++ a.name, ?_⟩
    rw [Address.path, Address.parts, joinWith_concat a.owner_ne]
    simp only [List.append_assoc]
  have hpath : a.path <:+ f.write a := by
    cases f with
    | short => exact (List.suffix_cons ':' _).trans (List.suffix_append a.login _)
    | _ => exact suffix_locator ..
  refine ⟨hending.trans hpath, ?_⟩
  cases f with
  | short => exact Or.inl (by simp [write, Address.login])
  | _ => exact Or.inr ⟨_, _, rfl⟩

/-- **The forms of a remote agree.** Each of them names the host, the owner and the repository that
it was made of, and each is rewritten to the locator of the web, this one to itself. -/
theorem parse_write {a : Address} {f : Form} (h : f.Fits a) :
    ∃ r, Remote.parse (String.ofList (f.write a)) = .ok r ∧
      r.host = String.ofList a.host ∧
      r.owner = String.ofList (joinWith ['/'] a.owner) ∧
      r.name = String.ofList a.name ∧
      r.slug = String.ofList (joinWith ['/'] a.owner ++ '/' :: a.name) ∧
      Checkout.rewriteRemote (String.ofList (f.write a)) = .ok (String.ofList (web.write a)) := by
  obtain ⟨path, hfound, hsegments⟩ := hostAndPath_write h
  let r := Remote.ofParts (String.ofList (f.write a)) a.host a.parts
  have hparse : Remote.parse (String.ofList (f.write a)) = .ok r := by
    rw [Remote.parse_of_ok hfound, hsegments, if_pos a.two_le_length_parts]
  have howner : r.owner = String.ofList (joinWith ['/'] a.owner) := Remote.owner_ofParts ..
  have hname : r.name = String.ofList a.name :=
    (Remote.name_ofParts ..).trans (congrArg String.ofList (Remote.dropTail_append ..))
  have hslug : r.slug = String.ofList (joinWith ['/'] a.owner ++ '/' :: a.name) := by
    rw [Remote.slug, howner, hname, String.append_assoc]
    simp
  have hlocator : r.locator = String.ofList (web.write a) := by
    have hhost : r.host.toList = a.host := String.toList_ofList
    have hlist : r.slug.toList = joinWith ['/'] a.owner ++ '/' :: a.name :=
      (congrArg String.toList hslug).trans String.toList_ofList
    refine String.toList_injective (Eq.trans ?_ String.toList_ofList.symm)
    rw [r.toList_locator, Remote.tail, hhost, hlist, write, locator, Address.path, Address.parts,
      joinWith_concat a.owner_ne]
    simp only [List.append_assoc, List.cons_append, List.nil_append]
  have hform : Checkout.Rewritable (String.ofList (f.write a)).toList := by
    rw [String.toList_ofList]
    exact rewritable_write a f
  refine ⟨r, hparse, rfl, howner, hname, hslug, ?_⟩
  rw [Checkout.rewriteRemote_of_parse_ok hform hparse, hlocator]

/-- An owner that is a number, behind a port, and a repository whose own name has the ending. -/
theorem parse_write_numbers :
    let a : Address :=
      { user := "git".toList, host := "gitlab.com".toList, owner := ["7".toList, "sub".toList]
        name := "project.git".toList, owner_ne := by simp
        user_chars := List.all_eq_true.mp (by decide)
        host_chars := List.all_eq_true.mp (by decide)
        owner_chars := by simp; decide
        name_chars := List.all_eq_true.mp (by decide) }
    (shellPort "22".toList).Fits a ∧
      (∃ r, Remote.parse "ssh://git@gitlab.com:22/7/sub/project.git.git" = .ok r ∧
        r.slug = "7/sub/project.git") ∧
      Checkout.rewriteRemote "ssh://git@gitlab.com:22/7/sub/project.git.git" =
        .ok "https://gitlab.com/7/sub/project.git.git" := by
  intro a
  have hfits : (shellPort "22".toList).Fits a := List.all_eq_true.mp (by decide)
  have hwritten : String.ofList ((shellPort "22".toList).write a) =
      "ssh://git@gitlab.com:22/7/sub/project.git.git" := by cbv
  have hweb : String.ofList (web.write a) = "https://gitlab.com/7/sub/project.git.git" := by cbv
  have hslug : String.ofList (joinWith ['/'] a.owner ++ '/' :: a.name) = "7/sub/project.git" := by
    cbv
  have hread := parse_write hfits
  rw [hwritten, hweb, hslug] at hread
  obtain ⟨r, hparse, -, -, -, hr, hrewrite⟩ := hread
  exact ⟨hfits, ⟨r, hparse, hr⟩, hrewrite⟩

end Form

end BuildLine.Source
