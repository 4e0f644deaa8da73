import ProxySteward.Proofs.Config.ConnectionFrame
import ProxySteward.Proofs.Host.PathLaws

/-!
# Which place the connection comes from

An address of the operator decides alone.  Without one, the configuration file is the first
candidate that can be used, that is, a regular file that its owner may read and that holds text
(`IsUsable`); nothing behind it and nothing else in the file tree matters.  A management key of the
operator takes the place of the secret in each of these cases and changes nothing else.

Candidates are the places without repetitions, and a repetition is a path with the same parts.
Leaving it out changes nothing if the earlier path is as good as the later one.  Two paths that are
the same lead to the same file if they end in a name, and all the usual places do.  Only the path
that the operator gives can end in a separator or in a dot.  Then it names no file, but it still
stands for the usual place with the same parts: `Overshadows` says when this is the place that would
have been selected, and `resolveAmong_places_eq_iff` that nothing else can go wrong.
-/

namespace ProxySteward

open Text FileTree

namespace Overrides

variable {o : Overrides} {roots : SearchRoots} {ps xs : List Path} {p q path : Path}
  {f : Path → Bool}

/-! ## Paths without repetitions -/

theorem distinct_concat (ps : List Path) (q : Path) :
    distinct (ps ++ [q]) =
      if (distinct ps).any (Path.same q) then distinct ps else distinct ps ++ [q] := by
  simp only [distinct, List.foldl_append, List.foldl_cons, List.foldl_nil, List.any_reverse]
  split
  · rfl
  · rw [List.reverse_cons]

theorem mem_of_mem_distinct (h : p ∈ distinct ps) : p ∈ ps := by
  induction ps using List.reverseRecOn with
  | nil => exact h
  | append_singleton ps q ih =>
    rw [distinct_concat] at h
    split at h
    · exact List.mem_append_left _ (ih h)
    · exact (List.mem_append.1 h).elim (fun hp => List.mem_append_left _ (ih hp))
        (List.mem_append_right _)

/-- For every path, the one that is kept for it. -/
theorem exists_mem_distinct_same (h : p ∈ ps) : ∃ k ∈ distinct ps, Path.same p k = true := by
  induction ps using List.reverseRecOn with
  | nil => exact absurd h List.not_mem_nil
  | append_singleton ps q ih =>
    rw [distinct_concat]
    split
    · next hany =>
      rcases List.mem_append.1 h with h | h
      · exact ih h
      · rw [List.mem_singleton.1 h]
        exact List.any_eq_true.1 hany
    · rcases List.mem_append.1 h with h | h
      · obtain ⟨k, hk, hsame⟩ := ih h
        exact ⟨k, List.mem_append_left _ hk, hsame⟩
      · exact ⟨q, List.mem_append_right _ List.mem_cons_self, by
          rw [List.mem_singleton.1 h]
          exact Path.same_refl q⟩

/-- What is kept of later paths is not the same as anything that is kept of earlier ones. -/
theorem exists_distinct_append (xs ys : List Path) :
    ∃ tail, distinct (xs ++ ys) = distinct xs ++ tail ∧
      ∀ q ∈ tail, ∀ k ∈ distinct xs, Path.same q k = false := by
  induction ys using List.reverseRecOn with
  | nil => exact ⟨[], by simp, fun _ hq => absurd hq List.not_mem_nil⟩
  | append_singleton ys y ih =>
    obtain ⟨tail, htail, hnew⟩ := ih
    rw [← List.append_assoc, distinct_concat, htail]
    split
    · exact ⟨tail, rfl, hnew⟩
    · next hany =>
      refine ⟨tail ++ [y], by simp, fun q hq k hk => ?_⟩
      rcases List.mem_append.1 hq with hq | hq
      · exact hnew q hq k hk
      · rw [List.mem_singleton.1 hq, Bool.eq_false_iff]
        exact fun hsame => hany (List.any_eq_true.2 ⟨k, List.mem_append_left _ hk, hsame⟩)

/-- **Repetitions may be left out of a search**, unless the path that is found is the same as an
earlier one. -/
theorem find?_distinct_iff :
    (distinct ps).find? f = ps.find? f ↔
      ¬ ∃ earlier path later, ps = earlier ++ path :: later ∧
        (∀ p ∈ earlier, f p = false) ∧
        f path = true ∧ ∃ p ∈ earlier, Path.same path p = true := by
  constructor
  · rintro heq ⟨earlier, path, later, rfl, hearlier, hpath, p, hp, hsame⟩
    have hfound : (earlier ++ path :: later).find? f = some path :=
      List.find?_eq_some_iff_append.2
        ⟨hpath, earlier, later, rfl, fun q hq => by rw [hearlier q hq]; rfl⟩
    have hmem : path ∈ distinct (earlier ++ path :: later) :=
      List.mem_of_find?_eq_some (heq.trans hfound)
    obtain ⟨tail, htail, hnew⟩ := exists_distinct_append earlier (path :: later)
    rw [htail, List.mem_append] at hmem
    rcases hmem with hmem | hmem
    · rw [hearlier path (mem_of_mem_distinct hmem)] at hpath
      exact absurd hpath (by decide)
    · obtain ⟨k, hk, hkeep⟩ := exists_mem_distinct_same hp
      exact absurd ((hnew path hmem k hk).symm.trans (Path.same_trans hsame hkeep)) (by decide)
  · intro hno
    induction ps using List.reverseRecOn with
    | nil => rfl
    | append_singleton ps q ih =>
      have hps : (distinct ps).find? f = ps.find? f :=
        ih fun ⟨earlier, path, later, hsplit, h⟩ =>
        hno ⟨earlier, path, later ++ [q], by simp [hsplit], h⟩
      rw [distinct_concat]
      split
      · next hany =>
        rw [List.find?_append, hps]
        cases hfound : ps.find? f with
        | some path => rfl
        | none =>
          have hq : f q = false := by
            rw [Bool.eq_false_iff]
            intro hq
            obtain ⟨k, hk, hsame⟩ := List.any_eq_true.1 hany
            refine hno ⟨ps, q, [], rfl, fun p hp => ?_, hq, k, mem_of_mem_distinct hk, hsame⟩
            simpa using List.find?_eq_none.1 hfound p hp
          rw [List.find?_cons, hq]
          rfl
      · rw [List.find?_append, List.find?_append, hps]

/-! ## The places -/

/-- Below a directory, a configuration file of the usual name. -/
theorem endsInName_join_config (d : Path) {relative : Text} (front : Text)
    (hrelative : relative = front ++ "config.yaml".toList)
    (hfront : front = [] ∨ front.getLast? = some '/')
    (habsolute : Path.isAbsolute (front ++ "config.yaml".toList) = false) :
    Path.EndsInName (Path.join d relative) := by
  rw [hrelative]
  exact Path.endsInName_join d habsolute hfront (by decide) (by decide)

/-- The usual places end in a name. -/
theorem endsInName_or_of_mem_places (h : p ∈ o.places roots) :
    Path.EndsInName p ∨ o.configPath = some p ∧ p ≠ [] := by
  simp only [places, List.mem_append, Option.mem_toList, List.mem_flatMap, List.mem_cons,
    List.not_mem_nil, or_false, Option.filter_eq_some_iff] at h
  rcases h with (⟨hp, hne⟩ | ⟨d, -, rfl | rfl⟩) | ⟨d, -, rfl | rfl⟩
  · exact Or.inr ⟨hp, by simpa using hne⟩
  · exact Or.inl (endsInName_join_config d [] rfl (Or.inl rfl) rfl)
  · exact Or.inl (endsInName_join_config d "../CLIProxyAPI/".toList rfl (Or.inr rfl) rfl)
  · exact Or.inl (endsInName_join_config d "CLIProxyAPI/".toList rfl (Or.inr rfl) rfl)
  · exact Or.inl (endsInName_join_config d ".cliproxyapi/".toList rfl (Or.inr rfl) rfl)

end Overrides

namespace Connection

variable {files files' : FileTree} {o : Overrides} {roots : SearchRoots} {paths paths' : List Path}
  {p path : Path} {readText readText' : Path → Option Text}

/-! ## The selected place -/

/-- A path that can give the configuration: it leads to a regular file which may be read, and its
bytes are a text. -/
def IsUsable (files : FileTree) (p : Path) : Prop :=
  ∃ doc l content mode, HoldsText files p doc l content mode

theorem isUsable_iff : IsUsable files p ↔ (configText? files p).isSome = true := by
  rw [Option.isSome_iff_exists]
  exact exists_congr fun doc => by rw [configText?_eq_some_iff, readText_eq_ok_iff]

theorem not_isUsable_iff : ¬ IsUsable files p ↔ configText? files p = none := by
  rw [isUsable_iff, Option.not_isSome_iff_eq_none]

/-- The first usable path of a list. -/
def IsFirstUsable (files : FileTree) (paths : List Path) (path : Path) : Prop :=
  ∃ earlier later, paths = earlier ++ path :: later ∧
    (∀ p ∈ earlier, ¬ IsUsable files p) ∧
    IsUsable files path

/-- The first path that has a text. -/
def selected? (readText : Path → Option Text) (paths : List Path) : Option Path :=
  paths.find? fun p => (readText p).isSome

theorem selected?_eq_some_iff :
    selected? (configText? files) paths = some path ↔ IsFirstUsable files paths path := by
  rw [selected?, List.find?_eq_some_iff_append, IsFirstUsable, ← isUsable_iff]
  constructor
  · rintro ⟨hpath, earlier, later, hsplit, hearlier⟩
    exact ⟨earlier, later, hsplit,
      fun p hp => not_isUsable_iff.2 (by simpa using hearlier p hp), hpath⟩
  · rintro ⟨earlier, later, hsplit, hearlier, hpath⟩
    exact ⟨hpath, earlier, later, hsplit,
      fun p hp => by rw [not_isUsable_iff.1 (hearlier p hp)]; rfl⟩

theorem selected?_eq_none_iff :
    selected? (configText? files) paths = none ↔ ∀ p ∈ paths, ¬ IsUsable files p := by
  simp only [selected?, List.find?_eq_none, isUsable_iff]

/-- The selected path and its text are all that counts. -/
theorem ofCandidates?_eq (readText : Path → Option Text) (paths : List Path) :
    ofCandidates? readText paths =
      (selected? readText paths).bind fun p => (readText p).map (ofDocument p) := by
  induction paths with
  | nil => rfl
  | cons p paths ih =>
    rw [ofCandidates?, List.findSome?_cons, ← ofCandidates?, ih, selected?, selected?,
      List.find?_cons]
    cases htext : readText p with
    | some text => simp [htext]
    | none => simp

/-- The connection, found among any list of paths. -/
def resolveAmong (files : FileTree) (o : Overrides) (paths : List Path) : Connection :=
  match Overrides.given? o.baseUrl with
  | some url => (ofUrl url).withKey (Overrides.given? o.managementKey)
  | none => ((ofCandidates? (configText? files) paths).getD fallback).withKey
      (Overrides.given? o.managementKey)

theorem resolveIn_eq_resolveAmong (files : FileTree) (o : Overrides) (roots : SearchRoots) :
    resolveIn files o roots = resolveAmong files o (o.candidates roots) := rfl

theorem configPath_resolveAmong (hurl : Overrides.given? o.baseUrl = none) :
    (resolveAmong files o paths).configPath = selected? (configText? files) paths := by
  rw [resolveAmong, hurl]
  dsimp only
  rw [configPath_withKey, ofCandidates?_eq]
  cases hfound : selected? (configText? files) paths with
  | none => rfl
  | some p =>
    obtain ⟨-, -, -, -, husable⟩ := selected?_eq_some_iff.1 hfound
    obtain ⟨doc, hdoc⟩ := Option.isSome_iff_exists.1 (isUsable_iff.1 husable)
    rw [Option.bind_some, hdoc]
    rfl

theorem configPath_resolveAmong_iff (hurl : Overrides.given? o.baseUrl = none) :
    (resolveAmong files o paths).configPath = some path ↔ IsFirstUsable files paths path := by
  rw [configPath_resolveAmong hurl, selected?_eq_some_iff]

theorem resolveAmong_of_given (files : FileTree) (paths : List Path) {url : Text}
    (hurl : Overrides.given? o.baseUrl = some url) :
    resolveAmong files o paths = (ofUrl url).withKey (Overrides.given? o.managementKey) := by
  rw [resolveAmong, hurl]

/-- A management key that is given is put into the connection that there is without it. -/
theorem resolveAmong_of_given_key (files : FileTree) (paths : List Path) {key : Text}
    (hkey : Overrides.given? o.managementKey = some key) :
    resolveAmong files o paths =
      { resolveAmong files { o with managementKey := none } paths with managementKey := key } := by
  rw [resolveAmong, resolveAmong, hkey]
  cases Overrides.given? o.baseUrl <;> rfl

theorem resolveAmong_of_not_isUsable (hurl : Overrides.given? o.baseUrl = none)
    (h : ∀ p ∈ paths, ¬ IsUsable files p) :
    resolveAmong files o paths =
      ⟨localUrl 8317, (Overrides.given? o.managementKey).getD [], 8317, none⟩ := by
  have hnone : ofCandidates? (configText? files) paths = none := by
    rw [ofCandidates?_eq, selected?_eq_none_iff.2 h]
    rfl
  rw [resolveAmong, hurl]
  dsimp only
  rw [hnone]
  cases Overrides.given? o.managementKey <;> rfl

/-- The lists among which the same path is selected give the same connection. -/
theorem resolveAmong_eq_iff (hurl : Overrides.given? o.baseUrl = none) :
    resolveAmong files o paths = resolveAmong files o paths' ↔
      selected? (configText? files) paths = selected? (configText? files) paths' := by
  constructor
  · intro h
    rw [← configPath_resolveAmong hurl, ← configPath_resolveAmong hurl, h]
  · intro h
    rw [resolveAmong, resolveAmong, hurl]
    dsimp only
    rw [ofCandidates?_eq, ofCandidates?_eq, h]

/-! ## Repetitions -/

/-- The explicit path ends in no name and is the same path as the place that would be selected. -/
def Overshadows (files : FileTree) (o : Overrides) (roots : SearchRoots) : Prop :=
  ∃ explicit path, o.configPath = some explicit ∧ explicit ≠ [] ∧
    ¬ Path.EndsInName explicit ∧
    Path.same path explicit = true ∧ IsFirstUsable files (o.places roots) path

theorem IsUsable.endsInName (h : IsUsable files p) : Path.EndsInName p := by
  obtain ⟨doc, l, content, mode, h⟩ := h
  exact h.endsInName

/-- Of two paths that are the same and end in a name, either both are usable or neither is. -/
theorem IsUsable.of_same (h : IsUsable files path) (hsame : Path.same path p = true)
    (hp : Path.EndsInName p) : IsUsable files p := by
  obtain ⟨doc, l, content, mode, hdoc⟩ := h
  exact ⟨doc, l, content, mode,
    (locate_eq_of_same hsame hdoc.endsInName hp).symm.trans hdoc.leads, hdoc.stands, hdoc.readable,
    hdoc.reads⟩

theorem places_of_configPath (roots : SearchRoots) (h : o.configPath = some p) (hne : p ≠ []) :
    ∃ rest, o.places roots = p :: rest := by
  have hfilter : o.configPath.filter (fun p => !p.isEmpty) = some p := by
    rw [h, Option.filter_some, if_pos (by simpa using hne)]
  exact ⟨_, by rw [Overrides.places, hfilter]; rfl⟩

/-- **Leaving out repetitions changes the connection** only where the explicit path overshadows a
place. -/
theorem resolveAmong_places_eq_iff (hurl : Overrides.given? o.baseUrl = none) :
    resolveIn files o roots = resolveAmong files o (o.places roots) ↔
      ¬ Overshadows files o roots := by
  rw [resolveIn_eq_resolveAmong, resolveAmong_eq_iff hurl, Overrides.candidates, selected?,
    selected?, Overrides.find?_distinct_iff, not_iff_not]
  constructor
  · rintro ⟨earlier, path, later, hsplit, hearlier, hpath, p, hp, hsame⟩
    have hunusable : ¬ IsUsable files p := by
      rw [isUsable_iff, hearlier p hp]
      decide
    have husable : IsUsable files path := isUsable_iff.2 hpath
    have hname : ¬ Path.EndsInName p := fun hname => hunusable (husable.of_same hsame hname)
    have hmem : p ∈ o.places roots := by
      rw [hsplit]
      exact List.mem_append_left _ hp
    obtain ⟨hexplicit, hne⟩ := (Overrides.endsInName_or_of_mem_places hmem).resolve_left hname
    exact ⟨p, path, hexplicit, hne, hname, hsame, earlier, later, hsplit,
      fun q hq => by rw [isUsable_iff, hearlier q hq]; decide, husable⟩
  · rintro ⟨explicit, path, hexplicit, hne, hname, hsame, earlier, later, hsplit, hearlier,
      husable⟩
    refine ⟨earlier, path, later, hsplit, fun p hp => ?_, isUsable_iff.1 husable, explicit, ?_,
      hsame⟩
    · rw [not_isUsable_iff.1 (hearlier p hp)]
      rfl
    · -- the explicit path comes first, and it is not the usable one
      obtain ⟨rest, hrest⟩ := places_of_configPath roots hexplicit hne
      cases earlier with
      | nil =>
        rw [hrest, List.nil_append] at hsplit
        exact absurd ((List.cons.inj hsplit).1 ▸ husable.endsInName) hname
      | cons q earlier =>
        rw [hrest, List.cons_append] at hsplit
        rw [(List.cons.inj hsplit).1]
        exact List.mem_cons_self

/-! ## Two file trees -/

theorem ofCandidates?_congr (h : ∀ p ∈ paths, readText' p = readText p) :
    ofCandidates? readText' paths = ofCandidates? readText paths := by
  induction paths with
  | nil => rfl
  | cons p paths ih =>
    rw [ofCandidates?, ofCandidates?, List.findSome?_cons, List.findSome?_cons,
      h p List.mem_cons_self, ← ofCandidates?, ← ofCandidates?,
      ih fun q hq => h q (List.mem_cons_of_mem p hq)]

/-- Behind a usable path nothing matters. -/
theorem ofCandidates?_append_of_isUsable (husable : IsUsable files path) (hpath : path ∈ paths)
    (paths' : List Path) :
    ofCandidates? (configText? files) (paths ++ paths') =
      ofCandidates? (configText? files) paths := by
  rw [ofCandidates?, List.findSome?_append, ← ofCandidates?]
  cases hfound : ofCandidates? (configText? files) paths with
  | some c => rfl
  | none =>
    have hno := List.findSome?_eq_none_iff.1 hfound path hpath
    rw [Option.map_eq_none_iff] at hno
    exact absurd husable (not_isUsable_iff.2 hno)

/-- File trees that show the same at some paths, one of them usable, give the same connection. -/
theorem resolveAmong_append_congr (husable : IsUsable files path) (hpath : path ∈ paths)
    (h : ∀ p ∈ paths, configText? files' p = configText? files p) (paths' : List Path) :
    resolveAmong files' o (paths ++ paths') = resolveAmong files o (paths ++ paths') := by
  have husable' : IsUsable files' path := by
    rw [isUsable_iff, h path hpath]
    exact isUsable_iff.1 husable
  rw [resolveAmong, resolveAmong, ofCandidates?_append_of_isUsable husable hpath,
    ofCandidates?_append_of_isUsable husable' hpath, ofCandidates?_congr h]

/-! ## Precedence -/

/-- **Where the connection comes from.**  An address that is given decides alone.  A management key
that is given takes the place of the secret and changes nothing else.  Without an address, the
configuration file is the first usable candidate, and also the first usable place unless the
explicit path overshadows one; only there do the repetitions among the places matter.  File trees
that show the same up to this file give the same connection, and without such a file the proxy is
taken to listen on its usual port. -/
theorem resolveIn_precedence (files : FileTree) (o : Overrides) (roots : SearchRoots) :
    (∀ url, Overrides.given? o.baseUrl = some url →
      (resolveIn files o roots).configPath = none ∧
      ∀ files', resolveIn files' o roots = resolveIn files o roots) ∧
    (∀ key, Overrides.given? o.managementKey = some key →
      resolveIn files o roots =
        { resolveIn files { o with managementKey := none } roots with managementKey := key }) ∧
    (Overrides.given? o.baseUrl = none →
      (∀ path, (resolveIn files o roots).configPath = some path ↔
        IsFirstUsable files (o.candidates roots) path) ∧
      (¬ Overshadows files o roots →
        ∀ path, (resolveIn files o roots).configPath = some path ↔
          IsFirstUsable files (o.places roots) path) ∧
      (resolveIn files o roots = resolveAmong files o (o.places roots) ↔
        ¬ Overshadows files o roots) ∧
      (∀ files' earlier path later, o.candidates roots = earlier ++ path :: later →
        (resolveIn files o roots).configPath = some path →
        (∀ p ∈ earlier ++ [path], configText? files' p = configText? files p) →
        resolveIn files' o roots = resolveIn files o roots) ∧
      ((∀ p ∈ o.candidates roots, ¬ IsUsable files p) →
        resolveIn files o roots =
          ⟨localUrl 8317, (Overrides.given? o.managementKey).getD [], 8317, none⟩)) := by
  refine ⟨fun url hurl => ?_,
    fun key hkey => resolveAmong_of_given_key files _ hkey, fun hurl => ?_⟩
  · have hall : ∀ files, resolveIn files o roots =
        (ofUrl url).withKey (Overrides.given? o.managementKey) :=
      fun files => resolveAmong_of_given files (o.candidates roots) hurl
    refine ⟨?_, fun files' => (hall files').trans (hall files).symm⟩
    rw [hall, configPath_withKey]
    rfl
  · have hfirst : ∀ path, (resolveIn files o roots).configPath = some path ↔
        IsFirstUsable files (o.candidates roots) path :=
          fun path => configPath_resolveAmong_iff hurl
    refine ⟨hfirst, ?_, resolveAmong_places_eq_iff hurl, ?_, resolveAmong_of_not_isUsable hurl⟩
    · intro hclear path
      rw [(resolveAmong_places_eq_iff hurl).2 hclear, configPath_resolveAmong_iff hurl]
    · intro files' earlier path later hsplit hpath hagree
      obtain ⟨-, -, -, -, husable⟩ := (hfirst path).1 hpath
      have hcandidates : o.candidates roots = (earlier ++ [path]) ++ later := by simp [hsplit]
      rw [resolveIn_eq_resolveAmong, resolveIn_eq_resolveAmong, hcandidates]
      exact resolveAmong_append_congr husable (by simp) hagree later

/-- An explicit path, with the usual places behind it. -/
theorem resolveIn_precedence_lone :
    let o : Overrides := ⟨none, some " k ".toList, some lonePath⟩
    let roots : SearchRoots := ⟨some "/".toList, some "/home".toList⟩
    ¬ Overshadows (lone "port: 80\n".toList) o roots ∧
    (resolveIn (lone "port: 80\n".toList) o roots).configPath = some lonePath ∧
    (resolveIn (lone "port: 80\n".toList) o roots).managementKey = "k".toList := by
  intro o roots
  obtain ⟨-, hkey, hrest⟩ := resolveIn_precedence (lone "port: 80\n".toList) o roots
  obtain ⟨-, hplaces, -⟩ := hrest rfl
  have hclear : ¬ Overshadows (lone "port: 80\n".toList) o roots := by
    rintro ⟨explicit, path, hexplicit, -, hname, -⟩
    obtain rfl : lonePath = explicit := Option.some.inj hexplicit
    exact hname (by decide)
  have husable : IsUsable (lone "port: 80\n".toList) lonePath := ⟨_, _, _, _, holdsText_lone _⟩
  obtain ⟨rest, hrest⟩ := places_of_configPath (o := o) (p := lonePath) roots rfl (by decide)
  refine ⟨hclear, (hplaces hclear lonePath).2 ⟨[], rest, hrest, by simp, husable⟩, ?_⟩
  rw [hkey "k".toList rfl]

/-- A directory with a configuration file of the given permissions. -/
def filesWith (mode : Nat) : FileTree :=
  ⟨[(["w".toList], .directory),
    (["w".toList, "config.yaml".toList], .file (encode "port: 80\n".toList) mode)], []⟩

theorem isUsable_filesWith_iff (mode : Nat) :
    IsUsable (filesWith mode) "/w/config.yaml".toList ↔ mode &&& 0o400 ≠ 0 := by
  constructor
  · rintro ⟨doc, l, content, mode', h⟩
    obtain rfl : ["w".toList, "config.yaml".toList] = l := Except.ok.inj h.leads
    obtain ⟨-, rfl⟩ := FileNode.file.inj (Option.some.inj h.stands)
    exact h.readable
  · intro h
    exact ⟨_, _, _, mode, rfl, rfl, h, decode?_encode _⟩

theorem not_isUsable_sibling (mode : Nat) :
    ¬ IsUsable (filesWith mode) "/w/../CLIProxyAPI/config.yaml".toList := by
  rintro ⟨doc, l, content, mode', h⟩
  have hfault : (filesWith mode).locate "/w/../CLIProxyAPI/config.yaml".toList = .error .notFound :=
    rfl
  exact absurd (hfault.symm.trans h.leads) (by simp)

/-- A separator at the end of the explicit path hides the file that the path seems to name; and a
file that may not be read is passed over. -/
theorem selection_misses_file :
    let o : Overrides := ⟨none, none, some "/w/config.yaml/".toList⟩
    let roots : SearchRoots := ⟨some "/w".toList, none⟩
    (IsFirstUsable (filesWith 0o644) (o.places roots) "/w/config.yaml".toList ∧
      (resolveIn (filesWith 0o644) o roots).configPath = none ∧
      (resolveAmong (filesWith 0o644) o (o.places roots)).configPath =
        some "/w/config.yaml".toList) ∧
    ((filesWith 0).lookup "/w/config.yaml".toList = .ok (.file (encode "port: 80\n".toList) 0) ∧
      (resolveIn (filesWith 0) ⟨none, none, none⟩ roots).configPath = none) := by
  intro o roots
  have hplaces : o.places roots =
      ["/w/config.yaml/".toList] ++ "/w/config.yaml".toList ::
        ["/w/../CLIProxyAPI/config.yaml".toList] := by
    decide
  have hcandidates : o.candidates roots =
      ["/w/config.yaml/", "/w/../CLIProxyAPI/config.yaml"].map String.toList := by
    decide
  have hslash : ¬ IsUsable (filesWith 0o644) "/w/config.yaml/".toList := fun h =>
    absurd h.endsInName (by decide)
  have hfirst : IsFirstUsable (filesWith 0o644) (o.places roots) "/w/config.yaml".toList :=
    ⟨_, _, hplaces, fun p
      hp => by rwa [List.mem_singleton.1 hp], (isUsable_filesWith_iff 0o644).2 (by decide)⟩
  refine ⟨⟨hfirst, ?_, ?_⟩, rfl, ?_⟩
  · rw [resolveIn_eq_resolveAmong, configPath_resolveAmong rfl, hcandidates, selected?_eq_none_iff]
    simpa using ⟨hslash, not_isUsable_sibling 0o644⟩
  · exact (configPath_resolveAmong_iff rfl).2 hfirst
  · have hplain : Overrides.candidates ⟨none, none, none⟩ roots =
        ["/w/config.yaml", "/w/../CLIProxyAPI/config.yaml"].map String.toList := by
      decide
    rw [resolveIn_eq_resolveAmong, configPath_resolveAmong rfl, hplain, selected?_eq_none_iff]
    have hclosed : ¬ IsUsable (filesWith 0) "/w/config.yaml".toList := by
      rw [isUsable_filesWith_iff]
      decide
    simpa using ⟨hclosed, not_isUsable_sibling 0⟩

end Connection
end ProxySteward
