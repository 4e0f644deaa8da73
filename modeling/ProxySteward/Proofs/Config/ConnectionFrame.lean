import ProxySteward.Config.Connection
import ProxySteward.Proofs.Config.DocumentFrame
import ProxySteward.Proofs.Key.StoreLaws

/-!
# Edits of the key list and the connection

The connection comes from the first candidate path whose text can be read (`Selects`).  Writing a
file changes which path that is only if an unreadable candidate leads to the file, and an edit of
the key list writes a file that could be read.  So the configuration file stays the same one through
an edit, and with it whatever its text says of the connection: always the path, the port and the
address, and the management key unless the key section held it (`resolveIn_edit_eq_iff`).
-/

namespace ProxySteward
namespace Connection

open Text FileTree KeySection

variable {files files' : FileTree} {o : Overrides} {roots : SearchRoots} {path : Path} {doc : Text}
  {s : KeyStore} {e : KeyEdit} {answer : KeyAnswer} {l : Location} {content : Bytes} {mode : Nat}

theorem configText?_eq_some_iff {p : Path} :
    configText? files p = some doc ↔ files.readText p = .ok doc := by
  rw [configText?]
  cases files.readText p <;> simp [Except.toOption]

/-- A file that is put where no directory stands changes no other text. -/
theorem configText?_put_of_ne (hl : files.node? l ≠ some .directory) {p : Path}
    (hp : files.locate p ≠ .ok l) :
    configText? (files.put l (.file content mode)) p = configText? files p := by
  ext text
  rw [configText?_eq_some_iff, configText?_eq_some_iff, readText_put_of_ne hl hp]

/-! ## The selected file -/

/-- The configuration file: no address is given, and the path is the first candidate with a readable
text. -/
structure Selects (files : FileTree) (o : Overrides) (roots : SearchRoots) (path : Path)
    (doc : Text) : Prop where
  no_url : Overrides.given? o.baseUrl = none
  first : ∃ earlier later, o.candidates roots = earlier ++ path :: later ∧
    ∀ p ∈ earlier, configText? files p = none
  text : configText? files path = some doc

/-- What the selected file says is the connection. -/
theorem Selects.resolveIn (h : Selects files o roots path doc) :
    resolveIn files o roots = (ofDocument path doc).withKey (Overrides.given? o.managementKey) := by
  obtain ⟨earlier, later, hsplit, hnone⟩ := h.first
  have hfirst : ofCandidates? (configText? files) (o.candidates roots) =
      some (ofDocument path doc) := by
    rw [ofCandidates?, hsplit, List.findSome?_append, List.findSome?_eq_none_iff.2, Option.none_or,
      List.findSome?_cons, h.text]
    · rfl
    · intro p hp
      rw [hnone p hp]
      rfl
  rw [Connection.resolveIn, resolve, h.no_url, hfirst]
  rfl

theorem configPath_withKey (c : Connection) (key : Option Text) :
    (c.withKey key).configPath = c.configPath := by
  cases key <;> rfl

theorem Selects.configPath_resolveIn (h : Selects files o roots path doc) :
    (Connection.resolveIn files o roots).configPath = some path := by
  rw [h.resolveIn, configPath_withKey]
  rfl

/-- A connection with a configuration file came from the selected file. -/
theorem exists_selects (h : (Connection.resolveIn files o roots).configPath = some path) :
    ∃ doc, Selects files o roots path doc := by
  unfold Connection.resolveIn resolve at h
  split at h
  · rw [configPath_withKey] at h
    exact absurd h (by simp [ofUrl])
  · next hurl =>
    rw [configPath_withKey] at h
    cases hfound : ofCandidates? (configText? files) (o.candidates roots) with
    | none =>
      rw [hfound] at h
      exact absurd h (by simp [fallback])
    | some c =>
      obtain ⟨earlier, p, later, hsplit, hp, hnone⟩ := List.findSome?_eq_some_iff.1 hfound
      obtain ⟨doc, hdoc, rfl⟩ := Option.map_eq_some_iff.1 hp
      rw [hfound] at h
      have hpath : p = path := Option.some.inj h
      subst hpath
      exact ⟨doc, hurl, ⟨earlier, later, hsplit, fun q hq => by simpa using hnone q hq⟩,
        hdoc⟩

theorem Selects.exists_holdsText (h : Selects files o roots path doc) :
    ∃ l content mode, HoldsText files path doc l content mode :=
  readText_eq_ok_iff.1 (configText?_eq_some_iff.1 h.text)

/-- Another text in the selected file leaves it the selected one. -/
theorem Selects.put_self (h : Selects files o roots path doc)
    (hdoc : HoldsText files path doc l content mode) (new : Text) :
    Selects (files.put l (.file (encode new) mode)) o roots path new where
  no_url := h.no_url
  first := by
    obtain ⟨earlier, later, hsplit, hnone⟩ := h.first
    refine ⟨earlier, later, hsplit, fun p hp => ?_⟩
    rw [configText?_put_of_ne hdoc.not_directory, hnone p hp]
    -- a candidate that leads to the same file would have been readable before
    intro hleads
    have hread := HoldsText.readText ⟨hleads, hdoc.stands, hdoc.readable, hdoc.reads⟩
    have hsome := (hnone p hp).symm.trans (configText?_eq_some_iff.2 hread)
    exact absurd hsome (by simp)
  text := configText?_eq_some_iff.2 (hdoc.put_self new).readText

/-- A file at a location that no candidate leads to changes nothing. -/
theorem Selects.put_of_ne (h : Selects files o roots path doc)
    (hl : files.node? l ≠ some .directory)
    (hne : ∀ p ∈ o.candidates roots, files.locate p ≠ .ok l) :
    Selects (files.put l (.file content mode)) o roots path doc where
  no_url := h.no_url
  first := by
    obtain ⟨earlier, later, hsplit, hnone⟩ := h.first
    refine ⟨earlier, later, hsplit, fun p hp => ?_⟩
    rw [configText?_put_of_ne hl (hne p (hsplit ▸ List.mem_append_left _ hp)), hnone p hp]
  text := by
    obtain ⟨earlier, later, hsplit, -⟩ := h.first
    have hmem : path ∈ o.candidates roots := by
      rw [hsplit]
      exact List.mem_append_right _ List.mem_cons_self
    rw [configText?_put_of_ne hl (hne path hmem), h.text]

/-- A call of the store on the selected file leaves it the selected one, with the edited text. -/
theorem Selects.call (h : Selects files o roots path doc)
    (hs : files.locate s.path = files.locate path) (e : KeyEdit) :
    Selects (s.call e files).2 o roots path (KeyStore.textAfter e doc) := by
  obtain ⟨l, content, mode, hdoc⟩ := h.exists_holdsText
  have hstore : HoldsText files s.path doc l content mode :=
    ⟨hs.trans hdoc.leads, hdoc.stands, hdoc.readable, hdoc.reads⟩
  rcases KeyStore.call_files hstore (e := e) with ⟨answer, -, -, hfiles⟩ | ⟨hfiles, htext⟩
  · rw [hfiles]
    exact h.put_self hdoc _
  · rw [hfiles, htext]
    exact h

/-! ## The connection after an edit -/

/-- An edit of the key list says nothing of the port. -/
theorem port?_textAfter (e : KeyEdit) (doc : Text) :
    ConfigDocument.port? (KeyStore.textAfter e doc) = ConfigDocument.port? doc := by
  rw [KeyStore.textAfter]
  cases hedit : KeyStore.editDocument e doc with
  | error f => rfl
  | ok result =>
    obtain ⟨answer, doc'⟩ := result
    obtain ⟨rs, hrs, rfl⟩ := editDocument_eq_ok_iff.1 hedit
    dsimp only
    split
    · exact ConfigDocument.port?_replace
        (KeyEdit.isStable_onOneRow.onRecords hrs onOneRow_of_mem_records)
    · rfl

/-- The port of the connection is the one in the selected file. -/
theorem Selects.port_resolveIn (h : Selects files o roots path doc) :
    (Connection.resolveIn files o roots).port = (ConfigDocument.port? doc).getD usualPort := by
  rw [h.resolveIn]
  cases Overrides.given? o.managementKey <;> rfl

theorem ofDocument_withKey_eq_iff {doc' : Text} {key : Option Text}
    (hport : ConfigDocument.port? doc' = ConfigDocument.port? doc) :
    (ofDocument path doc').withKey key = (ofDocument path doc).withKey key ↔
      key.isSome = true ∨
        (ConfigDocument.secret? doc').getD [] = (ConfigDocument.secret? doc).getD [] := by
  cases key with
  | some key => simp [withKey, ofDocument, hport]
  | none => simp [withKey, ofDocument, hport]

/-- **An edit of the key list and the connection.**  After an edit of the configuration file,
through whatever path, the connection has the same configuration file, port and address.  It is the
same connection unless the list changed, no management key is given, and the key section held the
secret. -/
theorem resolveIn_edit_eq_iff (hpath : (Connection.resolveIn files o roots).configPath = some path)
    (hs : files.locate s.path = files.locate path) (hedit : s.edit e files = .ok (answer, files')) :
    (Connection.resolveIn files' o roots).configPath = some path ∧
    (Connection.resolveIn files' o roots).port = (Connection.resolveIn files o roots).port ∧
    (Connection.resolveIn files' o roots).baseUrl = (Connection.resolveIn files o roots).baseUrl ∧
    (Connection.resolveIn files' o roots = Connection.resolveIn files o roots ↔
      ¬ (answer.isChange = true ∧ Overrides.given? o.managementKey = none ∧
        ∃ doc, configText? files path = some doc ∧ ConfigDocument.SectionHoldsSecret doc)) := by
  obtain ⟨doc, h⟩ := exists_selects hpath
  have hholds :
      (∃ doc, configText? files path = some doc ∧ ConfigDocument.SectionHoldsSecret doc) ↔
        ConfigDocument.SectionHoldsSecret doc := by
    rw [h.text]
    simp
  have hcall : s.call e files = (.ok answer, files') := by rw [KeyStore.call, hedit]
  have h' := h.call hs e
  rw [hcall] at h'
  -- the text afterwards is the old one, or the old one with another section
  obtain ⟨l, content, mode, hdoc⟩ := h.exists_holdsText
  have hanswer := KeyStore.call_answer (e := e) (s := s)
    ⟨hs.trans hdoc.leads, hdoc.stands, hdoc.readable, hdoc.reads⟩
  rw [hcall] at hanswer
  cases hresult : KeyStore.editDocument e doc with
  | error f =>
    rw [hresult] at hanswer
    exact absurd hanswer (by simp [Except.map])
  | ok result =>
    obtain ⟨answer', doc'⟩ := result
    rw [hresult] at hanswer
    obtain rfl : answer = answer' := Except.ok.inj hanswer
    obtain ⟨rs, hrs, hdoc'⟩ := editDocument_eq_ok_iff.1 hresult
    have hrow := KeyEdit.isStable_onOneRow.onRecords hrs onOneRow_of_mem_records
    rw [KeyStore.textAfter, hresult] at h'
    dsimp only at h'
    have hport : ConfigDocument.port? doc' = ConfigDocument.port? doc := by
      rw [hdoc']
      split
      · exact ConfigDocument.port?_replace hrow
      · rfl
    have hsecret : (ConfigDocument.secret? doc').getD [] = (ConfigDocument.secret? doc).getD [] ↔
        ¬ (answer.isChange = true ∧ ConfigDocument.SectionHoldsSecret doc) := by
      rw [hdoc']
      split
      · next hchange => simpa [hchange] using ConfigDocument.secret?_replace_iff hrow
      · next hno => simp [hno]
    rw [h.resolveIn, h'.resolveIn, ofDocument_withKey_eq_iff hport, hsecret, hholds]
    cases Overrides.given? o.managementKey with
    | some key => simp [withKey, ofDocument, hport]
    | none => simp [withKey, ofDocument, hport]

/-! ## Two files -/

theorem selects_lone (doc : Text) :
    Selects (lone doc) ⟨none, none, some lonePath⟩ ⟨none, none⟩ lonePath doc where
  no_url := rfl
  first := ⟨[], [], rfl, fun _ hp => absurd hp List.not_mem_nil⟩
  text := configText?_eq_some_iff.2 (holdsText_lone doc).readText

/-- An edit next to the management section. -/
theorem resolveIn_edit_eq_lone :
    let doc := "remote-management:\n  secret-key: \"s\"\napi-keys:\n".toList
    let o : Overrides := ⟨none, none, some lonePath⟩
    ∃ files', (⟨lonePath⟩ : KeyStore).edit (.add "k".toList) (lone doc) =
        .ok (.added "k".toList, files') ∧
      Connection.resolveIn files' o ⟨none, none⟩ =
      Connection.resolveIn (lone doc) o ⟨none, none⟩ := by
  intro doc o
  have hedit := KeyStore.edit_eq (s := ⟨lonePath⟩) (e := .add "k".toList)
    (holdsText_lone doc)
  have htext : KeyStore.editDocument (.add "k".toList) doc =
      .ok (.added "k".toList, doc ++ "  - \"k\"\n".toList) := by decide
  rw [htext] at hedit
  have hpath : (Connection.resolveIn (lone doc) o ⟨none, none⟩).configPath =
      some lonePath := by
    rw [(selects_lone doc).resolveIn]
    rfl
  have hno : ¬ ConfigDocument.SectionHoldsSecret doc :=
    ConfigDocument.not_sectionHoldsSecret (by decide)
  refine ⟨_, hedit, (resolveIn_edit_eq_iff hpath rfl hedit).2.2.2.2 ?_⟩
  rintro ⟨-, -, text, hsome, hholds⟩
  rw [(selects_lone doc).text, Option.some.injEq] at hsome
  exact hno (hsome ▸ hholds)

/-- An edit inside of the management section takes the secret out. -/
theorem resolveIn_edit_ne :
    let doc := "remote-management:\n  api-keys:\n  secret-key: \"s\"\n".toList
    let o : Overrides := ⟨none, none, some lonePath⟩
    ∃ files', (⟨lonePath⟩ : KeyStore).edit (.add "k".toList) (lone doc) =
        .ok (.added "k".toList, files') ∧
      (Connection.resolveIn (lone doc) o ⟨none, none⟩).managementKey = "s".toList ∧
      (Connection.resolveIn files' o ⟨none, none⟩).managementKey = [] := by
  intro doc o
  have hedit := KeyStore.edit_eq (s := ⟨lonePath⟩) (e := .add "k".toList)
    (holdsText_lone doc)
  have htext : KeyStore.editDocument (.add "k".toList) doc =
      .ok (.added "k".toList, "remote-management:\napi-keys:\n  - \"k\"\n".toList) := by decide
  rw [htext] at hedit
  have hafter := (selects_lone doc).put_self (holdsText_lone doc)
    "remote-management:\napi-keys:\n  - \"k\"\n".toList
  refine ⟨_, hedit, ?_, ?_⟩
  · rw [(selects_lone doc).resolveIn]
    decide
  · show (Connection.resolveIn ((lone doc).put _ _) o ⟨none, none⟩).managementKey = []
    rw [hafter.resolveIn]
    decide

end Connection
end ProxySteward
