import ProxySteward.Proofs.Key.StoreLaws

/-!
# Whether a switch takes effect

Enabling or disabling a key should leave every record of that key in the wanted state, and the key
in the list.  `TakesEffect` says this of one call, by what is loaded from the file before and after
it, and `takesEffect_iff` says for which lists of records it is so.

A call can miss its effect in three ways.

* Only the first record of the key is switched.  A second one keeps its state, and it is the only
  one to be looked at if the first one has the wanted state already.
* The row that is written may read as another key: one with a double quote in it is cut off there,
  and blanks at its ends are lost.  Then the list does not hold the key any more.  In the same way
  the row of another record may turn into one of this key.
* The note may hold the marker by which a row says that it is disabled.  Taking the markers out of a
  comment is done once when a row is read, so a note such as `disdisabledabled` is loaded as a
  marker, and the row that is written for the enabled record reads as disabled.

If all records are writable, the first way is the only one (`canSwitch_iff_of_isWritable`), and if
in addition no key is listed twice then every call takes effect.  The converse holds as well
(`forall_canSwitch_iff`).
-/

namespace ProxySteward

open Text KeyRecord

variable {key : Text} {on : Bool} {rs : List KeyRecord} {r : KeyRecord}

/-! ## Switching the first record -/

namespace KeyEdit

/-- The records after a revision: the revised one, and all except for the one it was. -/
theorem mem_updateFirst_iff {f : KeyRecord → KeyRecord} (h : rs.find? (·.key = key) = some r)
    {r' : KeyRecord} :
    r' ∈ updateFirst key f rs ↔ r' = f r ∨ r' ∈ rs.eraseP (·.key = key) := by
  induction rs with
  | nil => exact absurd h (by simp)
  | cons r₀ rs ih =>
    rw [updateFirst]
    by_cases hkey : r₀.key = key
    · obtain rfl : r₀ = r := by simpa [hkey] using h
      simp [hkey]
    · rw [List.find?_cons_of_neg (by simpa using hkey)] at h
      rw [if_neg hkey, List.eraseP_cons_of_neg (by simpa using hkey), List.mem_cons, List.mem_cons,
        ih h]
      exact or_left_comm

theorem onRecords_setEnabled_of_eq (h : ∀ r ∈ rs.find? (·.key = key), r.enabled = on) :
    (setEnabled key on).onRecords rs = .ok (.changed false, rs) := by
  have hsame : ∀ r ∈ rs.find? (·.key = key), ({ r with enabled := on } : KeyRecord) = r := by
    intro r hr
    rw [← h r hr]
  rw [onRecords_setEnabled, amend_eq, updateFirst_eq_self hsame]
  cases hfind : rs.find? (·.key = key) with
  | none => rfl
  | some r => simp [hsame r hfind]

theorem onRecords_setEnabled_of_ne (h : rs.find? (·.key = key) = some r) (hne : r.enabled ≠ on) :
    (setEnabled key on).onRecords rs =
      .ok (.changed true, updateFirst key (fun r => { r with enabled := on }) rs) := by
  have hdiff : ({ r with enabled := on } : KeyRecord) ≠ r := by
    intro heq
    exact hne (congrArg KeyRecord.enabled heq).symm
  rw [onRecords_setEnabled, amend_eq, h]
  simp [hdiff]

end KeyEdit

/-! ## Lists for which a switch takes effect -/

namespace KeySection

variable {doc : Text}

/-- If all records except for the first one of a key are written and read back, those that come out
with that key have some state. -/
def RestReadsAs (rs : List KeyRecord) (key : Text) (on : Bool) : Prop :=
  ∀ r ∈ rs.eraseP (·.key = key),
    ∀ r' ∈ KeyRow.read? (KeyRow.write r), r'.key = key → r'.enabled = on

/-- What a switch needs of the list.  Either the first record of the key has the wanted state
already, and all others of that key have it too; or its row carries the key and the new state, and
the rows of the others do no harm. -/
def CanSwitch (rs : List KeyRecord) (key : Text) (on : Bool) : Prop :=
  ∀ r ∈ rs.find? (·.key = key),
    if r.enabled = on then ∀ r' ∈ rs, r'.key = key → r'.enabled = on
    else '"' ∉ key ∧ trim key = key ∧ (on = true → isMarked r.note = false) ∧
      RestReadsAs rs key on

theorem mem_and_key_of_find? (h : rs.find? (·.key = key) = some r) : r ∈ rs ∧ r.key = key :=
  ⟨List.mem_of_find?_eq_some h, by simpa using List.find?_some h⟩

theorem exists_find?_of_mem (h : r ∈ rs) (hkey : r.key = key) :
    ∃ r', rs.find? (·.key = key) = some r' :=
  Option.isSome_iff_exists.1 (List.find?_isSome.2 ⟨r, h, by simpa using hkey⟩)

theorem mem_iff_of_find? (h : rs.find? (·.key = key) = some r) {r' : KeyRecord} :
    r' ∈ rs ↔ r' = r ∨ r' ∈ rs.eraseP (·.key = key) := by
  have hsame : r' ∈ KeyEdit.updateFirst key (fun r => r) rs ↔ _ := KeyEdit.mem_updateFirst_iff h
  rwa [KeyEdit.updateFirst_eq_self fun _ _ => rfl] at hsame

/-- **Writable records** can be switched if all but the first one of the key have the wanted
state. -/
theorem canSwitch_iff_of_isWritable (hw : ∀ r ∈ rs, KeyRow.IsWritable r) :
    CanSwitch rs key on ↔ ∀ r ∈ rs.eraseP (·.key = key), r.key = key → r.enabled = on := by
  unfold CanSwitch
  cases hfind : rs.find? (·.key = key) with
  | none =>
    have hnone : ∀ r ∈ rs, r.key ≠ key := by simpa using hfind
    simp only [Option.mem_def, reduceCtorEq, false_implies, implies_true, true_iff]
    exact fun r hr hkey => absurd hkey (hnone r (List.mem_of_mem_eraseP hr))
  | some r =>
    obtain ⟨hmem, rfl⟩ := mem_and_key_of_find? hfind
    have hr := hw r hmem
    simp only [Option.mem_some, forall_eq']
    split
    · next hon =>
      refine ⟨fun h r' hr' => h r' (List.mem_of_mem_eraseP hr'), fun h r' hr' hk => ?_⟩
      rcases (mem_iff_of_find? hfind).1 hr' with rfl | hr'
      · exact hon
      · exact h r' hr' hk
    · have hread : ∀ r' ∈ rs.eraseP (·.key = r.key),
          KeyRow.read? (KeyRow.write r') = some r' :=
        fun r' hr' => KeyRow.read?_write_eq_some_iff.2 (hw r' (List.mem_of_mem_eraseP hr'))
      constructor
      · rintro ⟨-, -, -, h⟩ r' hr'
        exact h r' hr' r' (hread r' hr')
      · intro h
        refine ⟨hr.quote_not_mem_key, hr.tight_key.trimBoth_eq, fun _ => hr.plain_note.1, ?_⟩
        intro r' hr' r'' hr''
        rw [hread r' hr', Option.mem_some] at hr''
        rw [← hr'']
        exact h r' hr'

/-- **A switched list written and read back** has the key, and its records in the wanted state,
exactly under the condition of `CanSwitch`. -/
theorem reread_updateFirst_iff (on : Bool) (h : rs.find? (·.key = key) = some r) (hne : key ≠ [])
    (hnote : Tight isBlank r.note) :
    let after := (KeyEdit.updateFirst key (fun r => { r with enabled := on }) rs).filterMap fun r =>
      KeyRow.read? (KeyRow.write r)
    ((∀ r' ∈ after, r'.key = key → r'.enabled = on) ∧ key ∈ after.map KeyRecord.key) ↔
      '"' ∉ key ∧ trim key = key ∧ (on = true → isMarked r.note = false) ∧
        RestReadsAs rs key on := by
  intro after
  obtain ⟨-, rfl⟩ := mem_and_key_of_find? h
  have hafter : ∀ r'', r'' ∈ after ↔
      KeyRow.read? (KeyRow.write { r with enabled := on }) = some r'' ∨
        ∃ r' ∈ rs.eraseP (·.key = r.key), KeyRow.read? (KeyRow.write r') = some r'' := by
    intro r''
    simp only [after, List.mem_filterMap, KeyEdit.mem_updateFirst_iff h, or_and_right, exists_or,
      exists_eq_left]
  have hread : '"' ∉ r.key → trim r.key = r.key →
      KeyRow.read? (KeyRow.write { r with enabled := on }) =
        some ⟨r.key, plainNote r.note, on && !isMarked r.note⟩ :=
    fun hquote htrim => KeyRow.read?_write_of_trim (r := { r with enabled := on }) hne hquote htrim
      hnote
  constructor
  · rintro ⟨hstate, hkey⟩
    -- the key that came back came from a written row
    obtain ⟨r'', hr'', hkey⟩ := List.mem_map.1 hkey
    obtain ⟨r', -, hback⟩ := List.mem_filterMap.1 hr''
    have hquote := KeyRow.quote_not_mem_of_read?_write hback
    have htrim := KeyRow.trim_key_of_read?_write hback
    rw [hkey] at hquote htrim
    have hon : (on && !isMarked r.note) = on :=
      hstate _ ((hafter _).2 (Or.inl (hread hquote htrim))) rfl
    refine ⟨hquote, htrim, fun htrue => ?_, fun r' hr' r'' hr'' => ?_⟩
    · rw [htrue] at hon
      simpa using hon
    · exact hstate r'' ((hafter r'').2 (Or.inr ⟨r', hr', hr''⟩))
  · rintro ⟨hquote, htrim, hmark, hrest⟩
    refine ⟨fun r'' hr'' hkey => ?_,
      List.mem_map.2 ⟨_, (hafter _).2 (Or.inl (hread hquote htrim)), rfl⟩⟩
    rcases (hafter r'').1 hr'' with hfirst | ⟨r', hr', hback⟩
    · rw [hread hquote htrim, Option.some.injEq] at hfirst
      rw [← hfirst]
      cases on with
      | false => rfl
      | true => simp [hmark rfl]
    · exact hrest r' hr' r'' hback hkey

/-- In a list with distinct keys, a key has no second record. -/
theorem nodup_keys_iff :
    (rs.map KeyRecord.key).Nodup ↔
      ∀ key, ∀ r ∈ rs.eraseP (·.key = key), r.key ≠ key := by
  induction rs with
  | nil => simp
  | cons r₀ rs ih =>
    rw [List.map_cons, List.nodup_cons, ih]
    constructor
    · rintro ⟨hfresh, hrest⟩ key r hr hkey
      by_cases hfirst : r₀.key = key
      · rw [List.eraseP_cons_of_pos (by simpa using hfirst)] at hr
        exact hfresh (List.mem_map.2 ⟨r, hr, hkey.trans hfirst.symm⟩)
      · rw [List.eraseP_cons_of_neg (by simpa using hfirst), List.mem_cons] at hr
        rcases hr with rfl | hr
        · exact hfirst hkey
        · exact hrest key r hr hkey
    · intro h
      refine ⟨fun hmem => ?_, fun key r hr hkey => ?_⟩
      · obtain ⟨r, hr, hkey⟩ := List.mem_map.1 hmem
        refine h r₀.key r ?_ hkey
        rwa [List.eraseP_cons_of_pos (by simp)]
      · by_cases hfirst : r₀.key = key
        · refine h key r ?_ hkey
          rw [List.eraseP_cons_of_pos (by simpa using hfirst)]
          exact List.mem_of_mem_eraseP hr
        · refine h key r ?_ hkey
          rw [List.eraseP_cons_of_neg (by simpa using hfirst)]
          exact List.mem_cons_of_mem r₀ hr

/-- A loaded record whose key can be written is read back with its key and state. -/
theorem exists_read?_write_of_mem_records (h : r ∈ records doc) (hquote : '"' ∉ r.key)
    (htrim : trim r.key = r.key) :
    ∃ r' ∈ KeyRow.read? (KeyRow.write r), r'.key = r.key ∧ r'.enabled = r.enabled := by
  refine ⟨_, KeyRow.read?_write_of_trim (key_ne_nil_of_mem_records h) hquote htrim
    (tight_note_of_mem_records r h), rfl, ?_⟩
  cases hon : r.enabled with
  | false => rfl
  | true => rw [isMarked_note_of_mem_records h hon]; rfl

/-- What switching the first record of a key back and forth says of it. -/
theorem of_forall_canSwitch (h : ∀ on, CanSwitch rs key on)
    (hr : rs.find? (·.key = key) = some r) :
    (∀ r' ∈ rs, r'.key = key → r'.enabled = r.enabled) ∧ '"' ∉ key ∧ trim key = key ∧
      (r.enabled = false → isMarked r.note = false) ∧ RestReadsAs rs key (!r.enabled) := by
  have hsame := h r.enabled r hr
  rw [if_pos rfl] at hsame
  have hother := h (!r.enabled) r hr
  rw [if_neg (by simp)] at hother
  obtain ⟨hquote, htrim, hnote, hrest⟩ := hother
  exact ⟨hsame, hquote, htrim, fun hoff => hnote (by rw [hoff]; rfl), hrest⟩

/-- A key that can be switched both ways has no second record: it would be read back in the state of
the first. -/
theorem key_ne_of_forall_canSwitch (h : ∀ on, CanSwitch (records doc) key on) :
    ∀ r ∈ (records doc).eraseP (·.key = key), r.key ≠ key := by
  rintro r' hr' rfl
  have hmem := List.mem_of_mem_eraseP hr'
  obtain ⟨r, hr⟩ := exists_find?_of_mem hmem rfl
  obtain ⟨hsame, hquote, htrim, -, hrest⟩ := of_forall_canSwitch h hr
  obtain ⟨r'', hread, hkey, hon⟩ := exists_read?_write_of_mem_records hmem hquote htrim
  have hflip := hrest r' hr' r'' hread hkey
  rw [hon, hsame r' hmem rfl] at hflip
  exact absurd hflip (by simp)

/-- **When every switch takes effect**: if no key is listed twice and all records are writable. -/
theorem forall_canSwitch_iff (doc : Text) :
    (∀ key on, CanSwitch (records doc) key on) ↔
      ((records doc).map KeyRecord.key).Nodup ∧
        ∀ r ∈ records doc, '"' ∉ r.key ∧ trim r.key = r.key ∧
          isMarked r.note = false := by
  constructor
  · intro h
    have hsecond := fun key => key_ne_of_forall_canSwitch (h key)
    refine ⟨nodup_keys_iff.2 hsecond, fun r hr => ?_⟩
    obtain ⟨r₁, hr₁⟩ := exists_find?_of_mem hr rfl
    obtain rfl : r = r₁ :=
      ((mem_iff_of_find? hr₁).1 hr).resolve_right fun hr => hsecond r.key r hr rfl
    obtain ⟨-, hquote, htrim, hnote, -⟩ := of_forall_canSwitch (h r.key) hr₁
    refine ⟨hquote, htrim, ?_⟩
    cases hon : r.enabled with
    | false => exact hnote hon
    | true => exact isMarked_note_of_mem_records hr hon
  · rintro ⟨hnodup, hrecords⟩ key on
    rw [canSwitch_iff_of_isWritable
      fun r hr => (isWritable_iff_of_mem_records hr).2 (hrecords r hr)]
    exact fun r hr hkey => absurd hkey (nodup_keys_iff.1 hnodup key r hr)

end KeySection

/-! ## Calls of the store -/

namespace KeyStore

open FileTree KeySection

variable {s : KeyStore} {files files' : FileTree} {doc : Text}

/-- A call that enables or disables a key took effect: all records of the key that are loaded
afterwards have the wanted state, and the key is listed if and only if it was. -/
def TakesEffect (s : KeyStore) (files : FileTree) (key : Text) (on : Bool) : Prop :=
  ∀ answer files', s.edit (.setEnabled key on) files = .ok (answer, files') →
    ∃ before after, s.records files = .ok before ∧ s.records files' = .ok after ∧
      (∀ r ∈ after, r.key = key → r.enabled = on) ∧
      (key ∈ after.map KeyRecord.key ↔ key ∈ before.map KeyRecord.key)

/-- The records in the file after an edit: the edited list, as far as its rows are read back. -/
theorem records_of_edit {e : KeyEdit} {answer : KeyAnswer} (hdoc : s.document files = .ok doc)
    (h : e.onRecords (KeySection.records doc) = .ok (answer, rs)) :
    ∃ files', s.edit e files = .ok (answer, files') ∧
      s.records files' = .ok (if answer.isChange then rs.filterMap
        fun r => KeyRow.read? (KeyRow.write r)
        else KeySection.records doc) := by
  obtain ⟨files', hedit⟩ := exists_edit_eq_ok hdoc h
  have hcall := readText_call (document_eq_ok_iff.1 hdoc) (e := e)
  rw [call, hedit, textAfter, editDocument_eq_ok_iff.2 ⟨rs, h, rfl⟩] at hcall
  refine ⟨files', hedit, ?_⟩
  rw [records_of_readText hcall]
  dsimp only
  split
  · rw [records_replace (KeyEdit.isStable_onOneRow.onRecords h onOneRow_of_mem_records)]
  · rfl

theorem takesEffect_iff_of_edit {answer : KeyAnswer} {after : List KeyRecord}
    (hdoc : s.document files = .ok doc)
    (hedit : s.edit (.setEnabled key on) files = .ok (answer, files'))
    (hafter : s.records files' = .ok after) :
    TakesEffect s files key on ↔ (∀ r ∈ after, r.key = key → r.enabled = on) ∧
      (key ∈ after.map KeyRecord.key ↔ key ∈ (KeySection.records doc).map KeyRecord.key) := by
  have hbefore := records_of_readText (document_eq_ok_iff.1 hdoc)
  constructor
  · intro h
    obtain ⟨before, after', hbefore', hafter', heffect⟩ := h answer files' hedit
    obtain rfl := Except.ok.inj (hbefore'.symm.trans hbefore)
    obtain rfl := Except.ok.inj (hafter'.symm.trans hafter)
    exact heffect
  · intro h answer' files'' hedit'
    obtain ⟨-, rfl⟩ := Prod.mk.inj (Except.ok.inj (hedit.symm.trans hedit'))
    exact ⟨_, _, hbefore, hafter, h⟩

/-- **Which calls take effect**, by the list of records alone. -/
theorem takesEffect_iff (hdoc : s.document files = .ok doc) (key : Text) (on : Bool) :
    TakesEffect s files key on ↔ CanSwitch (KeySection.records doc) key on := by
  unfold CanSwitch
  by_cases hsame : ∀ r ∈ (KeySection.records doc).find? (·.key = key), r.enabled = on
  · obtain ⟨files', hedit, hafter⟩ :=
      records_of_edit hdoc (KeyEdit.onRecords_setEnabled_of_eq hsame)
    rw [takesEffect_iff_of_edit hdoc hedit hafter]
    simp only [KeyAnswer.isChange, Bool.false_eq_true, if_false, and_true]
    constructor
    · intro h r hr
      rw [if_pos (hsame r hr)]
      exact h
    · intro h r' hr' hkey
      obtain ⟨r, hr⟩ := exists_find?_of_mem hr' hkey
      have hall := h r hr
      rw [if_pos (hsame r hr)] at hall
      exact hall r' hr' hkey
  · push Not at hsame
    obtain ⟨r, hr, hne⟩ := hsame
    obtain ⟨hmem, hkey⟩ := mem_and_key_of_find? hr
    have hne_nil : key ≠ [] := hkey ▸ key_ne_nil_of_mem_records hmem
    have hlisted : key ∈ (KeySection.records doc).map KeyRecord.key :=
      List.mem_map.2 ⟨r, hmem, hkey⟩
    obtain ⟨files', hedit, hafter⟩ :=
      records_of_edit hdoc (KeyEdit.onRecords_setEnabled_of_ne hr hne)
    have hreread := reread_updateFirst_iff on hr hne_nil (tight_note_of_mem_records r hmem)
    rw [takesEffect_iff_of_edit hdoc hedit hafter]
    simp only [KeyAnswer.isChange, if_true, hlisted, iff_true]
    refine hreread.trans ⟨fun h r' hr' => ?_, fun h => ?_⟩
    · obtain rfl := Option.mem_unique hr hr'
      rwa [if_neg hne]
    · have hall := h r hr
      rwa [if_neg hne] at hall

/-- **Enabling and disabling.**  A call on a readable document never fails, and:

* Which calls take effect depends on the records that are loaded from the document.
* If no key holds a double quote or has blanks at its ends, and no note holds a marker, then a call
  takes effect exactly if all but the first record of its key have the wanted state already.
* Every call takes effect exactly if in addition no key is listed twice. -/
theorem setEnabled_takes_effect_iff (s : KeyStore) (files : FileTree) (doc : Text)
    (hdoc : s.document files = .ok doc) :
    let rs := KeySection.records doc
    (∀ key on, ∃ whether files',
    s.edit (.setEnabled key on) files = .ok (.changed whether, files')) ∧
    (∀ key on, TakesEffect s files key on ↔ CanSwitch rs key on) ∧
    ((∀ r ∈ rs, '"' ∉ r.key ∧ trim r.key = r.key ∧ isMarked r.note = false) →
      ∀ key on, TakesEffect s files key on ↔
        ∀ r ∈ rs.eraseP (·.key = key), r.key = key → r.enabled = on) ∧
    ((∀ key on, TakesEffect s files key on) ↔
      (rs.map KeyRecord.key).Nodup ∧
        ∀ r ∈ rs, '"' ∉ r.key ∧ trim r.key = r.key ∧ isMarked r.note = false) := by
  intro rs
  refine ⟨fun key on => ?_, takesEffect_iff hdoc, fun hplain key on => ?_, ?_⟩
  · have hedit : (KeyEdit.setEnabled key on).onRecords rs = _ :=
      (KeyEdit.onRecords_setEnabled key on).trans (congrArg Except.ok KeyEdit.amend_eq)
    obtain ⟨files', hfiles⟩ := exists_edit_eq_ok hdoc hedit
    exact ⟨_, files', hfiles⟩
  · rw [takesEffect_iff hdoc, canSwitch_iff_of_isWritable]
    exact fun r hr => (isWritable_iff_of_mem_records hr).2 (hplain r hr)
  · rw [← forall_canSwitch_iff]
    exact forall₂_congr fun key on => takesEffect_iff hdoc key on

/-- In a file with two keys of different states, each can be enabled and disabled. -/
theorem setEnabled_takes_effect_lone :
    let doc := "api-keys:\n  - \"a\" # disabled # later\n  - b # team\n".toList
    KeySection.records doc =
        [⟨"a".toList, "later".toList, false⟩, ⟨"b".toList, "team".toList, true⟩] ∧
      ∀ key on, TakesEffect ⟨lonePath⟩ (lone doc) key on := by
  intro doc
  have hrecords : KeySection.records doc =
      [⟨"a".toList, "later".toList, false⟩, ⟨"b".toList, "team".toList, true⟩] := by decide
  obtain ⟨-, -, -, hall⟩ := setEnabled_takes_effect_iff ⟨lonePath⟩ (lone doc) doc
    (document_eq_ok_iff.2 (holdsText_lone doc).readText)
  refine ⟨hrecords, hall.2 ?_⟩
  rw [hrecords]
  decide

/-- Three calls that answer with a change and miss their effect: a key is enabled whose note is a
marker, a key is disabled that is listed twice, and a key with a double quote is disabled. -/
theorem setEnabled_misses_effect :
    let s : KeyStore := ⟨lonePath⟩
    let k := "k".toList
    let marked := lone "api-keys:\n  - \"k\" # disdisabledabled\n".toList
    let twice := lone "api-keys:\n  - \"k\"\n  - \"k\"\n".toList
    let quoted := lone "api-keys:\n  - 'k\"x'\n".toList
    (∃ files, s.edit (.setEnabled k true) marked = .ok (.changed true, files) ∧
      s.records files = .ok [⟨k, [], false⟩] ∧ ¬ TakesEffect s marked k true) ∧
    (∃ files, s.edit (.setEnabled k false) twice = .ok (.changed true, files) ∧
      s.records files = .ok [⟨k, [], false⟩, ⟨k, [], true⟩] ∧
        ¬ TakesEffect s twice k false) ∧
    ∃ files, s.edit (.setEnabled "k\"x".toList false) quoted = .ok (.changed true, files) ∧
      s.records files = .ok [⟨k, [], true⟩] ∧
      ¬ TakesEffect s quoted "k\"x".toList false := by
  intro s k marked twice quoted
  refine ⟨?_, ?_, ?_⟩
  · have hdoc : s.document marked = .ok _ := document_eq_ok_iff.2 (holdsText_lone _).readText
    obtain ⟨files, hedit, hafter⟩ := records_of_edit hdoc
      (show (KeyEdit.setEnabled k true).onRecords _ =
        .ok (.changed true, [⟨k, "disabled".toList, true⟩]) by decide)
    refine ⟨files, hedit, hafter, fun h => ?_⟩
    exact absurd ((takesEffect_iff_of_edit hdoc hedit hafter).1 h) (by decide)
  · have hdoc : s.document twice = .ok _ := document_eq_ok_iff.2 (holdsText_lone _).readText
    obtain ⟨files, hedit, hafter⟩ := records_of_edit hdoc
      (show (KeyEdit.setEnabled k false).onRecords _ =
        .ok (.changed true, [⟨k, [], false⟩, ⟨k, [], true⟩]) by decide)
    refine ⟨files, hedit, hafter, fun h => ?_⟩
    exact absurd ((takesEffect_iff_of_edit hdoc hedit hafter).1 h) (by decide)
  · have hdoc : s.document quoted = .ok _ := document_eq_ok_iff.2 (holdsText_lone _).readText
    obtain ⟨files, hedit, hafter⟩ := records_of_edit hdoc
      (show (KeyEdit.setEnabled "k\"x".toList false).onRecords _ =
        .ok (.changed true, [⟨"k\"x".toList, [], false⟩]) by decide)
    refine ⟨files, hedit, hafter, fun h => ?_⟩
    exact absurd ((takesEffect_iff_of_edit hdoc hedit hafter).1 h) (by decide)

end KeyStore
end ProxySteward
