import ProxySteward.Proofs.Key.StoreLaws

/-!
# The store is a list of records

A store keeps a text, reads it anew on every call, and writes a section of it again.  Its callers
need not know any of that: as long as the records it starts with are writable, every sequence of
calls answers what the same sequence answers on a plain list, and the list is what is loaded
afterwards (`records_callAll`).

`KeyList` is that plain list.  It says in list operations what a call does, and it knows nothing of
rows, quotes or notes that look like markers.

The relation between the two is `StandsFor`: the file can be read, its records are the list, and all
of them are writable.  The last condition is what carries the induction, since it is the one that a
rewrite of the whole section needs, and every call restores it (`StandsFor.call`).
-/

namespace ProxySteward

open Text KeyRecord

/-! ## The list machine -/

namespace KeyList

/-- One call on a list of records: what it answers, and the list afterwards. -/
def call : KeyEdit → List KeyRecord → Except KeyFault KeyAnswer × List KeyRecord
  | .add raw, rs =>
    if trim raw = [] then (.error .emptyKey, rs)
    else if isKeyText (trim raw) = false then (.error .invalidKey, rs)
    else if trim raw ∈ rs.map KeyRecord.key then (.error .keyExists, rs)
    else (.ok (.added (trim raw)), rs ++ [⟨trim raw, [], true⟩])
  | .remove key, rs =>
    (.ok (.changed (decide (key ∈ rs.map KeyRecord.key))), rs.filter fun r => r.key ≠ key)
  | .setNote key note, rs =>
    (.ok (.changed ((rs.find? (·.key = key)).any fun r => r.note ≠ normalNote note)),
      rs.modify (rs.findIdx (·.key = key)) fun r => { r with note := normalNote note })
  | .setEnabled key on, rs =>
    (.ok (.changed ((rs.find? (·.key = key)).any fun r => r.enabled ≠ on)),
      rs.modify (rs.findIdx (·.key = key)) fun r => { r with enabled := on })

/-- The list after several calls. -/
def callAll (es : List KeyEdit) (rs : List KeyRecord) : List KeyRecord :=
  es.foldl (fun rs e => (call e rs).2) rs

variable {e : KeyEdit} {rs : List KeyRecord}

/-- The machine does what an edit does, and keeps the list if the edit fails. -/
theorem call_eq (e : KeyEdit) (rs : List KeyRecord) :
    call e rs = match e.onRecords rs with
      | .ok (answer, rs') => (.ok answer, rs')
      | .error f => (.error f, rs) := by
  cases e with
  | add raw =>
    rw [KeyEdit.onRecords_add, call]
    split
    · rfl
    · split
      · rfl
      · split <;> rfl
  | remove key =>
    have hany : decide (key ∈ rs.map KeyRecord.key) = rs.any fun r => decide (r.key = key) := by
      rw [Bool.eq_iff_iff]
      simp
    rw [KeyEdit.onRecords_remove, call, hany]
  | setNote key note =>
    have hne : ∀ r : KeyRecord, decide ({ r with note := normalNote note } ≠ r) =
        decide (r.note ≠ normalNote note) := by
      intro r
      rw [decide_eq_decide, not_iff_not]
      exact ⟨fun h => (congrArg KeyRecord.note h).symm, fun h => by rw [← h]⟩
    rw [KeyEdit.onRecords_setNote, KeyEdit.amend_eq, KeyEdit.updateFirst_eq_modify, call]
    simp only [hne]
  | setEnabled key on =>
    have hne : ∀ r : KeyRecord,
        decide ({ r with enabled := on } ≠ r) = decide (r.enabled ≠ on) := by
      intro r
      rw [decide_eq_decide, not_iff_not]
      exact ⟨fun h => (congrArg KeyRecord.enabled h).symm, fun h => by rw [← h]⟩
    rw [KeyEdit.onRecords_setEnabled, KeyEdit.amend_eq, KeyEdit.updateFirst_eq_modify, call]
    simp only [hne]

theorem nodup_call (h : (rs.map KeyRecord.key).Nodup) :
    ((call e rs).2.map KeyRecord.key).Nodup := by
  rw [call_eq]
  split
  · next hrs => exact KeyEdit.nodup_onRecords hrs h
  · exact h

theorem nodup_callAll {es : List KeyEdit} (h : (rs.map KeyRecord.key).Nodup) :
    ((callAll es rs).map KeyRecord.key).Nodup := by
  induction es generalizing rs with
  | nil => exact h
  | cons e es ih => exact ih (nodup_call h)

end KeyList

/-! ## The refinement -/

namespace KeyStore

open FileTree KeySection

variable {s : KeyStore} {files : FileTree} {rs : List KeyRecord} {e : KeyEdit}

/-- The store stands for a list: its file holds writable records, and they are the list. -/
def StandsFor (s : KeyStore) (files : FileTree) (rs : List KeyRecord) : Prop :=
  ∃ doc l content mode, HoldsText files s.path doc l content mode ∧
    KeySection.records doc = rs ∧
    ∀ r ∈ rs, KeyRow.IsWritable r

theorem StandsFor.records (h : StandsFor s files rs) : s.records files = .ok rs := by
  obtain ⟨doc, l, content, mode, hdoc, rfl, -⟩ := h
  exact records_of_readText hdoc.readText

/-- **One call.**  Store and list give the same answer, the store stands for the list afterwards,
and the files are the same unless the list reports a change. -/
theorem StandsFor.call (h : StandsFor s files rs) (e : KeyEdit) :
    (s.call e files).1 = (KeyList.call e rs).1 ∧
      StandsFor s (s.call e files).2 (KeyList.call e rs).2 ∧
      ((∃ answer, (KeyList.call e rs).1 = .ok answer ∧ answer.isChange = true) ∨
        (s.call e files).2 = files) := by
  obtain ⟨doc, l, content, mode, hdoc, rfl, hw⟩ := h
  obtain ⟨content', hdoc'⟩ := exists_holdsText_call hdoc (e := e)
  have hfiles := call_files hdoc (e := e)
  rw [call_answer hdoc] at hfiles
  rw [call_answer hdoc, KeyList.call_eq]
  unfold textAfter at hdoc' hfiles
  cases hedit : editDocument e doc with
  | error f =>
    rw [hedit] at hdoc' hfiles
    rw [editDocument_eq_error_iff.1 hedit]
    refine ⟨rfl, ⟨doc, l, content', mode, hdoc', rfl, hw⟩, ?_⟩
    rcases hfiles with ⟨answer, hanswer, -⟩ | ⟨hsame, -⟩
    · exact absurd hanswer (by simp [Except.map])
    · exact Or.inr hsame
  | ok result =>
    obtain ⟨answer, doc'⟩ := result
    obtain ⟨hrs, hw'⟩ := onRecords_of_editDocument hw hedit
    rw [hedit] at hdoc' hfiles
    rw [hrs]
    refine ⟨rfl, ⟨doc', l, content', mode, hdoc', rfl, hw'⟩, ?_⟩
    rcases hfiles with ⟨answer', hanswer, hchange, -⟩ | ⟨hsame, -⟩
    · exact Or.inl ⟨answer', hanswer, hchange⟩
    · exact Or.inr hsame

/-- Several calls. -/
theorem StandsFor.callAll (h : StandsFor s files rs) (es : List KeyEdit) :
    StandsFor s (s.callAll es files) (KeyList.callAll es rs) := by
  induction es generalizing files rs with
  | nil => exact h
  | cons e es ih => exact ih (h.call e).2.1

/-- A readable document whose records come back when they are written stands for its records. -/
theorem standsFor_of_document {doc : Text} (hdoc : s.document files = .ok doc)
    (hrecords : ∀ r ∈ KeySection.records doc, KeyRow.read? (KeyRow.write r) = some r) :
    StandsFor s files (KeySection.records doc) := by
  obtain ⟨l, content, mode, h⟩ := readText_eq_ok_iff.1 (document_eq_ok_iff.1 hdoc)
  exact ⟨doc, l, content, mode, h, rfl,
    fun r hr => KeyRow.read?_write_eq_some_iff.1 (hrecords r hr)⟩

/-- **The store refines a list of records.**  Take a file whose records all come back when they are
written, or which has no section, and any calls `es`.  Then the records loaded afterwards are those
of the list machine, distinct keys are still distinct, and the next call, whichever it is, gives the
same answer and the same records as on the list; if the list reports a fault or no change, no file
is touched. -/
theorem records_callAll (s : KeyStore) (files : FileTree) (doc : Text)
    (hdoc : s.document files = .ok doc)
    (hstart : (∀ r ∈ KeySection.records doc, KeyRow.read? (KeyRow.write r) = some r) ∨
      ∀ row ∈ rows doc, trim row ≠ headerRow)
    (es : List KeyEdit) :
    s.records (s.callAll es files) = .ok (KeyList.callAll es (KeySection.records doc)) ∧
    (((KeySection.records doc).map KeyRecord.key).Nodup →
      ((KeyList.callAll es (KeySection.records doc)).map KeyRecord.key).Nodup) ∧
    ∀ e : KeyEdit,
      (s.call e (s.callAll es files)).1 =
        (KeyList.call e (KeyList.callAll es (KeySection.records doc))).1 ∧
      s.records (s.call e (s.callAll es files)).2 =
        .ok (KeyList.call e (KeyList.callAll es (KeySection.records doc))).2 ∧
      (((∃ f, (KeyList.call e (KeyList.callAll es (KeySection.records doc))).1 = .error f) ∨
          (KeyList.call e (KeyList.callAll es (KeySection.records doc))).1 =
            .ok (.changed false)) →
        (s.call e (s.callAll es files)).2 = s.callAll es files) := by
  have hrecords : ∀ r ∈ KeySection.records doc, KeyRow.read? (KeyRow.write r) = some r := by
    rcases hstart with h | h
    · exact h
    · rw [records_eq_nil_of_no_header fun row hrow => by simpa [isHeader] using h row hrow]
      intro r hr
      exact absurd hr List.not_mem_nil
  have hrun := (standsFor_of_document hdoc hrecords).callAll es
  refine ⟨hrun.records, fun hnodup => KeyList.nodup_callAll hnodup, fun e => ?_⟩
  obtain ⟨hanswer, hstands, hfiles⟩ := hrun.call e
  refine ⟨hanswer, hstands.records, fun hno => hfiles.resolve_left ?_⟩
  rintro ⟨answer, hanswer, hchange⟩
  rcases hno with ⟨f, hf⟩ | hf
  · rw [hf] at hanswer
    exact absurd hanswer (by simp)
  · rw [hf, Except.ok.injEq] at hanswer
    rw [← hanswer] at hchange
    exact absurd hchange (by decide)

/-- Two calls on a file with one key, and a third one that fails. -/
theorem records_callAll_lone :
    let doc := "port: 8317\napi-keys:\n  - k1 # home\n".toList
    let s : KeyStore := ⟨lonePath⟩
    let files := s.callAll [.add " k2 ".toList, .setEnabled "k1".toList false] (lone doc)
    s.records files =
        .ok [⟨"k1".toList, "home".toList, false⟩, ⟨"k2".toList, [], true⟩] ∧
      (s.call (.add "k2".toList) files).1 = .error .keyExists ∧
      (s.call (.add "k2".toList) files).2 = files := by
  intro doc s files
  obtain ⟨hrecords, -, hcall⟩ := records_callAll s (lone doc) doc
    (document_eq_ok_iff.2 (holdsText_lone doc).readText) (Or.inl (by decide))
    [.add " k2 ".toList, .setEnabled "k1".toList false]
  obtain ⟨hanswer, -, hfiles⟩ := hcall (.add "k2".toList)
  refine ⟨hrecords.trans (by decide), hanswer.trans (by decide),
    hfiles (Or.inl ⟨.keyExists, ?_⟩)⟩
  decide

end KeyStore
end ProxySteward
