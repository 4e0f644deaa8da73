import ProxySteward.Proofs.Key.StoreRefinement

/-!
# The text depends on the list alone

An operator who edits the key list for a while and comes back to the list that was there gets the
old file back, byte for byte.  More generally the text after any edits is the first text with the
final list written into its section (`read_callAll`), so the way on which a list was reached leaves
no mark.

What carries this is that the last writing counts: `replace_replace` says that a list written over
another one gives what it gives when it is written at once.  Two things could stand against it.

* The section that is found in a written document might be another one than the one that was
  written.  It is not, by `find?_rows_replace`.
* A written document might end its rows in another way than the document it was written for.
  Whether rows end in a carriage return is decided by looking for one in front of a line feed
  anywhere in the text, so a section that holds all of them could take them along.  It does not as
  long as the header is not the last row (`rowEnd_replace`), and a line feed at the end of the text
  makes sure of that.

The induction over the calls needs that every list on the way can be read back.  The records of a
document in written form are writable, and edits keep them so.
-/

namespace ProxySteward
namespace KeySection

open Text

variable {doc : Text} {rs rs' : List KeyRecord}

/-! ## Row ends -/

theorem rowEnd_eq_return_iff :
    rowEnd doc = ['\r'] ↔ ∃ row ∈ (rows doc).dropLast, row.getLast? = some '\r' := by
  rw [← crlf_infix_joinRows_iff newline_not_mem_of_mem_rows, joinRows_rows]
  have hmark : "\r\n".toList = ['\r', '\n'] := rfl
  rw [rowEnd, hmark, ← holds_iff]
  split
  · next h => simp [h]
  · next h => simp [h]

/-- In a document that ends in a line feed, rows follow the section. -/
theorem after_ne_nil {s : KeySection} (hs : find? (rows doc) = some s)
    (hend : doc.getLast? = some '\n') : s.after ≠ [] := by
  intro hafter
  have hcut := isCut_of_find? hs
  have hlast := getLast?_rows hend
  rw [← find?_rows hs, hafter, List.append_nil] at hlast
  rcases List.eq_nil_or_concat s.body with hbody | ⟨body, row, hbody⟩
  · -- the last row would be the header
    rw [hbody, List.getLast?_concat, Option.some.injEq] at hlast
    have hheader := hcut.header_opens
    rw [hlast] at hheader
    exact absurd hheader (by decide)
  · -- the last row would be an empty row of the section, which is loose
    rw [hbody, List.concat_eq_append, ← List.cons_append, ← List.append_assoc,
      List.getLast?_concat, Option.some.injEq] at hlast
    have hends :=
      hcut.body_ends row (by rw [hbody, List.concat_eq_append, List.getLast?_concat]; rfl)
    rw [hlast] at hends
    exact absurd hends (by decide)

/-- **Row ends stay** when a section is written in front of other rows. -/
theorem rowEnd_replace {s : KeySection} (hs : find? (rows doc) = some s) (hafter : s.after ≠ [])
    (hrow : ∀ r ∈ rs, OnOneRow r) (hnote : ∀ r ∈ rs, Tight isBlank r.note) :
    rowEnd (replace doc rs) = rowEnd doc := by
  have hold : (rows doc).dropLast = s.before ++ s.header :: s.body ++ s.after.dropLast := by
    rw [← find?_rows hs, List.dropLast_append_of_ne_nil hafter]
  have hnew : (rows (replace doc rs)).dropLast =
      s.before ++ write (rowEnd doc) rs ++ s.after.dropLast := by
    rw [rows_replace hrow, front, back, hs]
    exact List.dropLast_append_of_ne_nil hafter
  rcases rowEnd_eq doc with hnone | hreturn
  · have hno : ¬ rowEnd (replace doc rs) = ['\r'] := by
      rw [rowEnd_eq_return_iff, hnew, hnone]
      rintro ⟨row, hrow, hlast⟩
      -- such a row would be an old one, since no written row ends in a blank
      have hmem : row ∈ s.before ∨ row ∈ s.after.dropLast := by
        rw [List.mem_append, List.mem_append, write_eq, List.mem_cons, List.mem_map] at hrow
        rcases hrow with (hrow | rfl | ⟨r, hr, rfl⟩) | hrow
        · exact Or.inl hrow
        · exact absurd hlast (by decide)
        · rw [List.append_nil] at hlast
          have hblank := KeyRow.isBlank_getLast?_write (hnote r hr) '\r' hlast
          exact absurd hblank (by decide)
        · exact Or.inr hrow
      have hkept : rowEnd doc = ['\r'] := by
        rw [rowEnd_eq_return_iff, hold]
        refine ⟨row, ?_, hlast⟩
        rcases hmem with hrow | hrow
        · exact List.mem_append_left _ (List.mem_append_left _ hrow)
        · exact List.mem_append_right _ hrow
      rw [hnone] at hkept
      exact absurd hkept (by decide)
    rw [hnone]
    exact (rowEnd_eq _).resolve_right hno
  · rw [hreturn, rowEnd_eq_return_iff, hnew, write_eq, hreturn]
    refine ⟨headerRow ++ ['\r'], ?_, List.getLast?_concat⟩
    exact List.mem_append_left _ (List.mem_append_right _ List.mem_cons_self)

/-! ## Writing twice -/

theorem front_replace (h : ∀ r ∈ rs, OnOneRow r) : front (replace doc rs) = front doc := by
  rw [front, find?_rows_replace h]

theorem back_replace (h : ∀ r ∈ rs, OnOneRow r) : back (replace doc rs) = back doc := by
  rw [back, find?_rows_replace h]

/-- **The last writing counts.** -/
theorem replace_replace (h : ∀ r ∈ rs, OnOneRow r) (hend : rowEnd (replace doc rs) = rowEnd doc)
    (rs' : List KeyRecord) : replace (replace doc rs) rs' = replace doc rs' := by
  rw [replace_eq (replace doc rs) rs', front_replace h, back_replace h, hend, ← replace_eq]

/-- A document in written form has a section. -/
theorem exists_find?_of_replace_eq (h : replace doc rs = doc) (hrow : ∀ r ∈ rs, OnOneRow r) :
    ∃ s, find? (rows doc) = some s := by
  have hfind : find? (rows (replace doc rs)) = _ := find?_rows_replace hrow
  rw [h] at hfind
  exact ⟨_, hfind⟩

/-- The records of a document in written form are writable. -/
theorem isWritable_of_replace_records (h : replace doc (records doc) = doc) :
    ∀ r ∈ records doc, KeyRow.IsWritable r := by
  have hself : records (replace doc (records doc)) = records doc := by rw [h]
  exact (records_replace_eq_self_iff onOneRow_of_mem_records).1 hself

end KeySection

/-! ## Ways that lead back -/

namespace KeyEdit

variable {key : Text} {f g : KeyRecord → KeyRecord} {rs : List KeyRecord}

theorem updateFirst_updateFirst (hg : ∀ r, (g r).key = r.key) :
    updateFirst key f (updateFirst key g rs) = updateFirst key (fun r => f (g r)) rs := by
  induction rs with
  | nil => rfl
  | cons r rs ih =>
    by_cases hr : r.key = key
    · have hgr : (g r).key = key := (hg r).trans hr
      simp [updateFirst, hr, hgr]
    · simp [updateFirst, hr, ih]

end KeyEdit

namespace KeyList

open Text KeyRecord

variable {rs : List KeyRecord} {key : Text} {r : KeyRecord}

theorem callAll_cons (e : KeyEdit) (es : List KeyEdit) (rs : List KeyRecord) :
    callAll (e :: es) rs = callAll es (call e rs).2 := rfl

theorem call_setEnabled (key : Text) (on : Bool) (rs : List KeyRecord) :
    (call (.setEnabled key on) rs).2 =
      KeyEdit.updateFirst key (fun r => { r with enabled := on }) rs := by
  rw [KeyEdit.updateFirst_eq_modify]
  rfl

theorem call_setNote (key note : Text) (rs : List KeyRecord) :
    (call (.setNote key note) rs).2 =
      KeyEdit.updateFirst key (fun r => { r with note := normalNote note }) rs := by
  rw [KeyEdit.updateFirst_eq_modify]
  rfl

/-- Removing a key that was not there before undoes its addition, also if the addition failed. -/
theorem callAll_add_remove {raw : Text} (h : trim raw ∉ rs.map KeyRecord.key) :
    callAll [.add raw, .remove (trim raw)] rs = rs := by
  have hrest : rs.filter (fun r => decide (r.key ≠ trim raw)) = rs := by
    rw [List.filter_eq_self]
    intro r hr
    simpa using fun heq : r.key = trim raw => h (heq ▸ List.mem_map_of_mem hr)
  show (call (.add raw) rs).2.filter (fun r => decide (r.key ≠ trim raw)) = rs
  have hlast : (rs ++ [fresh (trim raw)]).filter (fun r => decide (r.key ≠ trim raw)) = rs := by
    rw [List.filter_append, hrest, List.filter_cons_of_neg (by simp [fresh]), List.filter_nil,
      List.append_nil]
  rw [call, if_neg h]
  split
  · exact hrest
  · split
    · exact hrest
    · exact hlast

/-- Setting the old state again undoes a change of the state. -/
theorem callAll_setEnabled_setEnabled (h : rs.find? (·.key = key) = some r) (on : Bool) :
    callAll [.setEnabled key on, .setEnabled key r.enabled] rs = rs := by
  rw [callAll_cons, callAll_cons, call_setEnabled, call_setEnabled,
    KeyEdit.updateFirst_updateFirst (KeyEdit.Revision.state on).key_eq]
  refine KeyEdit.updateFirst_eq_self fun r' hr' => ?_
  rw [h, Option.mem_some] at hr'
  rw [← hr']

/-- Setting the old note again undoes a change of the note, if it is a note that can be set. -/
theorem callAll_setNote_setNote (h : rs.find? (·.key = key) = some r)
    (hnote : normalNote r.note = r.note) (note : Text) :
    callAll [.setNote key note, .setNote key r.note] rs = rs := by
  rw [callAll_cons, callAll_cons, call_setNote, call_setNote,
    KeyEdit.updateFirst_updateFirst (KeyEdit.Revision.note note).key_eq]
  refine KeyEdit.updateFirst_eq_self fun r' hr' => ?_
  rw [h, Option.mem_some] at hr'
  rw [← hr', hnote]

end KeyList

/-! ## Runs of the store -/

namespace KeyStore

open Text FileTree KeySection

variable {s : KeyStore} {files : FileTree} {base doc : Text} {rs : List KeyRecord}

/-- A document that is another one with a writable list in its section. -/
structure Carries (base : Text) (rs : List KeyRecord) (doc : Text) : Prop where
  doc_eq : doc = replace base rs
  one_row : ∀ r ∈ rs, OnOneRow r
  writable : ∀ r ∈ rs, KeyRow.IsWritable r

/-- The documents in which a written section keeps the row ends. -/
structure IsBase (base : Text) : Prop where
  ends : base.getLast? = some '\n'
  opens : ∃ s, find? (rows base) = some s

theorem Carries.records_eq (h : Carries base rs doc) : KeySection.records doc = rs := by
  rw [h.doc_eq]
  exact (records_replace_eq_self_iff h.one_row).2 h.writable

theorem Carries.replace_eq (hbase : IsBase base) (h : Carries base rs doc) (rs' : List KeyRecord) :
    replace doc rs' = replace base rs' := by
  obtain ⟨s, hs⟩ := hbase.opens
  have hend : rowEnd (replace base rs) = rowEnd base :=
    rowEnd_replace hs (after_ne_nil hs hbase.ends) h.one_row
      fun r hr => (h.writable r hr).tight_note
  rw [h.doc_eq, replace_replace h.one_row hend]

/-- **One call** leaves the base with the list of the list machine. -/
theorem Carries.textAfter (hbase : IsBase base) (h : Carries base rs doc) (e : KeyEdit) :
    Carries base (KeyList.call e rs).2 (textAfter e doc) := by
  rw [KeyStore.textAfter, KeyList.call_eq]
  cases hedit : editDocument e doc with
  | error f =>
    have hrs := editDocument_eq_error_iff.1 hedit
    rw [h.records_eq] at hrs
    rw [hrs]
    exact h
  | ok result =>
    obtain ⟨answer, doc'⟩ := result
    obtain ⟨rs', hrs, hdoc'⟩ := editDocument_eq_ok_iff.1 hedit
    rw [h.records_eq] at hrs
    rw [hrs]
    refine ⟨?_, KeyEdit.isStable_onOneRow.onRecords hrs h.one_row,
      KeyEdit.isStable_isWritable.onRecords hrs h.writable⟩
    show doc' = replace base rs'
    rw [hdoc']
    split
    · exact h.replace_eq hbase rs'
    · next hno =>
      rw [KeyEdit.eq_of_not_isChange hrs (by simpa using hno)]
      exact h.doc_eq

/-- Several calls. -/
theorem exists_carries_callAll (hbase : IsBase base) (h : Carries base rs doc)
    (hdoc : files.readText s.path = .ok doc) (es : List KeyEdit) :
    ∃ doc', Carries base (KeyList.callAll es rs) doc' ∧
      (s.callAll es files).readText s.path = .ok doc' := by
  induction es generalizing files rs doc with
  | nil => exact ⟨doc, h, hdoc⟩
  | cons e es ih => exact ih (h.textAfter hbase e) (readText_call hdoc)

/-- **The file depends on the list alone.**  Take a document that ends in a line feed and whose
section has the form in which the store writes it, and any calls `es`.

* The bytes of the file afterwards are those of the document with the list of the list machine in
  its section.
* Any other calls that lead to the same list leave the same bytes.
* Calls that lead back to the first list restore the first bytes.  That is so for a key that is
  added and removed again, for a state that is changed and changed back, and for a note that is
  changed and changed back to what can be set as a note. -/
theorem read_callAll (s : KeyStore) (files : FileTree) (doc : Text)
    (hdoc : s.document files = .ok doc) (hend : doc.getLast? = some '\n')
      (hform : replace doc (KeySection.records doc) = doc)
    (es : List KeyEdit) :
    let rs := KeySection.records doc
    (s.callAll es files).read s.path = .ok (encode (replace doc (KeyList.callAll es rs))) ∧
    (∀ es', KeyList.callAll es' rs = KeyList.callAll es rs →
      (s.callAll es' files).read s.path = (s.callAll es files).read s.path) ∧
    (KeyList.callAll es rs = rs → (s.callAll es files).read s.path = files.read s.path) ∧
    (∀ raw, trim raw ∉ rs.map KeyRecord.key →
      (s.callAll [.add raw, .remove (trim raw)] files).read s.path = files.read s.path) ∧
    ∀ key r, rs.find? (·.key = key) = some r →
      (∀ on, (s.callAll [.setEnabled key on, .setEnabled key r.enabled] files).read s.path =
        files.read s.path) ∧
      (KeyRecord.normalNote r.note = r.note → ∀ note,
        (s.callAll [.setNote key note, .setNote key r.note] files).read s.path =
          files.read s.path) := by
  intro rs
  have htext := document_eq_ok_iff.1 hdoc
  have hbase : IsBase doc := ⟨hend, exists_find?_of_replace_eq hform onOneRow_of_mem_records⟩
  have hstart : Carries doc rs doc :=
    ⟨hform.symm, onOneRow_of_mem_records, isWritable_of_replace_records hform⟩
  have hread : ∀ es', (s.callAll es' files).read s.path =
      .ok (encode (replace doc (KeyList.callAll es' rs))) := by
    intro es'
    obtain ⟨doc', hcarries, hdoc'⟩ := exists_carries_callAll hbase hstart htext es'
    rw [← hcarries.doc_eq]
    exact readText_eq_ok_iff_read.1 hdoc'
  have hback : ∀ es', KeyList.callAll es' rs = rs →
      (s.callAll es' files).read s.path = files.read s.path := by
    intro es' hes'
    rw [hread, hes', hform]
    exact (readText_eq_ok_iff_read.1 htext).symm
  refine ⟨hread es, fun es' hes' => ?_, hback es,
    fun raw hraw => hback _ (KeyList.callAll_add_remove hraw),
      fun key r hr => ⟨fun on => ?_, ?_⟩⟩
  · rw [hread, hread, hes']
  · exact hback _ (KeyList.callAll_setEnabled_setEnabled hr on)
  · exact fun hnote note => hback _ (KeyList.callAll_setNote_setNote hr hnote note)

/-- A file with carriage returns: a key is added and removed again while another one is disabled,
and enabled after that. -/
theorem read_callAll_lone :
    let doc := "port: 1\r\napi-keys:\r\n  - \"a\"\r\n# b\r\n".toList
    let s : KeyStore := ⟨lonePath⟩
    let a := "a".toList
    let k := "k".toList
    (s.callAll [.add k, .setEnabled a false, .remove k, .setEnabled a true]
        (lone doc)).read lonePath = .ok (encode doc) ∧
      (s.callAll [.add k, .setEnabled a false, .remove k] (lone doc)).read lonePath =
        .ok (encode "port: 1\r\napi-keys:\r\n  - \"a\" # disabled\r\n# b\r\n".toList) := by
  intro doc s a k
  have htext := (holdsText_lone doc).readText
  have h := read_callAll s (lone doc) doc (document_eq_ok_iff.2 htext) (by decide) (by decide)
  obtain ⟨-, -, hback, -⟩ := h [.add k, .setEnabled a false, .remove k, .setEnabled a true]
  obtain ⟨hread, -⟩ := h [.add k, .setEnabled a false, .remove k]
  have hlist : KeyList.callAll [.add k, .setEnabled a false, .remove k] (KeySection.records doc) =
      [⟨a, [], false⟩] := by decide
  rw [hlist] at hread
  exact ⟨(hback (by decide)).trans (readText_eq_ok_iff_read.1 htext), hread.trans (by decide)⟩

end KeyStore
end ProxySteward
