import ProxySteward.Proofs.Key.StoreLaws

/-!
# Keys that stay

Rewriting a section can damage records, but it cannot damage a key that the store itself has added:
such a key holds no quote and no blank, so its row gives it back, whatever note it has been given
since (`mem_keys_replace`).  From its addition on, where it is the last one
(`records_textAfter_of_added`), a key is therefore in the document until an edit takes it out
(`mem_keys_textAfter`), and adding it once more fails (`editDocument_add_of_mem`).
-/

namespace ProxySteward
namespace KeyStore

open Text KeyRecord KeySection

variable {doc doc' : Text} {rs : List KeyRecord} {e : KeyEdit} {key : Text}

/-- A key that may be added is read back from every row that is written for it. -/
theorem mem_keys_replace (hrow : ∀ r ∈ rs, OnOneRow r)
    (hnote : ∀ r ∈ rs, Tight isBlank r.note) (hkey : IsKey key)
    (hmem : key ∈ rs.map KeyRecord.key) :
    key ∈ (KeySection.records (replace doc rs)).map KeyRecord.key := by
  obtain ⟨r, hr, rfl⟩ := List.mem_map.1 hmem
  have hread := KeyRow.read?_write_of_trim hkey.1 (KeyEdit.not_mem_key_of_not hkey (by decide))
    (KeyEdit.tight_key hkey).trimBoth_eq (hnote r hr)
  rw [records_replace hrow]
  exact List.mem_map.2 ⟨_, List.mem_filterMap.2 ⟨r, hr, hread⟩, rfl⟩

/-- The document after an edit holds the keys of the edited list. -/
theorem mem_keys_of_editDocument {answer : KeyAnswer} (h : editDocument e doc = .ok (answer, doc'))
    (hkey : IsKey key)
    (hmem : ∀ rs, e.onRecords (KeySection.records doc) = .ok (answer, rs) →
      key ∈ rs.map KeyRecord.key) :
    key ∈ (KeySection.records doc').map KeyRecord.key := by
  obtain ⟨rs, hrs, rfl⟩ := editDocument_eq_ok_iff.1 h
  have hrow := KeyEdit.isStable_onOneRow.onRecords hrs onOneRow_of_mem_records
  have hnote := KeyEdit.isStable_tight_note.onRecords hrs tight_note_of_mem_records
  split
  · exact mem_keys_replace hrow hnote hkey (hmem rs hrs)
  · next hno =>
    rw [← KeyEdit.eq_of_not_isChange hrs (by simpa using hno)]
    exact hmem rs hrs

/-- **An added key stays** through every edit that does not remove it. -/
theorem mem_keys_textAfter (hkey : IsKey key)
    (hmem : key ∈ (KeySection.records doc).map KeyRecord.key) (hne : e ≠ .remove key) :
    key ∈ (KeySection.records (textAfter e doc)).map KeyRecord.key := by
  rw [textAfter]
  cases h : editDocument e doc with
  | error f => exact hmem
  | ok result =>
    exact mem_keys_of_editDocument h hkey fun rs hrs => KeyEdit.mem_keys_onRecords hrs hmem hne

/-- An edit that added a key has written all other records again, and the fresh record behind
them. -/
theorem editDocument_of_added (h : (editDocument e doc).map Prod.fst = .ok (.added key)) :
    IsKey key ∧ editDocument e doc =
      .ok (.added key, replace doc (KeySection.records doc ++ [fresh key])) := by
  cases hedit : editDocument e doc with
  | error f =>
    rw [hedit] at h
    exact absurd h (by simp [Except.map])
  | ok result =>
    obtain ⟨answer, doc'⟩ := result
    rw [hedit] at h
    obtain rfl : answer = .added key := Except.ok.inj h
    obtain ⟨rs, hrs, rfl⟩ := editDocument_eq_ok_iff.1 hedit
    rcases KeyEdit.onRecords_cases hrs with ⟨key', hkey', -, -, hanswer, rfl⟩ |
      ⟨_, -, hanswer, -⟩ |
      ⟨_, _, -, -, -, hamend⟩
    · obtain rfl : key = key' := KeyAnswer.added.inj hanswer
      exact ⟨hkey', rfl⟩
    · exact absurd hanswer (by simp)
    · rw [KeyEdit.amend_eq, Prod.mk.injEq] at hamend
      exact absurd hamend.1 (by simp)

/-- **The record of an added key** is the last one of the document. -/
theorem records_textAfter_of_added (h : (editDocument e doc).map Prod.fst = .ok (.added key)) :
    KeySection.records (textAfter e doc) =
      (KeySection.records doc).filterMap (fun r => KeyRow.read? (KeyRow.write r)) ++
        [fresh key] := by
  obtain ⟨hkey, hedit⟩ := editDocument_of_added h
  rw [textAfter, hedit]
  exact records_replace_fresh hkey

/-- A key that was added is in the document. -/
theorem mem_keys_textAfter_of_added (h : (editDocument e doc).map Prod.fst = .ok (.added key)) :
    IsKey key ∧ key ∈ (KeySection.records (textAfter e doc)).map KeyRecord.key := by
  rw [records_textAfter_of_added h]
  exact ⟨(editDocument_of_added h).1, by simp [fresh]⟩

/-- An addition that does not fail answers with the trimmed key. -/
theorem eq_added_of_editDocument_add {raw : Text} {answer : KeyAnswer}
    (h : (editDocument (.add raw) doc).map Prod.fst = .ok answer) : answer = .added (trim raw) := by
  cases hedit : editDocument (.add raw) doc with
  | error f =>
    rw [hedit] at h
    exact absurd h (by simp [Except.map])
  | ok result =>
    rw [hedit] at h
    obtain ⟨rs, hrs, -⟩ := editDocument_eq_ok_iff.1 hedit
    rw [← show result.1 = answer from Except.ok.inj h]
    rcases KeyEdit.onRecords_cases hrs with ⟨key, -, -, rfl, hanswer, -⟩ | ⟨_, he, -⟩ |
      ⟨_, _, -, -, hne, -⟩
    · exact hanswer
    · exact absurd he (by simp)
    · exact absurd rfl (hne raw)

/-- A key that is in the document is not added again. -/
theorem editDocument_add_of_mem {raw : Text} (hkey : IsKey (trim raw))
    (hmem : trim raw ∈ (KeySection.records doc).map KeyRecord.key) :
    editDocument (.add raw) doc = .error .keyExists := by
  rw [editDocument_eq_error_iff, KeyEdit.onRecords_add, if_neg hkey.1,
    if_neg (by rw [hkey.2]; decide), if_pos hmem]

end KeyStore
end ProxySteward
