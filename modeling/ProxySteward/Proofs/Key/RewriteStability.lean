import Mathlib.Data.List.Basic
import ProxySteward.Key.Store
import ProxySteward.Proofs.Key.EditLaws

/-!
# Rewriting the records of a document

Every edit writes all rows of the section again, also those of the records it does not touch.  A
record comes out of that as it was exactly if it is writable, so the other keys of a document are
safe exactly if all of its records are (`records_replace_records_iff`).

Records of documents need not be writable.  The reader takes a key between single quotes with a
double quote in it, it keeps the blanks behind a quote that is not closed, and taking the markers
out of a comment can leave a note in which another one has come together.  Written again, the first
two lose a part of their key, and the last one loses its note.
-/

namespace ProxySteward
namespace KeySection

open Text KeyRecord KeyEdit

variable {doc doc' : Text} {rs : List KeyRecord} {e : KeyEdit} {answer : KeyAnswer}

/-! ## Loaded records -/

theorem key_ne_nil_of_mem_records {r : KeyRecord} (h : r ∈ records doc) : r.key ≠ [] := by
  obtain ⟨row, -, hread⟩ := exists_row_of_mem_records h
  exact KeyRow.key_ne_nil_of_read? hread

theorem tight_edge_note_of_mem_records {r : KeyRecord} (h : r ∈ records doc) :
    Tight isNoteEdge r.note := by
  obtain ⟨row, -, hread⟩ := exists_row_of_mem_records h
  exact KeyRow.tight_note_of_read? hread

theorem tight_note_of_mem_records : ∀ r ∈ records doc, Tight isBlank r.note :=
  fun _ h => KeyRow.tight_blank_of_tight_edge (tight_edge_note_of_mem_records h)

theorem isMarked_note_of_mem_records {r : KeyRecord} (h : r ∈ records doc)
    (hon : r.enabled = true) : isMarked r.note = false := by
  obtain ⟨row, -, hread⟩ := exists_row_of_mem_records h
  exact KeyRow.isMarked_note_of_read? hread hon

/-! ## Writable records -/

/-- What a record that was loaded still needs for being writable. -/
theorem isWritable_iff_of_mem_records {r : KeyRecord} (h : r ∈ records doc) :
    KeyRow.IsWritable r ↔ '"' ∉ r.key ∧ trim r.key = r.key ∧ isMarked r.note = false := by
  constructor
  · intro hw
    exact ⟨hw.quote_not_mem_key, hw.tight_key.trimBoth_eq, hw.plain_note.1⟩
  · rintro ⟨hquote, hkey, hnote⟩
    exact ⟨key_ne_nil_of_mem_records h, hquote, trimBoth_eq_self_iff.1 hkey, hnote,
      tight_edge_note_of_mem_records h⟩

theorem filterMap_read?_write_eq_self_iff :
    (rs.filterMap fun r => KeyRow.read? (KeyRow.write r)) = rs ↔
      ∀ r ∈ rs, KeyRow.IsWritable r := by
  have h := List.filterMap_eq_map_iff_forall_eq_some (f := fun r => KeyRow.read? (KeyRow.write r))
    (g := id) (l := rs)
  rw [List.map_id] at h
  rw [h]
  exact forall₂_congr fun r _ => KeyRow.read?_write_eq_some_iff

/-- Written records are loaded as they are exactly if all of them are writable. -/
theorem records_replace_eq_self_iff (h : ∀ r ∈ rs, OnOneRow r) :
    records (replace doc rs) = rs ↔ ∀ r ∈ rs, KeyRow.IsWritable r := by
  rw [records_replace h, filterMap_read?_write_eq_self_iff]

/-! ## Edits of a document -/

theorem editDocument_eq_ok_iff :
    KeyStore.editDocument e doc = .ok (answer, doc') ↔
      ∃ rs, e.onRecords (records doc) = .ok (answer, rs) ∧
        doc' = if answer.isChange then replace doc rs else doc := by
  unfold KeyStore.editDocument
  cases h : e.onRecords (records doc) with
  | error f => simp
  | ok result =>
    obtain ⟨answer', rs⟩ := result
    simp only [Except.ok.injEq, Prod.mk.injEq]
    constructor
    · rintro ⟨rfl, rfl⟩
      exact ⟨rs, ⟨rfl, rfl⟩, rfl⟩
    · rintro ⟨rs', ⟨rfl, rfl⟩, rfl⟩
      exact ⟨rfl, rfl⟩

theorem editDocument_eq_error_iff {f : KeyFault} :
    KeyStore.editDocument e doc = .error f ↔ e.onRecords (records doc) = .error f := by
  unfold KeyStore.editDocument
  cases e.onRecords (records doc) <;> simp

/-- **Edits of writable records.**  The document afterwards holds the edited list, and its records
are writable again. -/
theorem onRecords_of_editDocument (hw : ∀ r ∈ records doc, KeyRow.IsWritable r)
    (h : KeyStore.editDocument e doc = .ok (answer, doc')) :
    e.onRecords (records doc) = .ok (answer, records doc') ∧
      ∀ r ∈ records doc', KeyRow.IsWritable r := by
  obtain ⟨rs, hrs, rfl⟩ := editDocument_eq_ok_iff.1 h
  have hwritable := isStable_isWritable.onRecords hrs hw
  have hrow := isStable_onOneRow.onRecords hrs onOneRow_of_mem_records
  have hload : records (if answer.isChange then replace doc rs else doc) = rs := by
    split
    · exact (records_replace_eq_self_iff hrow).2 hwritable
    · next hno => rw [eq_of_not_isChange hrs (by simpa using hno)]
  rw [hload]
  exact ⟨hrs, hwritable⟩

/-! ## Which documents are stable -/

/-- There is always another key. -/
theorem exists_isKey_not_mem (ks : List Text) : ∃ key, IsKey key ∧ key ∉ ks := by
  refine ⟨List.replicate (ks.flatten.length + 1) 'k', ⟨by simp, ?_⟩, fun h => ?_⟩
  · rw [isKeyText, List.all_eq_true]
    intro c hc
    rw [List.eq_of_mem_replicate hc]
    decide
  · have hle := (List.sublist_flatten_of_mem h).length_le
    rw [List.length_replicate] at hle
    omega

/-- Adding a fresh key writes all other records again. -/
theorem editDocument_add {key : Text} (hkey : IsKey key)
    (h : key ∉ (records doc).map KeyRecord.key) :
    KeyStore.editDocument (.add key) doc =
      .ok (.added key, replace doc (records doc ++ [fresh key])) := by
  have htrim : trim key = key := (tight_key hkey).trimBoth_eq
  rw [editDocument_eq_ok_iff]
  refine ⟨records doc ++ [fresh key], ?_, rfl⟩
  rw [onRecords_add, htrim, if_neg hkey.1, if_neg (by rw [hkey.2]; decide), if_neg h]

theorem records_replace_fresh {key : Text} (hkey : IsKey key) :
    records (replace doc (records doc ++ [fresh key])) =
      (records doc).filterMap (fun r => KeyRow.read? (KeyRow.write r)) ++ [fresh key] := by
  have hrow : ∀ r ∈ records doc ++ [fresh key], OnOneRow r := by
    intro r hr
    rcases List.mem_append.1 hr with hr | hr
    · exact onOneRow_of_mem_records r hr
    · rw [List.mem_singleton.1 hr]
      exact isStable_onOneRow.fresh key hkey
  have hread := KeyRow.read?_write_eq_some_iff.2 (isStable_isWritable.fresh key hkey)
  rw [records_replace hrow, List.filterMap_append]
  simp only [List.filterMap_cons, hread, List.filterMap_nil]

/-- **Which documents keep their records.**  Writing the loaded records again changes none of them
exactly if no key holds a double quote or ends in a blank and no note holds a marker.  For exactly
these documents, too, no edit of one key changes a record of another one. -/
theorem records_replace_records_iff (doc : Text) :
    (records (replace doc (records doc)) = records doc ↔
      ∀ r ∈ records doc, '"' ∉ r.key ∧ trim r.key = r.key ∧ isMarked r.note = false) ∧
    ((∀ e answer doc', KeyStore.editDocument e doc = .ok (answer, doc') →
        (records doc').filter (fun r => r.key ≠ e.target) =
          (records doc).filter fun r => r.key ≠ e.target) ↔
      ∀ r ∈ records doc, '"' ∉ r.key ∧ trim r.key = r.key ∧ isMarked r.note = false) := by
  have hplain : (∀ r ∈ records doc, KeyRow.IsWritable r) ↔
      ∀ r ∈ records doc, '"' ∉ r.key ∧ trim r.key = r.key ∧ isMarked r.note = false :=
    forall₂_congr fun r hr => isWritable_iff_of_mem_records hr
  rw [← hplain]
  refine ⟨records_replace_eq_self_iff onOneRow_of_mem_records, fun hother => ?_, ?_⟩
  · -- add a key that neither the records nor what they are read back as have
    let reread := (records doc).filterMap fun r => KeyRow.read? (KeyRow.write r)
    obtain ⟨key, hkey, hnew⟩ :=
      exists_isKey_not_mem ((records doc).map KeyRecord.key ++ reread.map KeyRecord.key)
    rw [List.mem_append, not_or] at hnew
    have htrim : trim key = key := (tight_key hkey).trimBoth_eq
    have hne : ∀ {l : List KeyRecord}, key ∉ l.map KeyRecord.key →
        l.filter (fun r => decide (r.key ≠ key)) = l := by
      intro l hl
      rw [List.filter_eq_self]
      intro r hr
      simpa using fun heq : r.key = key => hl (heq ▸ List.mem_map_of_mem hr)
    have h := hother _ _ _ (editDocument_add hkey hnew.1)
    rw [records_replace_fresh hkey, List.filter_append, KeyEdit.target, htrim, hne hnew.1,
      hne hnew.2, List.filter_cons_of_neg (by simp [fresh]), List.filter_nil, List.append_nil] at h
    exact filterMap_read?_write_eq_self_iff.1 h
  · intro hw e answer doc' h
    exact filter_key_onRecords (onRecords_of_editDocument hw h).1

/-- A key between single quotes with a double quote in it is cut off there. -/
theorem records_replace_records_ne :
    let doc := "api-keys:\n  - 'a\"b'\n".toList
    records doc = [⟨"a\"b".toList, [], true⟩] ∧
      records (replace doc (records doc)) = [⟨"a".toList, [], true⟩] ∧
      records (replace doc (records doc)) ≠ records doc := by
  decide

end KeySection
end ProxySteward
