import ProxySteward.Proofs.Key.SectionFrame

/-!
# Entries of the name `api-keys`

A row that starts with `api-keys:` opens an entry of that name at the top level of the configuration
file, however it goes on.  The key list takes a row for its header under another condition: nothing
but blanks may stand around the name, in front of it as well as behind it.  So the two notions
differ in both directions.  A comment or an empty list behind the name makes a row open an entry
without being a header, and an indented header opens no entry.

`entryCount_replace` says what that means for a document that is written.  The written header opens
an entry, and the old header makes room for it only if it opened one itself; so the number of
entries stays the same exactly if the section was found under a header that opens an entry, and else
it grows by one.

A document should not have two entries of one name.  `edit_entryCount` says which documents with at
most one of them are safe, and what becomes of a document whose only entry goes on behind the name.
-/

namespace ProxySteward
namespace KeySection

open Text

variable {doc : Text} {rs : List KeyRecord}

/-- Whether a row opens an entry of the name `api-keys` at the top level. -/
def opensEntry (row : Text) : Bool := startsWith headerRow row

/-- How many rows of a document open an entry of the name `api-keys`. -/
def entryCount (doc : Text) : Nat := (rows doc).countP opensEntry

/-- The header under which the section of a document is found: one row, or none. -/
def foundHeader (doc : Text) : List Text := (find? (rows doc)).toList.map header

/-! ## Rows that open an entry -/

theorem opensEntry_headerRow_append (t : Text) : opensEntry (headerRow ++ t) = true :=
  startsWith_iff.2 ⟨t, rfl⟩

/-- A row that opens an entry is neither indented nor blank nor a comment. -/
theorem belongs_of_opensEntry {row : Text} (h : opensEntry row = true) : belongs row = false := by
  obtain ⟨rest, rfl⟩ := startsWith_iff.1 h
  obtain ⟨more, hmore⟩ : ∃ more, trim (headerRow ++ rest) = 'a' :: more :=
    ⟨_, trim_cons (by decide) _⟩
  rw [belongs, isBlankRow, isComment, hmore]
  rfl

theorem countP_opensEntry_of_belongs {xs : List Text} (h : ∀ row ∈ xs, belongs row = true) :
    xs.countP opensEntry = 0 := by
  rw [List.countP_eq_zero]
  intro row hrow hopens
  exact absurd (h row hrow) (by simp [belongs_of_opensEntry hopens])

/-! ## Written documents -/

/-- Around the section of a written document there are as many entries as there were around the old
one. -/
theorem countP_front_add_countP_back (doc : Text) :
    (front doc).countP opensEntry + (back doc).countP opensEntry +
        (foundHeader doc).countP opensEntry = entryCount doc := by
  cases hs : find? (rows doc) with
  | some s =>
    have hbody := countP_opensEntry_of_belongs (isCut_of_find? hs).body_belongs
    rw [front, back, foundHeader, hs, entryCount, ← find?_rows hs, List.countP_append,
      List.countP_append, List.countP_cons, hbody]
    simp only [Option.toList_some, List.map_cons, List.map_nil, List.countP_cons, List.countP_nil]
    omega
  | none =>
    obtain ⟨base, gap, gap', hdoc, hfront, hblank⟩ := exists_padding hs
    have hgap : (gap ++ gap').countP opensEntry = 0 :=
      countP_opensEntry_of_belongs fun row hrow => belongs_of_isBlankRow (hblank row hrow)
    have hback : (back doc).countP opensEntry = 0 := by
      rw [back, hs]
      rfl
    rw [List.countP_append] at hgap
    rw [hfront, hback, foundHeader, hs, entryCount, hdoc, List.countP_append, List.countP_append,
      Option.toList_none, List.map_nil, List.countP_nil]
    omega

/-- **Entries of a written document.**  There is one more than before, unless the old header opened
an entry. -/
theorem entryCount_replace (h : ∀ r ∈ rs, OnOneRow r) :
    entryCount (replace doc rs) + (foundHeader doc).countP opensEntry = entryCount doc + 1 := by
  have hrecords : (rs.map fun r => KeyRow.write r ++ rowEnd doc).countP opensEntry = 0 :=
    countP_opensEntry_of_belongs belongs_of_mem_map_write
  have hwritten : entryCount (replace doc rs) =
      (front doc).countP opensEntry + 1 + (back doc).countP opensEntry := by
    rw [entryCount, rows_replace h, write_eq, List.countP_append, List.countP_append,
      List.countP_cons, hrecords, opensEntry_headerRow_append]
    rfl
  have haround := countP_front_add_countP_back doc
  omega

theorem entryCount_replace_of_no_header (hplain : ∀ row ∈ rows doc, trim row ≠ headerRow)
    (h : ∀ r ∈ rs, OnOneRow r) : entryCount (replace doc rs) = entryCount doc + 1 := by
  have hfind : find? (rows doc) = none :=
    find?_eq_none_iff.2 fun row hrow => isHeader_eq_false_iff.2 (hplain row hrow)
  have hcount : entryCount (replace doc rs) + (foundHeader doc).countP opensEntry =
      entryCount doc + 1 := entryCount_replace h
  rwa [foundHeader, hfind] at hcount

/-- The first header is the one of the section that is found. -/
theorem foundHeader_eq {before after : List Text} {row : Text}
    (hrows : rows doc = before ++ row :: after) (hbefore : ∀ r ∈ before, trim r ≠ headerRow)
    (hheader : trim row = headerRow) : foundHeader doc = [row] := by
  have hplain : ∀ r ∈ before, (!isHeader r) = true := fun r hr => by
    rw [isHeader_eq_false_iff.2 (hbefore r hr)]
    rfl
  have hdrop : (rows doc).dropWhile (fun r => !isHeader r) = row :: after := by
    rw [hrows, List.dropWhile_append_of_pos hplain, List.dropWhile_cons, isHeader_iff.2 hheader]
    rfl
  rw [foundHeader, find?, hdrop]
  rfl

end KeySection

namespace KeyStore

open Text FileTree KeySection

/-- **Entries after an edit.**  Take an edit that rewrites a document in which at most one row
starts with `api-keys:`.

* If no row did, exactly one does afterwards.
* If one did, which holds nothing else but blanks, and no header stands in front of it, exactly one
  does afterwards.
* If one did, but it goes on in another way and the document has no header, this row stays and a
  second one is appended: exactly two do afterwards. -/
theorem edit_entryCount (s : KeyStore) (files files' : FileTree) (doc : Text) (e : KeyEdit)
    (answer : KeyAnswer) (hdoc : s.document files = .ok doc)
    (hedit : s.edit e files = .ok (answer, files')) (hchange : answer.isChange = true)
    (hone : entryCount doc ≤ 1) :
    ∃ doc', s.document files' = .ok doc' ∧
      (entryCount doc = 0 → entryCount doc' = 1) ∧
      (∀ before row after, rows doc = before ++ row :: after → opensEntry row = true →
        trim row = headerRow → (∀ r ∈ before, trim r ≠ headerRow) →
          entryCount doc' = 1) ∧
      (entryCount doc = 1 → (∀ row ∈ rows doc, trim row ≠ headerRow) →
        entryCount doc' = 2) := by
  obtain ⟨rs, -, hrow, hdoc'⟩ := document_of_edit hdoc hedit hchange
  have hcount : entryCount (replace doc rs) + (foundHeader doc).countP opensEntry =
      entryCount doc + 1 := entryCount_replace hrow
  refine ⟨replace doc rs, hdoc',
    fun hnone => ?_, fun before row after hrows hopens hheader hbefore => ?_,
      fun hsome hplain => ?_⟩
  · -- a header that opened an entry would be a row that does
    have haround := countP_front_add_countP_back doc
    omega
  · have hentry : 0 < entryCount doc := by
      rw [entryCount, List.countP_pos_iff, hrows]
      exact ⟨row, by simp, hopens⟩
    rw [foundHeader_eq hrows hbefore hheader, List.countP_cons, hopens] at hcount
    simp only [List.countP_nil, if_true] at hcount
    omega
  · rw [entryCount_replace_of_no_header hplain hrow, hsome]

/-- A key is added under a header with blanks behind the name. -/
theorem edit_entryCount_lone :
    let doc := "port: 1\napi-keys: \t\n  - a\n".toList
    let s : KeyStore := ⟨lonePath⟩
    entryCount doc = 1 ∧ ∃ files' doc', s.edit (.add "k".toList) (lone doc) =
      .ok (.added "k".toList, files') ∧ s.document files' = .ok doc' ∧ entryCount doc' = 1 := by
  intro doc s
  have hdoc : s.document (lone doc) = .ok doc :=
    document_eq_ok_iff.2 (holdsText_lone doc).readText
  have hlist : (KeyEdit.add "k".toList).onRecords (KeySection.records doc) =
      .ok (.added "k".toList, [⟨"a".toList, [], true⟩, ⟨"k".toList, [], true⟩]) := by decide
  obtain ⟨files', hedit⟩ := exists_edit_eq_ok hdoc hlist
  have hcount : entryCount doc = 1 := by decide
  obtain ⟨doc', hdoc', -, hheader, -⟩ :=
    edit_entryCount s (lone doc) files' doc _ _ hdoc hedit rfl hcount.le
  exact ⟨hcount, files', doc', hedit, hdoc', hheader ["port: 1".toList] "api-keys: \t".toList
    ["  - a".toList, []] (by decide) (by decide) (by decide) (by decide)⟩

/-- A key is added to a document whose only entry holds an empty list: there are two entries
afterwards. -/
theorem edit_second_entry :
    let doc := "api-keys: []\n".toList
    let s : KeyStore := ⟨lonePath⟩
    entryCount doc = 1 ∧ ∃ files' doc', s.edit (.add "k".toList) (lone doc) =
      .ok (.added "k".toList, files') ∧ s.document files' = .ok doc' ∧
      doc' = "api-keys: []\n\napi-keys:\n  - \"k\"\n".toList ∧ entryCount doc' = 2 := by
  intro doc s
  have hdoc : s.document (lone doc) = .ok doc :=
    document_eq_ok_iff.2 (holdsText_lone doc).readText
  have hlist : (KeyEdit.add "k".toList).onRecords (KeySection.records doc) =
      .ok (.added "k".toList, [⟨"k".toList, [], true⟩]) := by decide
  obtain ⟨files', hedit⟩ := exists_edit_eq_ok hdoc hlist
  obtain ⟨rs, hrs, -, hdoc'⟩ := document_of_edit hdoc hedit rfl
  obtain rfl : rs = [⟨"k".toList, [], true⟩] :=
    (Prod.mk.inj (Except.ok.inj (hrs.symm.trans hlist))).2
  exact ⟨by decide, files', _, hedit, hdoc', by decide, by decide⟩

end KeyStore
end ProxySteward
