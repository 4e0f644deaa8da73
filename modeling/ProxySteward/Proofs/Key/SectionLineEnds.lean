import ProxySteward.Proofs.Key.PathIndependence
import ProxySteward.Proofs.Key.SectionFrame
import ProxySteward.Proofs.Text.LineEnds

/-!
# Line ends of a written document

A document with two-character line ends should keep them.  The records of such a document hold no
carriage return, since a row is trimmed before it is read, and edits bring none in; so every row
that is written has its carriage return at the end and no other one (`endsInReturn_of_mem_write`).
What is left are the two places where the section meets rows that were there before, and there it
depends on the last row of the document.

* Rows in front of the section keep what they end in.  If a section is appended behind a last row
  that no line feed ends, that row gets a line feed behind it and has no carriage return to go with
  it.
* A section that reaches to the end of the document has nothing behind it.  Its last row ends in a
  carriage return, and no line feed follows.

`isCrlf_replace_iff` says that these are the only two ways to lose the line ends, and
`KeyStore.edit_isCrlf_iff` which documents avoid both: those that end in a line feed, and those that
have rows behind their section.
-/

namespace ProxySteward
namespace KeySection

open Text

variable {doc : Text} {rs : List KeyRecord}

/-! ## Rows that are written -/

/-- A document with these line ends gets rows with carriage returns. -/
theorem rowEnd_of_isCrlf (h : IsCrlf doc) (hbreak : '\n' ∈ doc) : rowEnd doc = ['\r'] := by
  obtain ⟨front, rest, hdoc⟩ := List.append_of_mem hbreak
  obtain ⟨init, hinit⟩ := List.getLast?_eq_some_iff.1 (h.return_before front rest hdoc)
  have hmark : "\r\n".toList <:+: doc := ⟨init, rest, by rw [hdoc, hinit]; simp⟩
  rw [rowEnd, holds_iff.2 hmark]
  rfl

/-- Reading a row does not see the carriage return at its end, so no record keeps it. -/
theorem lacks_return_of_mem_records (h : IsCrlf doc) : ∀ r ∈ records doc, Lacks '\r' r := by
  intro r hr
  obtain ⟨row, hrow, hread⟩ := exists_row_of_mem_records hr
  have hread' : KeyRow.read? (dropReturn row) = some r := by
    rw [← hread, KeyRow.read?, KeyRow.read?, trim_dropReturn]
  have hno := h.return_not_mem_dropReturn row hrow
  exact ⟨fun hkey => hno (KeyRow.mem_row_of_read? hread' (Or.inl hkey)),
    fun hnote => hno (KeyRow.mem_row_of_read? hread' (Or.inr hnote))⟩

theorem endsInReturn_of_mem_write (hrs : ∀ r ∈ rs, Lacks '\r' r) :
    ∀ row ∈ write ['\r'] rs, EndsInReturn row := by
  intro row hrow
  rw [write_eq] at hrow
  rcases List.mem_cons.1 hrow with rfl | hrow
  · exact endsInReturn_concat (by decide)
  · obtain ⟨r, hr, rfl⟩ := List.mem_map.1 hrow
    exact endsInReturn_concat (not_mem_write (hrs r hr) (by decide))

/-! ## Rows that were there -/

/-- The rows behind the section end as they should, and so does the last of them, if there is
one. -/
theorem endsInReturn_of_mem_back (h : IsCrlf doc) :
    (∀ row ∈ (back doc).dropLast, EndsInReturn row) ∧
      ∀ row ∈ (back doc).getLast?, '\r' ∉ row := by
  cases hs : find? (rows doc) with
  | none =>
    rw [back, hs]
    simp
  | some s =>
    obtain ⟨hrows, hlast⟩ := (isCrlf_iff doc).1 h
    have hback : back doc = s.after := by rw [back, hs]
    rw [hback]
    by_cases hafter : s.after = []
    · rw [hafter]
      simp
    · rw [← find?_rows hs, List.dropLast_append_of_ne_nil hafter] at hrows
      rw [← find?_rows hs, List.getLast?_append_of_ne_nil _ hafter] at hlast
      exact ⟨fun row hrow => hrows row (List.mem_append_right _ hrow), hlast⟩

/-- The rows in front of a section end as they should. -/
theorem endsInReturn_of_mem_before {s : KeySection} (h : IsCrlf doc)
    (hs : find? (rows doc) = some s) : ∀ row ∈ s.before, EndsInReturn row := by
  intro row hrow
  refine ((isCrlf_iff doc).1 h).1 row ?_
  rw [← find?_rows hs, List.append_assoc, List.dropLast_append_of_ne_nil (by simp)]
  exact List.mem_append_left _ hrow

/-- In front of an appended section, the last row of the document must be empty. -/
theorem forall_mem_front_iff (h : IsCrlf doc) (hbreak : '\n' ∈ doc)
    (hs : find? (rows doc) = none) :
    (∀ row ∈ front doc, EndsInReturn row) ↔ doc.getLast? = some '\n' := by
  obtain ⟨hrows, hlast⟩ := (isCrlf_iff doc).1 h
  rw [← getLast?_rows_iff hbreak, front, hs]
  constructor
  · intro hends
    by_contra hfull
    have hkept : dropLastEmpty (rows doc) = rows doc := if_neg hfull
    have hmem : (rows doc).getLast (rows_ne_nil doc) ∈ padded (rowEnd doc) (rows doc) := by
      rw [padded, hkept]
      exact List.mem_append_left _ (List.getLast_mem _)
    exact hlast _ (List.getLast_mem_getLast? (rows_ne_nil doc))
      (List.mem_of_mem_getLast? (hends _ hmem).1)
  · intro hempty row hrow
    have hinit : dropLastEmpty (rows doc) = (rows doc).dropLast := if_pos hempty
    rw [padded, hinit, List.mem_append] at hrow
    rcases hrow with hrow | hrow
    · exact hrows row hrow
    · -- the blank row between the document and the section
      have hgap : row = rowEnd doc := by
        split at hrow
        · split at hrow
          · exact absurd hrow List.not_mem_nil
          · exact List.mem_singleton.1 hrow
        · exact absurd hrow List.not_mem_nil
      rw [hgap, rowEnd_of_isCrlf h hbreak]
      exact endsInReturn_concat List.not_mem_nil

/-! ## The written document -/

/-- **When the line ends stay.**  Every row in front of the section must have its carriage return,
and there must be a row behind the section. -/
theorem isCrlf_replace_iff (h : IsCrlf doc) (hbreak : '\n' ∈ doc)
    (hrow : ∀ r ∈ rs, OnOneRow r) (hrs : ∀ r ∈ rs, Lacks '\r' r) :
    IsCrlf (replace doc rs) ↔ (∀ row ∈ front doc, EndsInReturn row) ∧ back doc ≠ [] := by
  have hwrite := endsInReturn_of_mem_write hrs
  obtain ⟨hback, hlast⟩ := endsInReturn_of_mem_back h
  rw [isCrlf_iff, rows_replace hrow, rowEnd_of_isCrlf h hbreak]
  by_cases hnil : back doc = []
  · -- the last row is a written one
    have hne : write ['\r'] rs ≠ [] := by simp [write_eq]
    rw [hnil, List.append_nil, List.getLast?_append_of_ne_nil _ hne]
    refine iff_of_false (fun hall => ?_) fun hall => hall.2 rfl
    have hend := hwrite _ (List.getLast_mem hne)
    exact hall.2 _ (List.getLast_mem_getLast? hne) (List.mem_of_mem_getLast? hend.1)
  · rw [List.dropLast_append_of_ne_nil hnil, List.getLast?_append_of_ne_nil _ hnil,
      List.append_assoc, List.forall_mem_append, List.forall_mem_append]
    exact ⟨fun hall => ⟨hall.1.1, hnil⟩,
      fun hall => ⟨⟨hall.1, hwrite, hback⟩, hlast⟩⟩

/-- A document with a section keeps its line ends exactly if something stands behind the section. -/
theorem isCrlf_replace_iff_of_find? {s : KeySection} (h : IsCrlf doc) (hbreak : '\n' ∈ doc)
    (hrow : ∀ r ∈ rs, OnOneRow r) (hrs : ∀ r ∈ rs, Lacks '\r' r)
    (hs : find? (rows doc) = some s) : IsCrlf (replace doc rs) ↔ s.after ≠ [] := by
  have hfront : front doc = s.before := by rw [front, hs]
  have hback : back doc = s.after := by rw [back, hs]
  rw [isCrlf_replace_iff h hbreak hrow hrs, hfront, hback]
  exact and_iff_right (endsInReturn_of_mem_before h hs)

/-- A document without a section keeps its line ends exactly if a line feed stands at its end. -/
theorem isCrlf_replace_iff_of_find?_eq_none (h : IsCrlf doc) (hbreak : '\n' ∈ doc)
    (hrow : ∀ r ∈ rs, OnOneRow r) (hrs : ∀ r ∈ rs, Lacks '\r' r)
    (hs : find? (rows doc) = none) : IsCrlf (replace doc rs) ↔ doc.getLast? = some '\n' := by
  have hback : back doc ≠ [] := by
    rw [back, hs]
    exact List.cons_ne_nil _ _
  rw [isCrlf_replace_iff h hbreak hrow hrs, forall_mem_front_iff h hbreak hs]
  exact and_iff_left hback

/-! ## What is wrong where they do not stay -/

/-- Rows that all have their carriage return, with a line feed behind each. -/
theorem isCrlf_joinRows_concat {xs : List Text} (hline : ∀ row ∈ xs, '\n' ∉ row)
    (hxs : ∀ row ∈ xs, EndsInReturn row) : IsCrlf (joinRows (xs ++ [[]])) := by
  rw [isCrlf_joinRows_iff, List.dropLast_concat, List.getLast?_concat]
  · exact ⟨hxs, by simp⟩
  · rw [List.forall_mem_append]
    exact ⟨hline, by simp⟩

/-- Behind a section at the end of a document only a line feed is missing. -/
theorem isCrlf_replace_concat {s : KeySection} (h : IsCrlf doc) (hbreak : '\n' ∈ doc)
    (hrow : ∀ r ∈ rs, OnOneRow r) (hrs : ∀ r ∈ rs, Lacks '\r' r)
    (hs : find? (rows doc) = some s) (hafter : s.after = []) :
    IsCrlf (replace doc rs ++ ['\n']) := by
  have hne : s.before ++ write ['\r'] rs ≠ [] := by simp [write_eq]
  have hrows : replace doc rs ++ ['\n'] = joinRows (s.before ++ write ['\r'] rs ++ [[]]) := by
    have hfront : front doc = s.before := by rw [front, hs]
    have hback : back doc = [] := by rw [back, hs, ← hafter]
    rw [replace_eq, hfront, hback, rowEnd_of_isCrlf h hbreak, List.append_nil,
      joinRows_append hne (List.cons_ne_nil _ _)]
    rfl
  rw [hrows]
  refine isCrlf_joinRows_concat ?_ (List.forall_mem_append.2
    ⟨endsInReturn_of_mem_before h hs, endsInReturn_of_mem_write hrs⟩)
  refine List.forall_mem_append.2
    ⟨fun row hmem => ?_, newline_not_mem_of_mem_write (by decide) hrow⟩
  refine newline_not_mem_of_mem_rows (t := doc) row ?_
  rw [← find?_rows hs, List.append_assoc]
  exact List.mem_append_left _ hmem

/-- Behind a last row without a line feed, the line feed that it gets is the only one without a
carriage return. -/
theorem exists_isCrlf_behind (h : IsCrlf doc) (hbreak : '\n' ∈ doc)
    (hrow : ∀ r ∈ rs, OnOneRow r) (hrs : ∀ r ∈ rs, Lacks '\r' r)
      (hs : find? (rows doc) = none) (hend : doc.getLast? ≠ some '\n') :
    ∃ written, replace doc rs = doc ++ '\n' :: written ∧ IsCrlf written := by
  have hkept : dropLastEmpty (rows doc) = rows doc :=
    if_neg fun hlast => hend ((getLast?_rows_iff hbreak).1 hlast)
  obtain ⟨gap, hfront, hgap⟩ :
      ∃ gap, front doc = rows doc ++ gap ∧ ∀ row ∈ gap, row = ['\r'] := by
    rw [front, hs, padded, hkept, rowEnd_of_isCrlf h hbreak]
    refine ⟨_, rfl, fun row hmem => ?_⟩
    split at hmem
    · split at hmem
      · exact absurd hmem List.not_mem_nil
      · exact List.mem_singleton.1 hmem
    · exact absurd hmem List.not_mem_nil
  have hback : back doc = [[]] := by rw [back, hs]
  refine ⟨joinRows (gap ++ write ['\r'] rs ++ [[]]), ?_, isCrlf_joinRows_concat ?_ ?_⟩
  · rw [replace_eq, hfront, hback, rowEnd_of_isCrlf h hbreak, List.append_assoc, List.append_assoc,
      List.append_assoc, joinRows_append (rows_ne_nil doc) (by simp), joinRows_rows]
  · refine List.forall_mem_append.2
      ⟨fun row hmem => ?_, newline_not_mem_of_mem_write (by decide) hrow⟩
    rw [hgap row hmem]
    decide
  · refine List.forall_mem_append.2 ⟨fun row hmem => ?_, endsInReturn_of_mem_write hrs⟩
    rw [hgap row hmem]
    decide

end KeySection

namespace KeyStore

open Text FileTree KeySection

/-- **Which documents keep their line ends.**  Take an edit that rewrites a document with
two-character line ends, of which there is at least one.  The written document has such line ends
again exactly if the old one ends in a line feed or has rows behind its section.

Else one line end is damaged.  If there is a section, it is the last thing in the written document,
and of its last line end only the carriage return is there.  If there is none, the line feed that is
put behind the last row has no carriage return, and everything behind it is as it should be. -/
theorem edit_isCrlf_iff (s : KeyStore) (files files' : FileTree) (doc : Text) (e : KeyEdit)
    (answer : KeyAnswer) (hdoc : s.document files = .ok doc)
    (hedit : s.edit e files = .ok (answer, files')) (hchange : answer.isChange = true)
    (hcrlf : IsCrlf doc) (hbreak : '\n' ∈ doc) :
    ∃ doc', s.document files' = .ok doc' ∧
      (IsCrlf doc' ↔ doc.getLast? = some '\n' ∨
        ∃ before header body loose rest,
          IsDivision (rows doc) before header body loose rest ∧ loose ++ rest ≠ []) ∧
      ((∃ row ∈ rows doc, trim row = headerRow) → ¬ IsCrlf doc' →
        IsCrlf (doc' ++ ['\n'])) ∧
      ((∀ row ∈ rows doc, trim row ≠ headerRow) → ¬ IsCrlf doc' →
        ∃ written, doc' = doc ++ '\n' :: written ∧ IsCrlf written) := by
  obtain ⟨rs, hlist, hrow, hdoc'⟩ := document_of_edit hdoc hedit hchange
  have hrs := (KeyEdit.isStable_lacks (by decide) (by decide)).onRecords hlist
    (lacks_return_of_mem_records hcrlf)
  refine ⟨replace doc rs, hdoc', ?_⟩
  by_cases hheader : ∃ row ∈ rows doc, trim row = headerRow
  · obtain ⟨before, header, body, loose, rest, hdivision⟩ := exists_isDivision hheader
    have hs := hdivision.find?_eq
    have hkeep := isCrlf_replace_iff_of_find? hcrlf hbreak hrow hrs hs
    refine ⟨?_, fun _ hlost => ?_, fun hnone => ?_⟩
    · rw [hkeep]
      constructor
      · intro hafter
        exact Or.inr ⟨before, header, body, loose, rest, hdivision, hafter⟩
      · rintro (hend | ⟨before', header', body', loose', rest', hdivision', hafter⟩)
        · exact after_ne_nil hs hend
        · rw [hdivision'.find?_eq, Option.some.injEq] at hs
          rwa [← congrArg KeySection.after hs]
    · refine isCrlf_replace_concat hcrlf hbreak hrow hrs hs ?_
      by_contra hafter
      exact hlost (hkeep.2 hafter)
    · obtain ⟨row, hmem, htrim⟩ := hheader
      exact absurd htrim (hnone row hmem)
  · have hplain : ∀ row ∈ rows doc, trim row ≠ headerRow :=
      fun row hmem htrim => hheader ⟨row, hmem, htrim⟩
    have hs : find? (rows doc) = none :=
      find?_eq_none_iff.2 fun row hmem => isHeader_eq_false_iff.2 (hplain row hmem)
    have hkeep := isCrlf_replace_iff_of_find?_eq_none hcrlf hbreak hrow hrs hs
    refine ⟨?_, fun hsome => absurd hsome hheader, fun _ hlost => ?_⟩
    · rw [hkeep]
      refine ⟨Or.inl, fun hor => hor.resolve_right ?_⟩
      rintro ⟨before, header, body, loose, rest, hdivision, -⟩
      rw [hdivision.find?_eq] at hs
      exact absurd hs (by simp)
    · exact exists_isCrlf_behind hcrlf hbreak hrow hrs hs fun hend => hlost (hkeep.2 hend)

/-- A key that is added to a section with a comment behind it that no line feed ends. -/
theorem edit_isCrlf_lone :
    let doc := "port: 1\r\napi-keys:\r\n  - a\r\n# end".toList
    let s : KeyStore := ⟨lonePath⟩
    ∃ files' doc', s.edit (.add "k".toList) (lone doc) = .ok (.added "k".toList, files') ∧
      s.document files' = .ok doc' ∧ IsCrlf doc' := by
  intro doc s
  have hdoc : s.document (lone doc) = .ok doc :=
    document_eq_ok_iff.2 (holdsText_lone doc).readText
  obtain ⟨files', hedit⟩ := exists_edit_eq_ok (e := .add "k".toList) hdoc rfl
  obtain ⟨doc', hdoc', hkeep, -⟩ :=
    edit_isCrlf_iff s (lone doc) files' doc _ _ hdoc hedit rfl (by decide) (by decide)
  refine ⟨files', doc', hedit, hdoc', hkeep.2 (Or.inr ?_)⟩
  refine ⟨["port: 1\r".toList], "api-keys:\r".toList, ["  - a\r".toList], ["# end".toList], [],
    ?_, by decide⟩
  constructor <;> decide

/-- An edit of a file that holds nothing else. -/
theorem exists_document_edit_lone (doc : Text) (e : KeyEdit) {answer : KeyAnswer}
    {rs : List KeyRecord} (hlist : e.onRecords (KeySection.records doc) = .ok (answer, rs))
    (hchange : answer.isChange = true) :
    ∃ files', (⟨lonePath⟩ : KeyStore).edit e (lone doc) = .ok (answer, files') ∧
      (⟨lonePath⟩ : KeyStore).document files' = .ok (replace doc rs) := by
  have hdoc : (⟨lonePath⟩ : KeyStore).document (lone doc) = .ok doc :=
    document_eq_ok_iff.2 (holdsText_lone doc).readText
  obtain ⟨files', hedit⟩ := exists_edit_eq_ok hdoc hlist
  obtain ⟨rs', hlist', -, hdoc'⟩ := document_of_edit hdoc hedit hchange
  rw [hlist, Except.ok.injEq, Prod.mk.injEq] at hlist'
  rw [← hlist'.2] at hdoc'
  exact ⟨files', hedit, hdoc'⟩

/-- A key that is added to a document whose last row no line feed ends, once at the end of a section
and once without a section. -/
theorem edit_damages_line_end :
    (∃ files' doc', (⟨lonePath⟩ : KeyStore).edit (.add "k".toList)
          (lone "port: 1\r\napi-keys:\r\n  - a".toList) = .ok (.added "k".toList, files') ∧
        (⟨lonePath⟩ : KeyStore).document files' = .ok doc' ∧
        doc' = "port: 1\r\napi-keys:\r\n  - \"a\"\r\n  - \"k\"\r".toList ∧
        IsCrlf "port: 1\r\napi-keys:\r\n  - a".toList ∧ ¬ IsCrlf doc') ∧
      ∃ files' doc', (⟨lonePath⟩ : KeyStore).edit (.add "k".toList)
          (lone "port: 1\r\ndebug: true".toList) = .ok (.added "k".toList, files') ∧
        (⟨lonePath⟩ : KeyStore).document files' = .ok doc' ∧
        doc' = "port: 1\r\ndebug: true\n\r\napi-keys:\r\n  - \"k\"\r\n".toList ∧
        IsCrlf "port: 1\r\ndebug: true".toList ∧ ¬ IsCrlf doc' := by
  constructor
  · obtain ⟨files', hedit, hdoc'⟩ := exists_document_edit_lone
      "port: 1\r\napi-keys:\r\n  - a".toList (.add "k".toList) rfl rfl
    exact ⟨files', _, hedit, hdoc', by decide, by decide, by decide⟩
  · obtain ⟨files', hedit, hdoc'⟩ := exists_document_edit_lone
      "port: 1\r\ndebug: true".toList (.add "k".toList) rfl rfl
    exact ⟨files', _, hedit, hdoc', by decide, by decide, by decide⟩

end KeyStore
end ProxySteward
