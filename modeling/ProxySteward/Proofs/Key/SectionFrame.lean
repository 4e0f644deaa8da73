import ProxySteward.Proofs.Key.StoreLaws

/-!
# What an edit leaves alone

An edit of the key list writes one section and nothing else.  Two things are to be said for that:
where the section begins and ends, without mentioning how it is searched for (`IsDivision`), and
that the rows on both sides come out of the edit as they went in (`edit_leaves_rest`).

A document without a section gets one at its end, behind everything that it held before
(`prefix_replace`).

## Rows at the top level

The section takes indented rows, blank rows and comments only.  So all rows that start a part of the
document, be it in front of the section or behind it, are still there afterwards, in their order and
without a character changed; `topRows` lists them.
-/

namespace ProxySteward
namespace KeySection

open Text

variable {doc : Text} {rs : List KeyRecord}

/-! ## Divisions -/

/-- The rows of a document, divided at its key section: the rows in front of the first header, the
header, the section, the blank rows and plain comments behind it, and everything from the first
later row on that is neither indented nor blank nor a comment. -/
structure IsDivision (rs before : List Text) (header : Text) (body loose rest : List Text) :
    Prop where
  rows_eq : before ++ header :: body ++ (loose ++ rest) = rs
  before_plain : ∀ row ∈ before, trim row ≠ headerRow
  header_opens : trim header = headerRow
  body_belongs : ∀ row ∈ body, belongs row = true
  /-- A section does not end in a blank row or in a comment without a record. -/
  body_ends : ∀ row ∈ body.getLast?, isLoose row = false
  loose_belongs : ∀ row ∈ loose, belongs row = true
  loose_loose : ∀ row ∈ loose, isLoose row = true
  rest_starts : ∀ row ∈ rest.head?, belongs row = false

theorem isHeader_iff {row : Text} : isHeader row = true ↔ trim row = headerRow := by
  rw [isHeader, beq_iff_eq]

theorem isHeader_eq_false_iff {row : Text} : isHeader row = false ↔ trim row ≠ headerRow := by
  rw [← Bool.not_eq_true, isHeader_iff]

theorem takeWhile_belongs_append {loose rest : List Text}
    (hloose : ∀ row ∈ loose, belongs row = true)
    (hrest : ∀ row ∈ rest.head?, belongs row = false) :
    (loose ++ rest).takeWhile belongs = loose := by
  rw [List.takeWhile_append_of_pos hloose]
  cases rest with
  | nil => simp
  | cons row rest =>
    have hrow : belongs row = false := hrest row rfl
    rw [List.takeWhile_cons, hrow]
    simp

/-- A document has one division only, the one that is searched for. -/
theorem IsDivision.find?_eq {xs before body loose rest : List Text} {header : Text}
    (h : IsDivision xs before header body loose rest) :
    find? xs = some ⟨before, header, body, loose ++ rest⟩ := by
  rw [find?_eq_some_iff]
  refine ⟨h.rows_eq, fun row hrow => isHeader_eq_false_iff.2 (h.before_plain row hrow),
    isHeader_iff.2 h.header_opens, h.body_belongs, h.body_ends, fun row hrow => ?_⟩
  rw [takeWhile_belongs_append h.loose_belongs h.rest_starts] at hrow
  exact h.loose_loose row hrow

/-- Rows with a header have a division. -/
theorem exists_isDivision {xs : List Text} (h : ∃ row ∈ xs, trim row = headerRow) :
    ∃ before header body loose rest, IsDivision xs before header body loose rest := by
  obtain ⟨row, hrow, hheader⟩ := h
  cases hs : find? xs with
  | none =>
    have hplain := find?_eq_none_iff.1 hs row hrow
    exact absurd hheader (isHeader_eq_false_iff.1 hplain)
  | some s =>
    have hcut := isCut_of_find? hs
    refine ⟨s.before, s.header, s.body, s.after.takeWhile belongs, s.after.dropWhile belongs, ?_,
      fun row hrow => isHeader_eq_false_iff.1 (hcut.before_plain row hrow),
      isHeader_iff.1 hcut.header_opens, hcut.body_belongs, hcut.body_ends,
      fun row hrow => List.mem_takeWhile_imp hrow, hcut.after_loose, fun row hrow => ?_⟩
    · rw [List.takeWhile_append_dropWhile]
      exact find?_rows hs
    · have hfirst := List.head?_dropWhile_not belongs s.after
      rw [Option.mem_def.1 hrow] at hfirst
      exact hfirst

/-- The rows of a written document with a section. -/
theorem rows_replace_of_isDivision {before body loose rest : List Text} {header : Text}
    (h : IsDivision (rows doc) before header body loose rest) (hrs : ∀ r ∈ rs, OnOneRow r) :
    rows (replace doc rs) = before ++ write (rowEnd doc) rs ++ (loose ++ rest) := by
  rw [rows_replace hrs, front, back, h.find?_eq]

/-! ## Documents without a section -/

/-- **A new section comes last**: the text of a document without a section is the beginning of the
written one. -/
theorem prefix_replace (h : ∀ row ∈ rows doc, trim row ≠ headerRow) (rs : List KeyRecord) :
    doc <+: replace doc rs := by
  have hfind : find? (rows doc) = none :=
    find?_eq_none_iff.2 fun row hrow => isHeader_eq_false_iff.2 (h row hrow)
  -- the rows that are kept, and whatever is written behind them
  obtain ⟨written, hwritten, hne⟩ : ∃ written, replace doc rs =
      joinRows (dropLastEmpty (rows doc) ++ written) ∧ written ≠ [] := by
    rw [replace_eq, front, hfind, padded, List.append_assoc, List.append_assoc]
    exact ⟨_, rfl, by simp [write_eq]⟩
  rw [hwritten]
  unfold dropLastEmpty
  split
  · next hlast =>
    obtain ⟨hrows, hlast⟩ := List.mem_getLast?_eq_getLast (Option.mem_def.2 hlast)
    have hdoc : doc = joinRows ((rows doc).dropLast ++ [[]]) := by
      rw [hlast, List.dropLast_append_getLast hrows, joinRows_rows]
    by_cases hinit : (rows doc).dropLast = []
    · rw [hinit] at hdoc
      rw [hdoc]
      exact List.nil_prefix
    · conv_lhs => rw [hdoc]
      rw [joinRows_append hinit (List.cons_ne_nil _ _), joinRows_append hinit hne]
      exact ⟨joinRows written, by simp [joinRows]⟩
  · rw [joinRows_append (rows_ne_nil doc) hne, joinRows_rows]
    exact List.prefix_append _ _

/-! ## Rows at the top level -/

/-- The rows of a document that are neither indented nor blank nor comments, without the header of
the key section. -/
def topRows (doc : Text) : List Text :=
  ((rows doc).eraseP isHeader).filter fun row => !belongs row

theorem filter_belongs_eq_nil {xs : List Text} (h : ∀ row ∈ xs, belongs row = true) :
    xs.filter (fun row => !belongs row) = [] := by
  rw [List.filter_eq_nil_iff]
  intro row hrow
  simp [h row hrow]

theorem eraseP_isHeader {before after : List Text} {header : Text}
    (hbefore : ∀ row ∈ before, isHeader row = false) (hheader : isHeader header = true) :
    (before ++ header :: after).eraseP isHeader = before ++ after := by
  rw [List.eraseP_append_right _ fun row hrow => by simp [hbefore row hrow],
    List.eraseP_cons_of_pos hheader]

/-- A section adds nothing to the top level. -/
theorem topRows_of_rows {before body after : List Text} {header : Text}
    (hrows : rows doc = before ++ header :: body ++ after)
    (hbefore : ∀ row ∈ before, isHeader row = false) (hheader : isHeader header = true)
    (hbody : ∀ row ∈ body, belongs row = true) :
    topRows doc = before.filter (fun row => !belongs row) ++
      after.filter fun row => !belongs row := by
  rw [topRows, hrows, List.append_assoc, List.cons_append, eraseP_isHeader hbefore hheader,
    List.filter_append, List.filter_append, filter_belongs_eq_nil hbody, List.nil_append]

/-- **The top level stays** when the key section is written. -/
theorem topRows_replace (h : ∀ r ∈ rs, OnOneRow r) :
    topRows (replace doc rs) = topRows doc := by
  have hwritten : rows (replace doc rs) = front doc ++
      (headerRow ++ rowEnd doc) :: (rs.map fun r => KeyRow.write r ++ rowEnd doc) ++ back doc := by
    rw [rows_replace h, write_eq]
  rw [topRows_of_rows hwritten (fun _ => isHeader_of_mem_front) (isHeader_headerRow_append doc)
    belongs_of_mem_map_write]
  cases hs : find? (rows doc) with
  | some s =>
    have hcut := isCut_of_find? hs
    rw [topRows_of_rows (find?_rows hs).symm hcut.before_plain hcut.header_opens hcut.body_belongs,
      front, back, hs]
  | none =>
    obtain ⟨base, gap, gap', hdoc, hfront, hblank⟩ := exists_padding hs
    have hgap : ∀ row ∈ gap ++ gap', belongs row = true :=
      fun row hrow => belongs_of_isBlankRow (hblank row hrow)
    have hplain : ∀ row ∈ rows doc, ¬ isHeader row = true :=
      fun row hrow => by simp [find?_eq_none_iff.1 hs row hrow]
    have hback : (back doc).filter (fun row => !belongs row) = [] := by
      rw [back, hs]
      rfl
    rw [topRows, List.eraseP_of_forall_not hplain, hdoc, hfront, hback, List.append_nil,
      List.filter_append, List.filter_append,
      filter_belongs_eq_nil fun row hrow => hgap row (List.mem_append_left _ hrow),
      filter_belongs_eq_nil fun row hrow => hgap row (List.mem_append_right _ hrow)]

end KeySection

/-! ## Edits -/

namespace KeyStore

open Text FileTree KeySection

variable {s : KeyStore} {files files' : FileTree} {doc : Text} {e : KeyEdit} {answer : KeyAnswer}

/-- An edit that reports a change writes the edited list into the document. -/
theorem document_of_edit (hdoc : s.document files = .ok doc)
    (hedit : s.edit e files = .ok (answer, files')) (hchange : answer.isChange = true) :
    ∃ rs, e.onRecords (KeySection.records doc) = .ok (answer, rs) ∧
      (∀ r ∈ rs, OnOneRow r) ∧ s.document files' = .ok (replace doc rs) := by
  obtain ⟨l, content, mode, h⟩ := readText_eq_ok_iff.1 (document_eq_ok_iff.1 hdoc)
  rw [edit_eq h] at hedit
  cases htext : editDocument e doc with
  | error f =>
    rw [htext] at hedit
    exact absurd hedit (by simp [Except.map])
  | ok result =>
    obtain ⟨answer', doc'⟩ := result
    rw [htext] at hedit
    obtain ⟨rfl, rfl⟩ := Prod.mk.inj (Except.ok.inj hedit)
    obtain ⟨rs, hrs, hdoc'⟩ := editDocument_eq_ok_iff.1 htext
    rw [if_pos hchange] at hdoc'
    refine ⟨rs, hrs, KeyEdit.isStable_onOneRow.onRecords hrs onOneRow_of_mem_records, ?_⟩
    rw [if_pos hchange, ← hdoc', document_eq_ok_iff]
    exact (h.put_self doc').readText

/-- **An edit touches only the key section.**  Take an edit that rewrites a document.

* Without a header, the bytes of the old text are the first bytes of the new one.
* With a header, there is a division of the rows, and for every division the rows in front of the
  header and those behind the section are the same before and after; between them stands the section
  with the new list.
* The rows at the top level are the same, in the same order. -/
theorem edit_leaves_rest (s : KeyStore) (files files' : FileTree) (doc : Text) (e : KeyEdit)
    (answer : KeyAnswer) (hdoc : s.document files = .ok doc)
    (hedit : s.edit e files = .ok (answer, files')) (hchange : answer.isChange = true) :
    ∃ doc' rs, s.document files' = .ok doc' ∧
      e.onRecords (KeySection.records doc) = .ok (answer, rs) ∧
      ((∀ row ∈ rows doc, trim row ≠ headerRow) → encode doc <+: encode doc') ∧
      ((∃ row ∈ rows doc, trim row = headerRow) →
        (∃ before header body loose rest, IsDivision (rows doc) before header body loose rest) ∧
        ∀ before header body loose rest, IsDivision (rows doc) before header body loose rest →
          rows doc' = before ++ write (rowEnd doc) rs ++ (loose ++ rest)) ∧
      topRows doc' = topRows doc := by
  obtain ⟨rs, hrs, hrow, hdoc'⟩ := document_of_edit hdoc hedit hchange
  refine ⟨replace doc rs, rs, hdoc', hrs,
    fun hplain => ?_, fun hheader => ?_, topRows_replace hrow⟩
  · obtain ⟨written, hwritten⟩ := prefix_replace hplain rs
    rw [← hwritten, encode, encode, List.flatMap_append]
    exact List.prefix_append _ _
  · refine ⟨exists_isDivision hheader, fun before header body loose rest h => ?_⟩
    exact rows_replace_of_isDivision h hrow

/-- A key that is added between two other parts of a document, with a comment that belongs to the
second one. -/
theorem edit_leaves_rest_lone :
    let doc := "port: 1\napi-keys:\n  - a\n\n# b\nc: 2\n".toList
    let s : KeyStore := ⟨lonePath⟩
    ∃ files' doc', s.edit (.add "k".toList) (lone doc) = .ok (.added "k".toList, files') ∧
      s.document files' = .ok doc' ∧
      doc' = "port: 1\napi-keys:\n  - \"a\"\n  - \"k\"\n\n# b\nc: 2\n".toList ∧
      topRows doc' = ["port: 1".toList, "c: 2".toList] := by
  intro doc s
  have hdoc : s.document (lone doc) = .ok doc :=
    document_eq_ok_iff.2 (holdsText_lone doc).readText
  have hlist : (KeyEdit.add "k".toList).onRecords (KeySection.records doc) =
      .ok (.added "k".toList, [⟨"a".toList, [], true⟩, ⟨"k".toList, [], true⟩]) := by decide
  obtain ⟨files', hedit⟩ := exists_edit_eq_ok hdoc hlist
  obtain ⟨doc', rs, hdoc', hrs, -, hheader, htop⟩ :=
    edit_leaves_rest s (lone doc) files' doc _ _ hdoc hedit rfl
  have hrecords : rs = [⟨"a".toList, [], true⟩, ⟨"k".toList, [], true⟩] :=
    (Prod.mk.inj (Except.ok.inj (hrs.symm.trans hlist))).2
  have hdivision : IsDivision (rows doc) ["port: 1".toList] "api-keys:".toList ["  - a".toList]
      [[], "# b".toList] ["c: 2".toList, []] := by
    constructor <;> decide
  have hrows := (hheader ⟨headerRow, by decide, by decide⟩).2 _ _ _ _ _ hdivision
  refine ⟨files', doc', hedit, hdoc', ?_, htop.trans (by decide)⟩
  rw [← joinRows_rows doc', hrows, hrecords]
  decide

end KeyStore
end ProxySteward
