import ProxySteward.Key.Section
import ProxySteward.Proofs.Key.RowRoundTrip
import ProxySteward.Proofs.Text.RowLaws

/-!
# The cut at the key section

Rows can be divided in many ways into rows before a header, the header, a body and rows after it;
`IsCut` says which division the section is.  The conditions are on the parts alone, so they tell at
once what happens when the body is exchanged: as long as the new rows belong to a section and the
last of them is not loose, the new rows are cut at the same places (`find?_eq_some_iff`).

## Writing a section

A document is written as `front doc`, the new section, and `back doc`.  For a document without a
section, the front ends in a blank row and the back is the empty row behind the last line feed.  The
section found in the written document is the written one (`find?_rows_replace`), and so its records
are those that the written rows read as (`records_replace`).
-/

namespace ProxySteward
namespace KeySection

open Text

/-! ## Which division is the cut -/

/-- The divisions of rows that are the cut at the first section. -/
structure IsCut (s : KeySection) : Prop where
  before_plain : ∀ row ∈ s.before, isHeader row = false
  header_opens : isHeader s.header = true
  body_belongs : ∀ row ∈ s.body, belongs row = true
  body_ends : ∀ row ∈ s.body.getLast?, isLoose row = false
  after_loose : ∀ row ∈ s.after.takeWhile belongs, isLoose row = true

theorem find?_eq_none_iff {rs : List Text} :
    find? rs = none ↔ ∀ row ∈ rs, isHeader row = false := by
  unfold find?
  cases h : rs.dropWhile fun row => !isHeader row with
  | nil =>
    rw [List.dropWhile_eq_nil_iff] at h
    simpa using h
  | cons header rest =>
    have hhead := List.head?_dropWhile_not (fun row => !isHeader row) rs
    rw [h] at hhead
    have hmem : header ∈ rs :=
      (List.dropWhile_suffix fun row => !isHeader row).subset (h ▸ List.mem_cons_self)
    constructor
    · intro hnone
      exact absurd hnone (by simp)
    · intro hall
      rw [List.head?_cons] at hhead
      simp [hall header hmem] at hhead

/-- The parts of a cut that was found. -/
theorem isCut_of_find? {rs : List Text} {s : KeySection} (h : find? rs = some s) : IsCut s := by
  unfold find? at h
  split at h
  · exact absurd h (by simp)
  · next header rest hrest =>
    rw [← Option.some.inj h]
    have hhead := List.head?_dropWhile_not (fun row => !isHeader row) rs
    rw [hrest] at hhead
    have hbelongs : ∀ row ∈ rest.takeWhile belongs, belongs row = true :=
      fun row hrow => List.mem_takeWhile_imp hrow
    have hloose : ∀ row ∈ takeEndWhile isLoose (rest.takeWhile belongs), belongs row = true :=
      fun row hrow => hbelongs row ((List.rtakeWhile_suffix isLoose _).subset hrow)
    refine ⟨fun row hrow => by simpa using List.mem_takeWhile_imp hrow, by simpa using hhead,
      fun row hrow => hbelongs row ((dropEndWhile_prefix_self isLoose _).subset hrow),
      getLast?_dropEndWhile isLoose _, ?_⟩
    -- behind the loose rows stands a row that does not belong to the section
    intro row hrow
    have hstop : (rest.dropWhile belongs).takeWhile belongs = [] := by
      rw [List.takeWhile_eq_nil_iff]
      intro hpos
      have hfirst := List.head?_dropWhile_not belongs rest
      rw [List.head?_eq_getElem?, List.getElem?_eq_getElem hpos] at hfirst
      simpa using hfirst
    rw [List.takeWhile_append_of_pos hloose, hstop, List.append_nil] at hrow
    exact forall_mem_takeEndWhile isLoose _ row hrow

/-- **The cut.**  A section is found in rows exactly if the rows are its parts and these are divided
as `IsCut` says. -/
theorem find?_eq_some_iff {rs : List Text} {s : KeySection} :
    find? rs = some s ↔ s.before ++ s.header :: s.body ++ s.after = rs ∧ IsCut s := by
  constructor
  · intro h
    exact ⟨find?_rows h, isCut_of_find? h⟩
  · rintro ⟨rfl, hcut⟩
    have hplain : ∀ row ∈ s.before, (!isHeader row) = true := fun row hrow => by
      rw [hcut.before_plain row hrow]
      rfl
    have hstop : (!isHeader s.header) = false := by rw [hcut.header_opens]; rfl
    have hassoc : s.before ++ s.header :: s.body ++ s.after =
        s.before ++ s.header :: (s.body ++ s.after) := by simp
    have hdrop :
        (s.before ++ s.header :: (s.body ++ s.after)).dropWhile (fun row => !isHeader row) =
        s.header :: (s.body ++ s.after) := by
      rw [List.dropWhile_append_of_pos hplain, List.dropWhile_cons, hstop]
      rfl
    have htake :
        (s.before ++ s.header :: (s.body ++ s.after)).takeWhile (fun row => !isHeader row) =
        s.before := by
      rw [List.takeWhile_append_of_pos hplain, List.takeWhile_cons, hstop]
      simp
    have hbody : dropEndWhile isLoose (s.body ++ s.after.takeWhile belongs) = s.body := by
      rw [dropEndWhile_append_of_forall hcut.after_loose, dropEndWhile_eq_self_iff.2 hcut.body_ends]
    have hafter : takeEndWhile isLoose (s.body ++ s.after.takeWhile belongs) =
        s.after.takeWhile belongs :=
      takeEndWhile_append_of_forall hcut.after_loose hcut.body_ends
    rw [hassoc, find?, hdrop]
    dsimp only
    rw [htake, List.takeWhile_append_of_pos hcut.body_belongs,
      List.dropWhile_append_of_pos hcut.body_belongs, hbody, hafter,
      List.takeWhile_append_dropWhile]

/-! ## Around the section -/

/-- The rows of a document in front of a section that is appended to it. -/
def padded (rowEnd : Text) (rs : List Text) : List Text :=
  dropLastEmpty rs ++ match (dropLastEmpty rs).getLast? with
    | some row => if isBlankRow row then [] else [rowEnd]
    | none => []

/-- The rows in front of the section once it is written. -/
def front (doc : Text) : List Text :=
  match find? (rows doc) with
  | some s => s.before
  | none => padded (rowEnd doc) (rows doc)

/-- The rows behind the section once it is written. -/
def back (doc : Text) : List Text :=
  match find? (rows doc) with
  | some s => s.after
  | none => [[]]

theorem replace_eq (doc : Text) (rs : List KeyRecord) :
    replace doc rs = joinRows (front doc ++ write (rowEnd doc) rs ++ back doc) := by
  unfold replace front back
  cases find? (rows doc) with
  | none => rfl
  | some s => rfl

theorem rowEnd_eq (doc : Text) : rowEnd doc = [] ∨ rowEnd doc = ['\r'] := by
  unfold rowEnd
  split
  · exact Or.inr rfl
  · exact Or.inl rfl

theorem isBlank_of_mem_rowEnd {doc : Text} : ∀ c ∈ rowEnd doc, isBlank c = true := by
  rcases rowEnd_eq doc with h | h <;> rw [h] <;> exact List.all_eq_true.1 rfl

theorem newline_not_mem_rowEnd (doc : Text) : '\n' ∉ rowEnd doc := by
  rcases rowEnd_eq doc with h | h <;> rw [h] <;> decide

theorem isHeader_rowEnd (doc : Text) : isHeader (rowEnd doc) = false := by
  rcases rowEnd_eq doc with h | h <;> rw [h] <;> decide

theorem isHeader_headerRow_append (doc : Text) : isHeader (headerRow ++ rowEnd doc) = true := by
  rcases rowEnd_eq doc with h | h <;> rw [h] <;> decide

theorem mem_of_mem_dropLastEmpty {row : Text} {rs : List Text} (h : row ∈ dropLastEmpty rs) :
    row ∈ rs := by
  unfold dropLastEmpty at h
  split at h
  · exact List.mem_of_mem_dropLast h
  · exact h

theorem mem_padded {row end' : Text} {rs : List Text} (h : row ∈ padded end' rs) :
    row ∈ rs ∨ row = end' := by
  rw [padded, List.mem_append] at h
  rcases h with h | h
  · exact Or.inl (mem_of_mem_dropLastEmpty h)
  · split at h
    · split at h
      · exact absurd h List.not_mem_nil
      · exact Or.inr (List.mem_singleton.1 h)
    · exact absurd h List.not_mem_nil

theorem mem_front {doc row : Text} (h : row ∈ front doc) :
    row ∈ rows doc ∨ row = rowEnd doc := by
  unfold front at h
  split at h
  · next s hs =>
    rw [← find?_rows hs]
    exact Or.inl (List.mem_append_left _ (List.mem_append_left _ h))
  · exact mem_padded h

theorem mem_back {doc row : Text} (h : row ∈ back doc) : row ∈ rows doc ∨ row = [] := by
  unfold back at h
  split at h
  · next s hs =>
    rw [← find?_rows hs]
    exact Or.inl (List.mem_append_right _ h)
  · exact Or.inr (List.mem_singleton.1 h)

theorem isHeader_of_mem_front {doc row : Text} (h : row ∈ front doc) : isHeader row = false := by
  cases hs : find? (rows doc) with
  | some s =>
    rw [front, hs] at h
    exact (isCut_of_find? hs).before_plain row h
  | none =>
    rcases mem_front h with h | rfl
    · exact find?_eq_none_iff.1 hs row h
    · exact isHeader_rowEnd doc

theorem isLoose_of_mem_back {doc row : Text} (h : row ∈ (back doc).takeWhile belongs) :
    isLoose row = true := by
  cases hs : find? (rows doc) with
  | some s =>
    rw [back, hs] at h
    exact (isCut_of_find? hs).after_loose row h
  | none =>
    rw [back, hs] at h
    rw [List.mem_singleton.1 ((List.takeWhile_prefix belongs).subset h)]
    decide

/-- Without a section, the rows of a document and the rows in front of an appended section differ in
blank rows at the end only. -/
theorem exists_padding {doc : Text} (h : find? (rows doc) = none) :
    ∃ base gap gap', rows doc = base ++ gap ∧ front doc = base ++ gap' ∧
      ∀ row ∈ gap ++ gap', isBlankRow row = true := by
  have hend : isBlankRow (rowEnd doc) = true := by
    rcases rowEnd_eq doc with h | h <;> rw [h] <;> decide
  obtain ⟨gap, hgap, hrows⟩ : ∃ gap : List Text, (∀ row ∈ gap, isBlankRow row = true) ∧
      rows doc = dropLastEmpty (rows doc) ++ gap := by
    unfold dropLastEmpty
    split
    · next hlast =>
      obtain ⟨hne, hlast⟩ := List.mem_getLast?_eq_getLast (Option.mem_def.2 hlast)
      refine ⟨[[]], by decide, ?_⟩
      conv_lhs => rw [← List.dropLast_append_getLast hne, ← hlast]
    · exact ⟨[], by simp, (List.append_nil _).symm⟩
  rw [front, h]
  refine ⟨dropLastEmpty (rows doc), gap, _, hrows, rfl, ?_⟩
  intro row hrow
  rcases List.mem_append.1 hrow with hrow | hrow
  · exact hgap row hrow
  · split at hrow
    · split at hrow
      · exact absurd hrow List.not_mem_nil
      · rw [List.mem_singleton.1 hrow]
        exact hend
    · exact absurd hrow List.not_mem_nil

theorem belongs_of_isBlankRow {row : Text} (h : isBlankRow row = true) : belongs row = true := by
  rw [belongs, h]
  simp

/-! ## Rows of records -/

/-- The records that do not hold a character. -/
def Lacks (c : Char) (r : KeyRecord) : Prop := c ∉ r.key ∧ c ∉ r.note

/-- The records whose row is one row. -/
def OnOneRow (r : KeyRecord) : Prop := '\n' ∉ r.key ∧ '\n' ∉ r.note

theorem not_mem_write {c : Char} {r : KeyRecord} (h : Lacks c r)
    (hc : c ∉ ' ' :: '-' :: '"' :: '#' :: KeyRecord.marker) : c ∉ KeyRow.write r := by
  intro hmem
  rcases KeyRow.mem_of_mem_write hmem with hkey | hnote | hfixed
  · exact h.1 hkey
  · exact h.2 hnote
  · exact hc hfixed

theorem newline_not_mem_write {r : KeyRecord} (h : OnOneRow r) : '\n' ∉ KeyRow.write r :=
  not_mem_write h (by decide)

theorem belongs_write (r : KeyRecord) (s : Text) : belongs (KeyRow.write r ++ s) = true := by
  rw [KeyRow.write_eq]
  rfl

theorem belongs_of_mem_map_write {rs : List KeyRecord} {rowEnd : Text} :
    ∀ row ∈ rs.map (fun r => KeyRow.write r ++ rowEnd), belongs row = true := by
  intro row hrow
  obtain ⟨r, -, rfl⟩ := List.mem_map.1 hrow
  exact belongs_write r rowEnd

theorem isLoose_write (r : KeyRecord) {s : Text} (hs : ∀ c ∈ s, isBlank c = true) :
    isLoose (KeyRow.write r ++ s) = false := by
  rw [isLoose, isBlankRow, isComment, KeyRow.trim_write_append r hs]
  rfl

/-- A record that was loaded was read from a row of the document. -/
theorem exists_row_of_mem_records {doc : Text} {r : KeyRecord} (h : r ∈ records doc) :
    ∃ row ∈ rows doc, KeyRow.read? row = some r := by
  unfold records at h
  split at h
  · next s hs =>
    obtain ⟨row, hrow, hread⟩ := List.mem_filterMap.1 h
    refine ⟨row, ?_, hread⟩
    rw [← find?_rows hs]
    exact List.mem_append_left _ (List.mem_append_right _ (List.mem_cons_of_mem _ hrow))
  · exact absurd h List.not_mem_nil

theorem onOneRow_of_mem_records {doc : Text} : ∀ r ∈ records doc, OnOneRow r := by
  intro r hr
  obtain ⟨row, hrow, hread⟩ := exists_row_of_mem_records hr
  have hline := newline_not_mem_of_mem_rows row hrow
  exact ⟨fun h => hline (KeyRow.mem_row_of_read? hread (Or.inl h)),
    fun h => hline (KeyRow.mem_row_of_read? hread (Or.inr h))⟩

theorem records_eq_nil_of_no_header {doc : Text} (h : ∀ row ∈ rows doc, isHeader row = false) :
    records doc = [] := by
  rw [records, find?_eq_none_iff.2 h]

/-! ## The written document -/

theorem write_eq (end' : Text) (rs : List KeyRecord) :
    write end' rs = (headerRow ++ end') :: rs.map fun r => KeyRow.write r ++ end' := by
  rw [write, List.map_cons, List.map_map]
  rfl

theorem newline_not_mem_of_mem_write {end' : Text} {rs : List KeyRecord} (hend : '\n' ∉ end')
    (h : ∀ r ∈ rs, OnOneRow r) : ∀ row ∈ write end' rs, '\n' ∉ row := by
  intro row hrow
  rw [write_eq, List.mem_cons, List.mem_map] at hrow
  rcases hrow with rfl | ⟨r, hr, rfl⟩
  · rw [List.mem_append, not_or]
    exact ⟨by decide, hend⟩
  · rw [List.mem_append, not_or]
    exact ⟨newline_not_mem_write (h r hr), hend⟩

theorem rows_replace {doc : Text} {rs : List KeyRecord} (h : ∀ r ∈ rs, OnOneRow r) :
    rows (replace doc rs) = front doc ++ write (rowEnd doc) rs ++ back doc := by
  have hend := newline_not_mem_rowEnd doc
  rw [replace_eq, rows_joinRows]
  · intro row hrow
    rw [List.mem_append, List.mem_append] at hrow
    rcases hrow with (hrow | hrow) | hrow
    · rcases mem_front hrow with hrow | rfl
      · exact newline_not_mem_of_mem_rows row hrow
      · exact hend
    · exact newline_not_mem_of_mem_write hend h row hrow
    · rcases mem_back hrow with hrow | rfl
      · exact newline_not_mem_of_mem_rows row hrow
      · exact List.not_mem_nil
  · simp [write_eq]

/-- **The section of a written document** is the one that was written, and it stands where the
section stood before. -/
theorem find?_rows_replace {doc : Text} {rs : List KeyRecord} (h : ∀ r ∈ rs, OnOneRow r) :
    find? (rows (replace doc rs)) =
      some ⟨front doc, headerRow ++ rowEnd doc, rs.map fun r => KeyRow.write r ++ rowEnd doc,
        back doc⟩ := by
  rw [find?_eq_some_iff, rows_replace h, write_eq]
  refine ⟨rfl, fun _ => isHeader_of_mem_front, isHeader_headerRow_append doc,
    belongs_of_mem_map_write, ?_, fun _ => isLoose_of_mem_back⟩
  intro row hrow
  obtain ⟨r, -, rfl⟩ := List.mem_map.1 (List.mem_of_mem_getLast? hrow)
  exact isLoose_write r isBlank_of_mem_rowEnd

/-- **The records of a written document** are what the written rows read as. -/
theorem records_replace {doc : Text} {rs : List KeyRecord} (h : ∀ r ∈ rs, OnOneRow r) :
    records (replace doc rs) = rs.filterMap fun r => KeyRow.read? (KeyRow.write r) := by
  rw [records, find?_rows_replace h]
  dsimp only
  rw [List.filterMap_map]
  refine List.filterMap_congr fun r _ => ?_
  exact KeyRow.read?_write_append r isBlank_of_mem_rowEnd

end KeySection
end ProxySteward
