import ProxySteward.Proofs.Config.ScannerLaws

/-!
# What a rewritten key section does to port and secret

The rows that an edit of the key list removes or inserts are the header, rows that can belong to a
section, and blank rows.  None of these gives a port, so the port stays (`port?_replace`).

For the secret the same holds as long as the scanner is outside of the management section.  But the
header of the key section is found at any indentation, and an indented one does not end the
management section; then the rows behind it, up to the next row that is not indented, are rows of
both sections.  A secret among them is removed with them.  `SectionHoldsSecret` says when this is
the secret that counts, and `secret?_replace_iff` that nothing else can happen to it.
-/

namespace ProxySteward
namespace ConfigDocument

open Text KeySection

variable {doc : Text} {rs : List KeyRecord} {row : Text} {inside : Bool}

/-! ## Rows without a port -/

theorem portValue?_eq_none (h : ∀ rest, row ≠ portFront ++ rest) : portValue? row = none := by
  rw [portValue?, Option.map_eq_none_iff]
  cases hrow : dropFront? portFront row with
  | none => rfl
  | some rest => exact absurd (dropFront?_eq_some.1 hrow) (h rest)

theorem portValue?_of_belongs (h : belongs row = true) : portValue? row = none := by
  refine portValue?_eq_none ?_
  rintro rest rfl
  have htrim : trim (portFront ++ rest) = 'p' :: trimEnd (['o', 'r', 't', ':'] ++ rest) :=
    trim_cons (by decide) _
  rw [belongs, isBlankRow, isComment, htrim] at h
  exact absurd h (by simp [isIndented, portFront])

theorem portValue?_of_isHeader (h : isHeader row = true) : portValue? row = none := by
  refine portValue?_eq_none ?_
  rintro rest rfl
  have htrim : trim (portFront ++ rest) = 'p' :: trimEnd (['o', 'r', 't', ':'] ++ rest) :=
    trim_cons (by decide) _
  rw [isHeader, htrim, beq_iff_eq] at h
  exact absurd (List.cons.inj h).1 (by decide)

theorem findSome?_portValue?_of_belongs {xs : List Text} (h : ∀ row ∈ xs, belongs row = true) :
    xs.findSome? portValue? = none :=
  List.findSome?_eq_none_iff.2 fun row hrow => portValue?_of_belongs (h row hrow)

/-! ## The rows of a section -/

theorem findSome?_portValue?_write : (write (rowEnd doc) rs).findSome? portValue? = none := by
  rw [write_eq, List.findSome?_cons, portValue?_of_isHeader (isHeader_headerRow_append doc)]
  exact findSome?_portValue?_of_belongs belongs_of_mem_map_write

/-- A header at the front of its row ends the management section. -/
theorem insideAfter_header {xs : List Text} (h : isHeader row = true) (hin : isIndented row = false)
    (hxs : ∀ row ∈ xs, belongs row = true) : insideAfter inside (row :: xs) = false := by
  have htrim : trim row = headerRow := by simpa [isHeader] using h
  have hb : belongs row = false := by
    rw [belongs, hin, isBlankRow, isComment, htrim]
    decide
  rw [insideAfter, hb, htrim, insideAfter_of_belongs hxs]
  rfl

/-- A header holds no secret, and if it stands at the front of its row, no row behind it does. -/
theorem secretFrom?_header {xs : List Text} (h : isHeader row = true) (hin : isIndented row = false)
    (hxs : ∀ row ∈ xs, belongs row = true) : secretFrom? inside (row :: xs) = none := by
  have htrim : trim row = headerRow := by simpa [isHeader] using h
  have hskip : (isBlankRow row || isComment row) = false := by
    rw [isBlankRow, isComment, htrim]
    decide
  rw [secretFrom?, hskip, hin, htrim]
  exact secretFrom?_false_of_belongs hxs

theorem secretFrom?_write : secretFrom? inside (write (rowEnd doc) rs) = none := by
  rw [write_eq]
  exact secretFrom?_header (isHeader_headerRow_append doc) rfl belongs_of_mem_map_write

theorem insideAfter_write : insideAfter inside (write (rowEnd doc) rs) = false := by
  rw [write_eq]
  exact insideAfter_header (isHeader_headerRow_append doc) rfl belongs_of_mem_map_write

/-! ## Blank rows -/

theorem secretFrom?_of_isBlankRow {xs : List Text} (h : ∀ row ∈ xs, isBlankRow row = true) :
    secretFrom? inside xs = none := by
  have hloose : ∀ row ∈ xs.takeWhile belongs, isLoose row = true := by
    intro row hrow
    rw [isLoose, h row ((List.takeWhile_prefix belongs).subset hrow)]
    rfl
  rw [secretFrom?_of_loose hloose inside false]
  exact secretFrom?_false_of_belongs fun row hrow => belongs_of_isBlankRow (h row hrow)

/-! ## The port -/

/-- **The port stays** when the key section is written. -/
theorem port?_replace (h : ∀ r ∈ rs, OnOneRow r) : port? (replace doc rs) = port? doc := by
  have hrows : (rows (replace doc rs)).findSome? portValue? = (rows doc).findSome? portValue? := by
    rw [rows_replace h, List.findSome?_append, List.findSome?_append, findSome?_portValue?_write,
      Option.or_none]
    cases hs : find? (rows doc) with
    | some s =>
      have hcut := isCut_of_find? hs
      rw [front, back, hs, ← find?_rows hs]
      simp only [List.findSome?_append, List.findSome?_cons,
        portValue?_of_isHeader hcut.header_opens,
        findSome?_portValue?_of_belongs hcut.body_belongs, Option.or_none]
    | none =>
      obtain ⟨base, gap, gap', hdoc, hfront, hblank⟩ := exists_padding hs
      have hnone : ∀ {xs : List Text}, (∀ row ∈ xs, row ∈ gap ++ gap') →
          xs.findSome? portValue? = none := fun hxs =>
        findSome?_portValue?_of_belongs
          fun row hrow => belongs_of_isBlankRow (hblank row (hxs row hrow))
      have hback : (back doc).findSome? portValue? = none := by
        rw [back, hs]
        rfl
      rw [hback, Option.or_none, hfront, hdoc, List.findSome?_append, List.findSome?_append,
        hnone fun row hrow => List.mem_append_left _ hrow,
        hnone fun row hrow => List.mem_append_right _ hrow]
  rw [port?_eq, port?_eq, hrows]

/-! ## The secret -/

/-- The secret is read from a row of the key section, and without that row it would be another
one. -/
def SectionHoldsSecret (doc : Text) : Prop :=
  ∃ s secret, find? (rows doc) = some s ∧ secretFrom? false s.before = none ∧
    secretFrom? false (s.before ++ s.header :: s.body) = some secret ∧
    secret ≠ (secretFrom? false s.after).getD []

/-- A header at the front of its row, as the proxy writes it, keeps the secret out of the
section. -/
theorem not_sectionHoldsSecret
    (h : (find? (rows doc)).any (fun s => isIndented s.header) = false) :
    ¬ SectionHoldsSecret doc := by
  rintro ⟨s, secret, hs, hbefore, hsecret, -⟩
  have hcut := isCut_of_find? hs
  have hin : isIndented s.header = false := by simpa [hs] using h
  rw [secretFrom?_append, hbefore,
    secretFrom?_header hcut.header_opens hin hcut.body_belongs] at hsecret
  exact absurd hsecret (by simp)

theorem secret?_of_find? {s : KeySection} (hs : find? (rows doc) = some s) :
    secret? doc =
      (secretFrom? false (s.before ++ s.header :: s.body)).or (secretFrom? false s.after) := by
  rw [secret?_eq, ← find?_rows hs, secretFrom?_append,
    secretFrom?_of_loose (isCut_of_find? hs).after_loose _ false]

theorem secret?_replace_of_find? {s : KeySection} (hs : find? (rows doc) = some s)
    (h : ∀ r ∈ rs, OnOneRow r) :
    secret? (replace doc rs) = (secretFrom? false s.before).or (secretFrom? false s.after) := by
  rw [secret?_eq, rows_replace h, front, back, hs, secretFrom?_append, secretFrom?_append,
    insideAfter_append, secretFrom?_write, insideAfter_write, Option.or_none]

theorem secret?_replace_of_find?_eq_none (hs : find? (rows doc) = none)
    (h : ∀ r ∈ rs, OnOneRow r) : secret? (replace doc rs) = secret? doc := by
  obtain ⟨base, gap, gap', hdoc, hfront, hblank⟩ := exists_padding hs
  have hgap : ∀ b, secretFrom? b gap = none := fun b =>
    secretFrom?_of_isBlankRow fun row hrow => hblank row (List.mem_append_left _ hrow)
  have hgap' : ∀ b, secretFrom? b gap' = none := fun b =>
    secretFrom?_of_isBlankRow fun row hrow => hblank row (List.mem_append_right _ hrow)
  have hback : secretFrom? false (back doc) = none := by
    rw [back, hs]
    rfl
  rw [secret?_eq, secret?_eq, rows_replace h, secretFrom?_append, secretFrom?_append,
    insideAfter_append, secretFrom?_write, insideAfter_write, hback, hfront, hdoc,
    secretFrom?_append, secretFrom?_append, hgap, hgap', Option.or_none, Option.or_none,
    Option.or_none]

/-- **The secret stays** exactly if the key section does not hold it. -/
theorem secret?_replace_iff (h : ∀ r ∈ rs, OnOneRow r) :
    (secret? (replace doc rs)).getD [] = (secret? doc).getD [] ↔ ¬ SectionHoldsSecret doc := by
  cases hs : find? (rows doc) with
  | none =>
    rw [secret?_replace_of_find?_eq_none hs h]
    refine iff_of_true rfl ?_
    rintro ⟨s, secret, hsome, -⟩
    exact absurd (hs.symm.trans hsome) (by simp)
  | some s =>
    have hiff : SectionHoldsSecret doc ↔ ∃ secret, secretFrom? false s.before = none ∧
        secretFrom? false (s.before ++ s.header :: s.body) = some secret ∧
        secret ≠ (secretFrom? false s.after).getD [] := by
      constructor
      · rintro ⟨s', secret, hs', hrest⟩
        rw [hs, Option.some.injEq] at hs'
        subst hs'
        exact ⟨secret, hrest⟩
      · rintro ⟨secret, hrest⟩
        exact ⟨s, secret, hs, hrest⟩
    rw [hiff, secret?_replace_of_find? hs h, secret?_of_find? hs]
    cases hbefore : secretFrom? false s.before with
    | some secret => simp [secretFrom?_append, hbefore]
    | none =>
      cases hbody : secretFrom? false (s.before ++ s.header :: s.body) with
      | none => simp
      | some secret =>
        rw [Option.none_or, Option.some_or, Option.getD_some]
        constructor
        · rintro heq ⟨secret', -, hsecret, hne⟩
          rw [Option.some.injEq] at hsecret
          exact hne (hsecret ▸ heq.symm)
        · intro hno
          by_contra hne
          exact hno ⟨secret, rfl, rfl, Ne.symm hne⟩

end ConfigDocument
end ProxySteward
