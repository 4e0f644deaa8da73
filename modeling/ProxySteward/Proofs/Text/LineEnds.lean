import ProxySteward.Proofs.Text.RowLaws

/-!
# Texts with two-character line ends

A text has the line ends of a CRLF file if every line feed in it stands behind a carriage return and
every carriage return in front of a line feed; `IsCrlf` says so position by position.

An edit works on the rows between the line feeds, where the carriage returns stand at the ends of
rows.  The whole row by row condition is `isCrlf_iff`: every row but the last one ends in its only
carriage return, and the last one holds none.  The last row is the one to watch.  A row that becomes
the last one has to lose its carriage return, and a last row that gets another one behind it has to
gain one.

`withReturns` gives a text without carriage returns these line ends, and changes its rows in nothing
else.
-/

namespace ProxySteward
namespace Text

variable {t u r : Text}

/-- The texts in which carriage returns and line feeds stand only together, as the two characters of
a line end. -/
structure IsCrlf (t : Text) : Prop where
  return_before : ∀ front rest, t = front ++ '\n' :: rest → front.getLast? = some '\r'
  newline_behind : ∀ front rest, t = front ++ '\r' :: rest → rest.head? = some '\n'

/-- The rows with a carriage return at the end and no other one. -/
def EndsInReturn (r : Text) : Prop := r.getLast? = some '\r' ∧ '\r' ∉ r.dropLast

instance : DecidablePred EndsInReturn := fun r =>
  inferInstanceAs (Decidable (r.getLast? = some '\r' ∧ '\r' ∉ r.dropLast))

theorem endsInReturn_concat (h : '\r' ∉ r) : EndsInReturn (r ++ ['\r']) := by
  rw [EndsInReturn, List.getLast?_concat, List.dropLast_concat]
  exact ⟨rfl, h⟩

/-- Such a row without its carriage return. -/
theorem EndsInReturn.return_not_mem_dropReturn (h : EndsInReturn r) : '\r' ∉ dropReturn r := by
  rw [dropReturn, if_pos h.1]
  exact h.2

theorem dropReturn_of_not_mem (h : '\r' ∉ r) : dropReturn r = r :=
  if_neg fun hlast => h (List.mem_of_mem_getLast? hlast)

/-! ## One row after the other -/

/-- The first row of a text with these line ends. -/
theorem IsCrlf.endsInReturn (h : IsCrlf (r ++ '\n' :: u)) (hr : '\n' ∉ r) : EndsInReturn r := by
  have hlast := h.return_before r u rfl
  refine ⟨hlast, fun hmem => ?_⟩
  obtain ⟨front, mid, hmid⟩ := List.append_of_mem hmem
  obtain ⟨hne, hend⟩ := List.mem_getLast?_eq_getLast (Option.mem_def.2 hlast)
  have hrow : r = front ++ '\r' :: (mid ++ ['\r']) := by
    conv_lhs => rw [← List.dropLast_append_getLast hne, ← hend, hmid]
    simp
  -- whatever stands behind the first carriage return is a character of the row
  have hhead := h.newline_behind front (mid ++ ['\r'] ++ '\n' :: u) (by rw [hrow]; simp)
  refine hr ?_
  cases mid with
  | nil => exact absurd hhead (by simp)
  | cons c mid =>
    rw [List.cons_append, List.cons_append, List.head?_cons, Option.some.injEq] at hhead
    rw [hrow, hhead]
    simp

theorem IsCrlf.behind (h : IsCrlf (r ++ '\n' :: u)) : IsCrlf u where
  return_before front rest hu := by
    have hlast := h.return_before (r ++ '\n' :: front) rest (by rw [hu]; simp)
    cases front with
    | nil => exact absurd hlast (by simp)
    | cons c front =>
      rwa [List.getLast?_append_of_ne_nil _ (List.cons_ne_nil _ _),
        List.getLast?_cons_cons] at hlast
  newline_behind front rest hu := h.newline_behind (r ++ '\n' :: front) rest (by rw [hu]; simp)

theorem EndsInReturn.isCrlf (hr : EndsInReturn r) (hline : '\n' ∉ r) (hu : IsCrlf u) :
    IsCrlf (r ++ '\n' :: u) where
  return_before front rest h := by
    rcases List.append_eq_append_iff.1 h with ⟨mid, rfl, hmid⟩ | ⟨mid, rfl, hmid⟩
    · cases mid with
      | nil => rw [List.append_nil]; exact hr.1
      | cons c mid =>
        obtain ⟨rfl, hu'⟩ := List.cons.inj hmid
        have hlast := hu.return_before mid rest hu'
        rw [List.getLast?_append_of_ne_nil _ (List.cons_ne_nil _ _), List.getLast?_cons, hlast]
        rfl
    · cases mid with
      | nil => rw [List.append_nil] at hr; exact hr.1
      | cons c mid =>
        obtain ⟨rfl, -⟩ := List.cons.inj hmid
        exact absurd (List.mem_append_right _ List.mem_cons_self) hline
  newline_behind front rest h := by
    rcases List.append_eq_append_iff.1 h with ⟨mid, rfl, hmid⟩ | ⟨mid, rfl, hmid⟩
    · cases mid with
      | nil => exact absurd (List.cons.inj hmid).1 (by decide)
      | cons c mid => exact hu.newline_behind mid rest (List.cons.inj hmid).2
    · cases mid with
      | nil => exact absurd (List.cons.inj hmid).1 (by decide)
      | cons c mid =>
        obtain ⟨rfl, rfl⟩ := List.cons.inj hmid
        cases mid with
        | nil => rfl
        | cons d mid =>
          -- a carriage return in front of the last character of the row
          refine absurd ?_ hr.2
          rw [List.dropLast_append_of_ne_nil (List.cons_ne_nil _ _), List.dropLast_cons_cons]
          simp

theorem isCrlf_append_cons_iff (h : '\n' ∉ r) :
    IsCrlf (r ++ '\n' :: u) ↔ EndsInReturn r ∧ IsCrlf u :=
  ⟨fun hc => ⟨hc.endsInReturn h, hc.behind⟩, fun hc => hc.1.isCrlf h hc.2⟩

/-- A single row has these line ends if it holds none of the two characters. -/
theorem isCrlf_iff_of_newline_not_mem (h : '\n' ∉ r) : IsCrlf r ↔ '\r' ∉ r := by
  constructor
  · intro hc hmem
    obtain ⟨front, rest, hr⟩ := List.append_of_mem hmem
    have hnext := List.mem_of_mem_head? (hc.newline_behind front rest hr)
    exact h (by rw [hr]; exact List.mem_append_right _ (List.mem_cons_of_mem _ hnext))
  · intro hno
    refine ⟨fun front rest hr => absurd ?_ h, fun front rest hr => absurd ?_ hno⟩ <;>
      exact hr ▸ List.mem_append_right _ List.mem_cons_self

/-! ## All rows -/

/-- Rows with a line feed between each two. -/
theorem isCrlf_joinRows_iff {rs : List Text} (h : ∀ row ∈ rs, '\n' ∉ row) :
    IsCrlf (joinRows rs) ↔
      (∀ row ∈ rs.dropLast, EndsInReturn row) ∧ ∀ row ∈ rs.getLast?, '\r' ∉ row := by
  induction rs with
  | nil => simpa [joinRows] using isCrlf_iff_of_newline_not_mem (r := []) List.not_mem_nil
  | cons row rs ih =>
    have hrow : '\n' ∉ row := h row List.mem_cons_self
    cases rs with
    | nil =>
      have hjoin : joinRows [row] = row := by simp [joinRows]
      rw [hjoin, isCrlf_iff_of_newline_not_mem hrow]
      simp
    | cons next rs =>
      have hjoin := joinRows_append (List.cons_ne_nil row []) (List.cons_ne_nil next rs)
      rw [show joinRows [row] = row by simp [joinRows], List.singleton_append] at hjoin
      rw [hjoin, isCrlf_append_cons_iff hrow, ih fun x hx => h x (List.mem_cons_of_mem row hx),
        List.dropLast_cons_cons, List.forall_mem_cons, List.getLast?_cons_cons, and_assoc]

/-- **Line ends by rows.**  Every row but the last one ends in its only carriage return, and the
last one holds none. -/
theorem isCrlf_iff (t : Text) :
    IsCrlf t ↔
      (∀ row ∈ (rows t).dropLast, EndsInReturn row) ∧
        ∀ row ∈ (rows t).getLast?, '\r' ∉ row := by
  rw [← isCrlf_joinRows_iff newline_not_mem_of_mem_rows, joinRows_rows]

instance : DecidablePred IsCrlf := fun t => decidable_of_iff' _ (isCrlf_iff t)

/-- In every row of such a text, a carriage return can only stand at the end. -/
theorem IsCrlf.return_not_mem_dropReturn (h : IsCrlf t) :
    ∀ row ∈ rows t, '\r' ∉ dropReturn row := by
  rw [isCrlf_iff] at h
  intro row hrow
  rw [← List.dropLast_append_getLast (rows_ne_nil t), List.mem_append, List.mem_singleton] at hrow
  rcases hrow with hrow | rfl
  · exact (h.1 row hrow).return_not_mem_dropReturn
  · have hlast := h.2 _ (List.getLast_mem_getLast? (rows_ne_nil t))
    rwa [dropReturn_of_not_mem hlast]

/-- A text with a line feed ends in one exactly if its last row is empty. -/
theorem getLast?_rows_iff (h : '\n' ∈ t) :
    (rows t).getLast? = some [] ↔ t.getLast? = some '\n' := by
  refine ⟨fun hlast => ?_, getLast?_rows⟩
  obtain ⟨init, hinit⟩ := List.getLast?_eq_some_iff.1 hlast
  have hjoin := joinRows_rows t
  rw [hinit] at hjoin
  have hne : init ≠ [] := by
    rintro rfl
    rw [← hjoin] at h
    exact absurd h (by decide)
  rw [← hjoin, joinRows_append hne (List.cons_ne_nil _ _)]
  exact List.getLast?_concat

/-! ## The same text with these line ends -/

/-- The text with a carriage return in front of every line feed. -/
def withReturns (t : Text) : Text := t.flatMap fun c => if c = '\n' then ['\r', '\n'] else [c]

theorem withReturns_of_newline_not_mem (h : '\n' ∉ r) : withReturns r = r := by
  induction r with
  | nil => rfl
  | cons c r ih =>
    rw [List.mem_cons, not_or] at h
    rw [withReturns, List.flatMap_cons, if_neg (Ne.symm h.1), ← withReturns, ih h.2]
    rfl

theorem withReturns_append_cons (u : Text) (h : '\n' ∉ r) :
    withReturns (r ++ '\n' :: u) = (r ++ ['\r']) ++ '\n' :: withReturns u := by
  have hfront := withReturns_of_newline_not_mem h
  rw [withReturns] at hfront ⊢
  rw [List.flatMap_append, hfront, List.flatMap_cons, if_pos rfl, ← withReturns]
  simp

/-- It has the line ends of a CRLF file. -/
theorem isCrlf_withReturns (h : '\r' ∉ t) : IsCrlf (withReturns t) := by
  induction t using induction_on_rows with
  | row r hr => rwa [withReturns_of_newline_not_mem hr, isCrlf_iff_of_newline_not_mem hr]
  | line r u hr ih =>
    rw [List.mem_append, List.mem_cons, not_or, not_or] at h
    rw [withReturns_append_cons u hr]
    exact (endsInReturn_concat h.1).isCrlf (by simpa using hr) (ih h.2.2)

/-- Its rows are those of the text, but for the carriage returns at their ends. -/
theorem map_dropReturn_rows_withReturns (h : '\r' ∉ t) :
    (rows (withReturns t)).map dropReturn = (rows t).map dropReturn := by
  induction t using induction_on_rows with
  | row r hr => rw [withReturns_of_newline_not_mem hr]
  | line r u hr ih =>
    rw [List.mem_append, List.mem_cons, not_or, not_or] at h
    rw [withReturns_append_cons u hr, rows_append_cons (by simpa using hr), rows_append_cons hr,
      List.map_cons, List.map_cons, dropReturn_concat, dropReturn_of_not_mem h.1, ih h.2.2]

end Text
end ProxySteward
