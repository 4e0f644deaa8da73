import ProxySteward.Text.Rows
import ProxySteward.Proofs.Text.Fragments
import ProxySteward.Proofs.Text.Trim

/-!
# Rows of a document

A document is its rows joined by line feeds, and a row holds none (`newline_not_mem_of_mem_rows`).
The lines that a reader sees differ from the rows in two ways only: a carriage return at the end may
be missing, which trimming does not see (`trim_dropReturn`), and so may an empty row at the end.
-/

namespace ProxySteward
namespace Text

theorem rows_ne_nil (t : Text) : rows t ≠ [] := List.splitOn_ne_nil '\n' t

theorem newline_not_mem_of_mem_rows {t : Text} : ∀ r ∈ rows t, '\n' ∉ r := by
  induction t with
  | nil =>
    intro r hr
    rw [rows, List.splitOn_nil, List.mem_singleton] at hr
    rw [hr]
    exact List.not_mem_nil
  | cons c t ih =>
    intro r hr
    rw [rows, List.splitOn_eq_splitOnP, List.splitOnP_cons_eq_if_modifyHead,
      ← List.splitOn_eq_splitOnP, ← rows] at hr
    split at hr
    · rw [List.mem_cons] at hr
      rcases hr with rfl | hr
      · exact List.not_mem_nil
      · exact ih r hr
    · next hc =>
      -- the first row grows by `c`, the others stay
      obtain ⟨first, rest, hrows⟩ := List.exists_cons_of_ne_nil (rows_ne_nil t)
      rw [hrows, List.modifyHead_cons, List.mem_cons] at hr
      rw [hrows] at ih
      rcases hr with rfl | hr
      · rw [List.mem_cons, not_or]
        exact ⟨fun h => hc (by rw [← h]; decide), ih first List.mem_cons_self⟩
      · exact ih r (List.mem_cons_of_mem first hr)

theorem joinRows_append {xs ys : List Text} (hxs : xs ≠ []) (hys : ys ≠ []) :
    joinRows (xs ++ ys) = joinRows xs ++ '\n' :: joinRows ys := by
  induction xs with
  | nil => exact absurd rfl hxs
  | cons x xs ih =>
    cases xs with
    | nil =>
      obtain ⟨y, ys, rfl⟩ := List.exists_cons_of_ne_nil hys
      simp [joinRows]
    | cons x' xs =>
      have hcons : ∀ zs, joinRows (x :: x' :: zs) = x ++ '\n' :: joinRows (x' :: zs) := by
        intro zs
        rw [joinRows, List.intercalate_cons_cons, ← joinRows, List.append_assoc,
          List.singleton_append]
      have h := ih (List.cons_ne_nil x' xs)
      rw [List.cons_append] at h
      rw [List.cons_append, List.cons_append, hcons, h, hcons, List.append_assoc, List.cons_append]

/-- A last line feed leaves an empty row behind it. -/
theorem getLast?_rows {t : Text} (h : t.getLast? = some '\n') : (rows t).getLast? = some [] := by
  obtain ⟨front, rfl⟩ := List.getLast?_eq_some_iff.1 h
  have hjoin : front ++ ['\n'] = joinRows (rows front ++ [[]]) := by
    rw [joinRows_append (rows_ne_nil front) (List.cons_ne_nil _ _), joinRows_rows]
    rfl
  rw [hjoin, rows_joinRows ?_ (by simp), List.getLast?_concat]
  intro r hr
  rcases List.mem_append.1 hr with hr | hr
  · exact newline_not_mem_of_mem_rows r hr
  · rw [List.mem_singleton.1 hr]
    exact List.not_mem_nil

/-! ## Row by row -/

theorem rows_append_cons {r u : Text} (h : '\n' ∉ r) : rows (r ++ '\n' :: u) = r :: rows u := by
  have hjoin : r ++ '\n' :: u = joinRows (r :: rows u) := by
    have happend := joinRows_append (List.cons_ne_nil r []) (rows_ne_nil u)
    rw [List.singleton_append, joinRows_rows] at happend
    rw [happend]
    simp [joinRows]
  rw [hjoin]
  refine rows_joinRows (fun row hrow => ?_) (List.cons_ne_nil _ _)
  rcases List.mem_cons.1 hrow with rfl | hrow
  · exact h
  · exact newline_not_mem_of_mem_rows row hrow

/-- **Reading a text row by row.**  What holds of a text without a line feed, and of such a text in
front of a line feed and a text for which it holds, holds of every text. -/
theorem induction_on_rows {motive : Text → Prop} (row : ∀ r, '\n' ∉ r → motive r)
    (line : ∀ r u, '\n' ∉ r → motive u → motive (r ++ '\n' :: u)) : ∀ t, motive t := by
  intro t
  induction hrows : rows t generalizing t with
  | nil => exact absurd hrows (rows_ne_nil t)
  | cons r rs ih =>
    have hr : '\n' ∉ r := newline_not_mem_of_mem_rows r (hrows ▸ List.mem_cons_self)
    have ht : joinRows (r :: rs) = t := hrows ▸ joinRows_rows t
    cases rs with
    | nil =>
      rw [← ht]
      simpa [joinRows] using row r hr
    | cons r' rs =>
      have hrest : ∀ r ∈ r' :: rs, '\n' ∉ r := fun x hx =>
        newline_not_mem_of_mem_rows x (hrows ▸ List.mem_cons_of_mem r hx)
      have happend := joinRows_append (List.cons_ne_nil r []) (List.cons_ne_nil r' rs)
      rw [List.singleton_append, ht] at happend
      rw [happend, show joinRows [r] = r by simp [joinRows]]
      exact line r _ hr (ih _ (rows_joinRows hrest (List.cons_ne_nil _ _)))

/-! ## Carriage returns -/

theorem dropReturn_eq (r : Text) : dropReturn r = r ∨ r = dropReturn r ++ ['\r'] := by
  unfold dropReturn
  split
  · next h =>
    obtain ⟨hne, hlast⟩ := List.mem_getLast?_eq_getLast (Option.mem_def.2 h)
    refine Or.inr ?_
    rw [hlast, List.dropLast_append_getLast hne]
  · exact Or.inl rfl

theorem dropReturn_concat (r : Text) : dropReturn (r ++ ['\r']) = r := by
  rw [dropReturn, if_pos List.getLast?_concat, List.dropLast_concat]

/-- Trimming does not see the carriage return at the end of a row. -/
theorem trim_dropReturn (r : Text) : trim (dropReturn r) = trim r := by
  rcases dropReturn_eq r with h | h
  · rw [h]
  · conv_rhs => rw [h, trim_append_blanks (List.all_eq_true.1 rfl)]

theorem crlf_infix_append_cons {r rest : Text} (h : '\n' ∉ r) :
    ['\r', '\n'] <:+: r ++ '\n' :: rest ↔ r.getLast? = some '\r' ∨ ['\r', '\n'] <:+: rest := by
  induction r with
  | nil => simp [List.infix_cons_iff]
  | cons c r ih =>
    rw [List.mem_cons, not_or] at h
    rw [List.cons_append, List.infix_cons_iff, ih h.2, List.cons_prefix_cons]
    cases r with
    | nil => simp [eq_comm]
    | cons d r =>
      have hd : '\n' ≠ d := fun heq => h.2 (heq ▸ List.mem_cons_self)
      rw [List.getLast?_cons_cons, List.cons_append, List.cons_prefix_cons]
      simp [hd]

/-- A carriage return stands in front of a line feed exactly if a row other than the last one ends
in it. -/
theorem crlf_infix_joinRows_iff {rs : List Text} (h : ∀ r ∈ rs, '\n' ∉ r) :
    ['\r', '\n'] <:+: joinRows rs ↔ ∃ r ∈ rs.dropLast, r.getLast? = some '\r' := by
  induction rs with
  | nil => simp [joinRows]
  | cons r rs ih =>
    cases rs with
    | nil =>
      have hr : '\n' ∉ r := h r List.mem_cons_self
      have hno : ¬ ['\r', '\n'] <:+: r := fun hin => hr (hin.subset (by simp))
      simpa [joinRows] using hno
    | cons r' rs =>
      have hjoin := joinRows_append (List.cons_ne_nil r []) (List.cons_ne_nil r' rs)
      rw [show joinRows [r] = r by simp [joinRows], List.singleton_append] at hjoin
      rw [hjoin, crlf_infix_append_cons (h r List.mem_cons_self),
        ih fun x hx => h x (List.mem_cons_of_mem r hx), List.dropLast_cons_cons,
          List.exists_mem_cons_iff]

end Text
end ProxySteward
