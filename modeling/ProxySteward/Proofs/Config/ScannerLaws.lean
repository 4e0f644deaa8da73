import ProxySteward.Config.Document
import ProxySteward.Proofs.Key.SectionCut

/-!
# The scanners of the configuration document

Port and secret are read from lines and the key section is cut from rows, so the first thing to show
is that the scanners may as well read the rows: a carriage return at the end and an empty row at the
end change nothing (`port?_eq`, `secret?_eq`).

The scanner of the secret has a state, whether it is inside of the management section.  What it
finds in a document that is put together from parts is what it finds in the first part, or else in
the second part from the state that the first one leaves (`secretFrom?_append`).  Indented rows,
blank rows and comments keep the state, every other row sets it anew (`insideAfter_of_belongs`,
`secretFrom?_of_loose`).
-/

namespace ProxySteward
namespace ConfigDocument

open Text KeySection

variable {row : Text} {inside : Bool}

/-! ## Lines and rows -/

/-- What a row says of the port. -/
def portValue? (row : Text) : Option Text := (dropFront? portFront row).map trim

theorem portValue?_dropReturn (row : Text) : portValue? (dropReturn row) = portValue? row := by
  rcases dropReturn_eq row with h | h
  · rw [h]
  · conv_rhs => rw [h, portValue?, dropFront?_concat (by decide), Option.map_map]
    rw [portValue?]
    refine Option.map_congr fun rest _ => ?_
    exact (trim_append_blanks (List.all_eq_true.1 rfl)).symm

theorem findSome?_linesOfRows (rs : List Text) :
    (linesOfRows rs).findSome? portValue? = rs.findSome? portValue? := by
  fun_induction linesOfRows rs with
  | case1 => rfl
  | case2 r h => rw [List.isEmpty_iff.1 h]; rfl
  | case3 r h => rfl
  | case4 r rs hne ih => rw [List.findSome?_cons, List.findSome?_cons, portValue?_dropReturn, ih]

/-- The port, read from the rows. -/
theorem port?_eq (doc : Text) :
    port? doc = ((rows doc).findSome? portValue?).bind fun value =>
      readBounded? 65535 (withoutComment value) := by
  have hmap : ∀ ls : List Text,
      ls.findSome? portValue? = (ls.findSome? (dropFront? portFront)).map trim := by
    intro ls
    rw [List.map_findSome?]
    rfl
  rw [← findSome?_linesOfRows, hmap, Option.bind_map]
  rfl

theorem isIndented_dropReturn (row : Text) : isIndented (dropReturn row) = isIndented row := by
  rcases dropReturn_eq row with h | h
  · rw [h]
  · generalize dropReturn row = r at h
    rw [h]
    cases r with
    | nil => rfl
    | cons c r => rfl

theorem secretFrom?_linesOfRows (inside : Bool) (rs : List Text) :
    secretFrom? inside (linesOfRows rs) = secretFrom? inside rs := by
  fun_induction linesOfRows rs generalizing inside with
  | case1 => rfl
  | case2 r h => rw [List.isEmpty_iff.1 h]; rfl
  | case3 r h => rfl
  | case4 r rs hne ih =>
    simp only [secretFrom?, isBlankRow, isComment, trim_dropReturn, isIndented_dropReturn, ih]
    rfl

/-- The secret, read from the rows. -/
theorem secret?_eq (doc : Text) : secret? doc = secretFrom? false (rows doc) :=
  secretFrom?_linesOfRows false (rows doc)

/-! ## The state of the scanner -/

/-- Whether the scanner is inside of the management section behind some rows. -/
def insideAfter (inside : Bool) : List Text → Bool
  | [] => inside
  | row :: rest => insideAfter (if belongs row then inside else trim row == managementHeader) rest

theorem secretFrom?_append (inside : Bool) (xs ys : List Text) :
    secretFrom? inside (xs ++ ys) =
      (secretFrom? inside xs).or (secretFrom? (insideAfter inside xs) ys) := by
  induction xs generalizing inside with
  | nil => rfl
  | cons row xs ih =>
    rw [List.cons_append, secretFrom?, secretFrom?, insideAfter]
    by_cases hskip : (isBlankRow row || isComment row) = true
    · have hb : belongs row = true := by
        rw [belongs, Bool.or_assoc, hskip, Bool.or_true]
      rw [if_pos hskip, if_pos hskip, if_pos hb, ih]
    · rw [if_neg hskip, if_neg hskip]
      by_cases hin : isIndented row = true
      · have hb : belongs row = true := by rw [belongs, hin]; rfl
        rw [if_pos hin, if_pos hin, if_pos hb]
        split
        · rfl
        · exact ih inside
      · have hb : ¬ belongs row = true := by
          rw [belongs, Bool.or_assoc, Bool.eq_false_iff.2 hskip, Bool.eq_false_iff.2 hin]
          decide
        rw [if_neg hin, if_neg hin, if_neg hb, ih]

theorem insideAfter_append (inside : Bool) (xs ys : List Text) :
    insideAfter inside (xs ++ ys) = insideAfter (insideAfter inside xs) ys := by
  induction xs generalizing inside with
  | nil => rfl
  | cons row xs ih => exact ih _

/-- Rows that can belong to a section keep the state. -/
theorem insideAfter_of_belongs {xs : List Text} (h : ∀ row ∈ xs, belongs row = true) :
    insideAfter inside xs = inside := by
  induction xs with
  | nil => rfl
  | cons row xs ih =>
    rw [insideAfter, if_pos (h row List.mem_cons_self)]
    exact ih fun r hr => h r (List.mem_cons_of_mem row hr)

/-- Outside of the management section, they hold no secret. -/
theorem secretFrom?_false_of_belongs {xs : List Text} (h : ∀ row ∈ xs, belongs row = true) :
    secretFrom? false xs = none := by
  induction xs with
  | nil => rfl
  | cons row xs ih =>
    have hrest := ih fun r hr => h r (List.mem_cons_of_mem row hr)
    have hrow := h row List.mem_cons_self
    rw [belongs, Bool.or_assoc, Bool.or_eq_true] at hrow
    rw [secretFrom?, hrest]
    rcases hrow with hin | hskip
    · rw [hin]
      simp
    · rw [if_pos hskip]

/-- Behind the section the state does not matter: the rows there that keep it hold no secret. -/
theorem secretFrom?_of_loose {xs : List Text}
    (h : ∀ row ∈ xs.takeWhile belongs, isLoose row = true) (inside inside' : Bool) :
    secretFrom? inside xs = secretFrom? inside' xs := by
  induction xs with
  | nil => rfl
  | cons row xs ih =>
    rw [secretFrom?, secretFrom?]
    by_cases hb : belongs row = true
    · rw [List.takeWhile_cons_of_pos hb] at h
      have hskip : (isBlankRow row || isComment row) = true := by
        have hloose := h row List.mem_cons_self
        rw [isLoose, Bool.or_eq_true, Bool.and_eq_true] at hloose
        rw [Bool.or_eq_true]
        exact hloose.imp_right And.left
      rw [if_pos hskip, if_pos hskip]
      exact ih fun r hr => h r (List.mem_cons_of_mem row hr)
    · rw [belongs, Bool.or_assoc, Bool.or_eq_true, not_or] at hb
      rw [if_neg hb.2, if_neg hb.2, if_neg hb.1, if_neg hb.1]

end ConfigDocument
end ProxySteward
