import ProxySteward.Key.Record
import ProxySteward.Proofs.Text.Fragments
import ProxySteward.Proofs.Text.Trim
import ProxySteward.Proofs.Text.Words

/-!
# Notes that survive on a row

The comment of a row carries two things, the state of the record and its note, so a note comes back
as it was written only if nothing in it reads as a marker and nothing at its ends is cut off.
`IsPlainNote` says that, and the module shows where such notes come from.

* Taking markers out of a text shortens it exactly if there are some (`length_cutMarkers_lt`,
  `cutMarkers_eq_self`), so the length tells when nothing is left to take out.
* `isPlainNote_normalNote`: the form in which notes are kept is plain.  The recursion of
  `settleNote` stops where taking out markers, trimming and collapsing together did not shorten the
  note; then none of the three changed it.
-/

namespace ProxySteward
namespace KeyRecord

open Text

/-! ## Markers -/

/-- The characters that are cut off the ends of a note. -/
abbrev isNoteEdge (c : Char) : Bool := isBlank c || c == '#'

theorem isMarked_iff {t : Text} : isMarked t = true ↔ marker <:+: lower t := holds_iff

@[simp] theorem isMarked_nil : isMarked [] = false := by decide

/-- A text is marked where a marker starts, or behind its first character. -/
theorem isMarked_cons {c : Char} {t : Text} :
    isMarked (c :: t) = true ↔ lower ((c :: t).take 8) = marker ∨ isMarked t = true := by
  have hcons : lower (c :: t) = c.toLower :: lower t := rfl
  have htake : lower ((c :: t).take 8) = (lower (c :: t)).take marker.length := List.map_take
  rw [isMarked_iff, isMarked_iff, htake, hcons, List.infix_cons_iff, List.prefix_iff_eq_take,
    eq_comm]

theorem cutMarkers_cons_of_marker {c : Char} {t : Text} (h : lower ((c :: t).take 8) = marker) :
    cutMarkers 0 (c :: t) = cutMarkers 7 t := by
  rw [cutMarkers, if_pos h]

theorem cutMarkers_cons_of_ne {c : Char} {t : Text} (h : lower ((c :: t).take 8) ≠ marker) :
    cutMarkers 0 (c :: t) = c :: cutMarkers 0 t := by
  rw [cutMarkers, if_neg h]

theorem length_cutMarkers_le (skip : Nat) (t : Text) : (cutMarkers skip t).length ≤ t.length := by
  induction t generalizing skip with
  | nil => simp [cutMarkers]
  | cons c t ih =>
    rw [List.length_cons]
    cases skip with
    | succ skip =>
      have h := ih skip
      rw [cutMarkers]
      omega
    | zero =>
      by_cases hm : lower ((c :: t).take 8) = marker
      · have h := ih 7
        rw [cutMarkers_cons_of_marker hm]
        omega
      · have h := ih 0
        rw [cutMarkers_cons_of_ne hm, List.length_cons]
        omega

theorem cutMarkers_eq_self {t : Text} (h : isMarked t = false) : cutMarkers 0 t = t := by
  induction t with
  | nil => rfl
  | cons c t ih =>
    have hc : ¬ isMarked (c :: t) = true := by rw [h]; decide
    rw [isMarked_cons, not_or] at hc
    rw [cutMarkers_cons_of_ne hc.1, ih (by simpa using hc.2)]

theorem length_cutMarkers_lt {t : Text} (h : isMarked t = true) :
    (cutMarkers 0 t).length < t.length := by
  induction t with
  | nil => rw [isMarked_nil] at h; exact absurd h (by decide)
  | cons c t ih =>
    rw [List.length_cons]
    by_cases hm : lower ((c :: t).take 8) = marker
    · have hle := length_cutMarkers_le 7 t
      rw [cutMarkers_cons_of_marker hm]
      omega
    · have hlt := ih ((isMarked_cons.1 h).resolve_left hm)
      rw [cutMarkers_cons_of_ne hm, List.length_cons]
      omega

theorem mem_of_mem_cutMarkers {d : Char} {skip : Nat} {t : Text} (h : d ∈ cutMarkers skip t) :
    d ∈ t := by
  induction t generalizing skip with
  | nil => simp [cutMarkers] at h
  | cons c t ih =>
    cases skip with
    | succ skip =>
      rw [cutMarkers] at h
      exact List.mem_cons_of_mem c (ih h)
    | zero =>
      by_cases hm : lower ((c :: t).take 8) = marker
      · rw [cutMarkers_cons_of_marker hm] at h
        exact List.mem_cons_of_mem c (ih h)
      · rw [cutMarkers_cons_of_ne hm, List.mem_cons] at h
        rcases h with rfl | h
        · exact List.mem_cons_self
        · exact List.mem_cons_of_mem c (ih h)

/-! ## Plain notes -/

/-- The notes that a row carries as they are: none of their text reads as a marker, and neither a
blank nor a number sign stands at either end. -/
def IsPlainNote (note : Text) : Prop := isMarked note = false ∧ Tight isNoteEdge note

theorem isPlainNote_nil : IsPlainNote [] := ⟨isMarked_nil, tight_nil isNoteEdge⟩

theorem plainNote_eq_trimBoth (comment : Text) :
    plainNote comment = trimBoth isNoteEdge (cutMarkers 0 comment) := rfl

theorem IsPlainNote.plainNote_eq {note : Text} (h : IsPlainNote note) : plainNote note = note := by
  rw [plainNote_eq_trimBoth, cutMarkers_eq_self h.1, h.2.trimBoth_eq]

theorem tight_plainNote (comment : Text) : Tight isNoteEdge (plainNote comment) :=
  tight_trimBoth isNoteEdge _

theorem mem_of_mem_plainNote {c : Char} {comment : Text} (h : c ∈ plainNote comment) :
    c ∈ comment :=
  mem_of_mem_cutMarkers (mem_of_mem_trimBoth h)

/-- A comment without a marker gives a note without one. -/
theorem isMarked_plainNote {comment : Text} (h : isMarked comment = false) :
    isMarked (plainNote comment) = false := by
  rw [plainNote_eq_trimBoth, cutMarkers_eq_self h, ← Bool.not_eq_true, isMarked_iff]
  intro hin
  have hcomment := hin.trans ((trimBoth_infix_self isNoteEdge comment).map Char.toLower)
  rw [← Bool.not_eq_true, isMarked_iff] at h
  exact h hcomment

theorem length_plainNote_le (comment : Text) :
    (plainNote comment).length ≤ (cutMarkers 0 comment).length :=
  length_trimBoth_le isNoteEdge _

/-- A comment that keeps its length as a note is a plain note. -/
theorem isPlainNote_of_length {note : Text} (h : note.length ≤ (plainNote note).length) :
    IsPlainNote note := by
  have hle := length_plainNote_le note
  have hm : isMarked note = false := by
    by_contra hm
    have hlt := length_cutMarkers_lt (Bool.not_eq_false _ ▸ hm)
    omega
  refine ⟨hm, trimBoth_eq_self_iff.1 (trimBoth_eq_of_length ?_)⟩
  rwa [plainNote_eq_trimBoth, cutMarkers_eq_self hm] at h

/-- **The settled form is plain and single-spaced.**  The induction is on the recursion of
`settleNote`; the note at hand is always a collapsed one. -/
theorem settleNote_settled (note : Text) (h : collapse note = note) :
    IsPlainNote (settleNote note) ∧ collapse (settleNote note) = settleNote note := by
  fun_induction settleNote note with
  | case1 note next hlt ih => exact ih (collapse_collapse _)
  | case2 note next hge =>
    have hlen : note.length ≤ (plainNote note).length :=
      (Nat.le_of_not_lt hge).trans (length_collapse_le (plainNote note))
    have hplain := isPlainNote_of_length hlen
    have hnext : next = note := by
      show collapse (plainNote note) = note
      rw [hplain.plainNote_eq, h]
    rw [hnext]
    exact ⟨hplain, h⟩

theorem isPlainNote_normalNote (note : Text) : IsPlainNote (normalNote note) :=
  (settleNote_settled _ (collapse_collapse note)).1

theorem collapse_normalNote (note : Text) : collapse (normalNote note) = normalNote note :=
  (settleNote_settled _ (collapse_collapse note)).2

/-- The space is the only blank in a normal note. -/
theorem not_mem_normalNote {c : Char} (hblank : isBlank c = true) (hc : c ≠ ' ') (note : Text) :
    c ∉ normalNote note := by
  intro h
  rw [← collapse_normalNote] at h
  exact hc (eq_space_of_mem_collapse h hblank)

end KeyRecord
end ProxySteward
