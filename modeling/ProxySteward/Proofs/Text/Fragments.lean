import ProxySteward.Text.Search
import Mathlib.Data.List.Infix

/-!
# Fragments of a text

What the searches of `Text.Search` find, in terms of the text alone: a text holds a fragment exactly
when the fragment is an infix of it (`holds_iff`), and a cut at a character is a cut at its first
occurrence (`cutAt?_eq_some_iff`).
-/

namespace ProxySteward
namespace Text

variable {mark t : Text}

theorem dropFront?_append (front rest : Text) : dropFront? front (front ++ rest) = some rest :=
  dropFront?_eq_some.2 rfl

theorem isSome_cut?_append (mark rest : Text) : (cut? mark (mark ++ rest)).isSome = true := by
  cases h : mark ++ rest with
  | nil =>
    rw [List.append_eq_nil_iff] at h
    simp [cut?, h.1]
  | cons c cs => rw [cut?, ← h, dropFront?_append, Option.isSome_some]

theorem holds_iff : holds mark t = true ↔ mark <:+: t := by
  constructor
  · intro h
    obtain ⟨⟨front, rest⟩, hcut⟩ := Option.isSome_iff_exists.1 h
    exact ⟨front, rest, (cut?_eq_some hcut).symm⟩
  · rintro ⟨front, rest, rfl⟩
    rw [List.append_assoc]
    induction front with
    | nil => exact isSome_cut?_append mark rest
    | cons c front ih =>
      rw [List.cons_append, holds, cut?]
      split
      · rfl
      · rw [Option.isSome_map]
        exact ih

/-! ## Cuts at a character -/

theorem cutAt?_cons_self (c : Char) (rest : Text) : cutAt? c (c :: rest) = some ([], rest) := by
  simp [cutAt?, cut?, dropFront?]

theorem cutAt?_cons_of_ne {c d : Char} (h : c ≠ d) (rest : Text) :
    cutAt? c (d :: rest) = (cutAt? c rest).map fun (front, rest) => (d :: front, rest) := by
  simp [cutAt?, cut?, dropFront?, h]

theorem cutAt?_append_cons {c : Char} {front : Text} (h : c ∉ front) (rest : Text) :
    cutAt? c (front ++ c :: rest) = some (front, rest) := by
  induction front with
  | nil => exact cutAt?_cons_self c rest
  | cons d front ih =>
    rw [List.mem_cons, not_or] at h
    rw [List.cons_append, cutAt?_cons_of_ne h.1, ih h.2]
    rfl

theorem not_mem_of_cutAt? {c : Char} {t front rest : Text} (h : cutAt? c t = some (front, rest)) :
    c ∉ front := by
  induction t generalizing front rest with
  | nil => simp [cutAt?, cut?] at h
  | cons d t ih =>
    by_cases hd : c = d
    · subst hd
      rw [cutAt?_cons_self, Option.some.injEq, Prod.mk.injEq] at h
      rw [← h.1]
      exact List.not_mem_nil
    · rw [cutAt?_cons_of_ne hd] at h
      obtain ⟨⟨f, r⟩, hfr, he⟩ := Option.map_eq_some_iff.1 h
      rw [Prod.mk.injEq] at he
      rw [← he.1, List.mem_cons, not_or]
      exact ⟨hd, ih hfr⟩

theorem cutAt?_eq_some_iff {c : Char} {t front rest : Text} :
    cutAt? c t = some (front, rest) ↔ t = front ++ c :: rest ∧ c ∉ front := by
  constructor
  · intro h
    refine ⟨?_, not_mem_of_cutAt? h⟩
    rw [cut?_eq_some h, List.append_assoc, List.singleton_append]
  · rintro ⟨rfl, h⟩
    exact cutAt?_append_cons h rest

/-- A front that holds no `c` does not reach a `c` behind the text. -/
theorem dropFront?_concat {front t : Text} {c : Char} (h : c ∉ front) :
    dropFront? front (t ++ [c]) = (dropFront? front t).map (· ++ [c]) := by
  induction front generalizing t with
  | nil => rfl
  | cons f fs ih =>
    rw [List.mem_cons, not_or] at h
    cases t with
    | nil => simp [dropFront?, Ne.symm h.1]
    | cons d t =>
      rw [List.cons_append, dropFront?, dropFront?]
      split
      · exact ih h.2
      · rfl

end Text
end ProxySteward
