import ProxySteward.Text.Blank

/-!
# Searching a text

Leading texts, first occurrences and membership of a fragment, by recursion on the text.
`cut?_eq_some` says that a cut loses nothing.
-/

namespace ProxySteward.Text

/-- What follows `front` at the start of a text. -/
def dropFront? : (front t : Text) → Option Text
  | [], t => some t
  | _ :: _, [] => none
  | f :: fs, c :: cs => if f = c then dropFront? fs cs else none

/-- Whether a text starts with `front`. -/
def startsWith (front t : Text) : Bool := (dropFront? front t).isSome

theorem dropFront?_eq_some {front t rest : Text} :
    dropFront? front t = some rest ↔ t = front ++ rest := by
  induction front generalizing t with
  | nil => simp [dropFront?, eq_comm]
  | cons f fs ih =>
    cases t with
    | nil => simp [dropFront?]
    | cons c cs =>
      by_cases h : f = c
      · subst h; simp [dropFront?, ih]
      · simp [dropFront?, h, Ne.symm h]

theorem startsWith_iff {front t : Text} :
    startsWith front t = true ↔ ∃ rest, t = front ++ rest := by
  simp [startsWith, Option.isSome_iff_exists, dropFront?_eq_some]

/-- The text before and after the first occurrence of `mark`. -/
def cut? (mark : Text) : Text → Option (Text × Text)
  | [] => if mark.isEmpty then some ([], []) else none
  | c :: cs =>
    match dropFront? mark (c :: cs) with
    | some rest => some ([], rest)
    | none => (cut? mark cs).map fun (front, rest) => (c :: front, rest)

theorem cut?_eq_some {mark t front rest : Text} (h : cut? mark t = some (front, rest)) :
    t = front ++ mark ++ rest := by
  induction t generalizing front with
  | nil =>
    simp only [cut?] at h
    split at h
    · next hm => simp_all
    · simp at h
  | cons c cs ih =>
    simp only [cut?] at h
    split at h
    · next r hr =>
      simp only [Option.some.injEq, Prod.mk.injEq] at h
      obtain ⟨rfl, rfl⟩ := h
      simpa using dropFront?_eq_some.1 hr
    · obtain ⟨⟨f, r⟩, hfr, he⟩ := Option.map_eq_some_iff.1 h
      simp only [Prod.mk.injEq] at he
      obtain ⟨rfl, rfl⟩ := he
      simp [ih hfr]

/-- Whether `mark` stands somewhere in a text. -/
def holds (mark t : Text) : Bool := (cut? mark t).isSome

/-- The text before and after the first `c`. -/
def cutAt? (c : Char) (t : Text) : Option (Text × Text) := cut? [c] t

theorem cutAt?_eq_none {c : Char} {t : Text} (h : c ∉ t) : cutAt? c t = none := by
  induction t with
  | nil => rfl
  | cons d ds ih =>
    have hd : ¬ c = d := fun e => h (by simp [e])
    have ih := ih fun e => h (by simp [e])
    simp only [cutAt?, cut?, dropFront?, hd, if_false] at ih ⊢
    rw [ih]
    rfl

end ProxySteward.Text
