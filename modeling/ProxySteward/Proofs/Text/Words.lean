import ProxySteward.Text.Blank
import Mathlib.Data.List.TakeWhile

/-!
# Words and single spaces

`Text.collapse` keeps the words of a text and puts one space between each two.  It is a normal form:
the words of the result are the words of the text (`words_collapse`), so collapsing twice is
collapsing once, and it never makes a text longer (`length_collapse_le`), so that no two spaces are
left together (`not_infix_of_collapse_eq`).

The first two are proved along the way a text is read: blank after blank, then a word up to the next
blank.  `induction_on_words` is that way of reading.
-/

namespace ProxySteward
namespace Text

/-! ## Reading word by word -/

@[simp]
theorem words_nil : words [] = [] := rfl

/-- The words on both sides of a blank. -/
theorem words_append_cons {b : Char} (hb : isBlank b = true) (s t : Text) :
    words (s ++ b :: t) = words s ++ words t := by
  rw [words, List.splitOnP_append_cons s t hb, List.filter_append]
  rfl

theorem words_blank_cons {b : Char} {t : Text} (hb : isBlank b = true) : words (b :: t) = words t :=
  words_append_cons hb [] t

theorem words_of_forall {w : Text} (hne : w ≠ []) (hw : ∀ c ∈ w, isBlank c = false) :
    words w = [w] := by
  rw [words, List.splitOnP_eq_singleton hw]
  simp [hne]

theorem words_append_blank_cons {w t : Text} {b : Char} (hne : w ≠ [])
    (hw : ∀ c ∈ w, isBlank c = false) (hb : isBlank b = true) :
    words (w ++ b :: t) = w :: words t := by
  rw [words_append_cons hb, words_of_forall hne hw, List.singleton_append]

/-- **Reading a text word by word.**  What holds of the empty text, is not lost by a blank in front,
and holds of a word, alone or in front of a blank and a text for which it holds, holds of every
text. -/
theorem induction_on_words {motive : Text → Prop} (nil : motive [])
    (blank : ∀ b t, isBlank b = true → motive t → motive (b :: t))
    (word : ∀ w, w ≠ [] → (∀ c ∈ w, isBlank c = false) → motive w)
    (wordBlank : ∀ w b t, w ≠ [] → (∀ c ∈ w, isBlank c = false) → isBlank b = true →
      motive t →
      motive (w ++ b :: t)) : ∀ t, motive t := by
  intro t
  induction hn : t.length using Nat.strong_induction_on generalizing t with
  | _ n ih =>
    cases t with
    | nil => exact nil
    | cons c t =>
      by_cases hc : isBlank c = true
      · refine blank c t hc (ih t.length ?_ t rfl)
        rw [← hn, List.length_cons]
        omega
      · -- the word that starts here ends at the next blank
        set isLetter : Char → Bool := fun c => !isBlank c with hletter
        have hword : ∀ d ∈ (c :: t).takeWhile isLetter, isBlank d = false := fun d hd => by
          simpa [hletter] using List.mem_takeWhile_imp hd
        have hne : (c :: t).takeWhile isLetter ≠ [] := by simp [hletter, hc]
        have hcut := List.takeWhile_append_dropWhile (p := isLetter) (l := c :: t)
        cases hrest : (c :: t).dropWhile isLetter with
        | nil =>
          rw [hrest, List.append_nil] at hcut
          rw [← hcut]
          exact word _ hne hword
        | cons b rest =>
          have hb : isBlank b = true := by
            have h := List.head?_dropWhile_not isLetter (c :: t)
            rw [hrest] at h
            simpa [hletter] using h
          have hlen : rest.length < n := by
            have h := congrArg List.length hcut
            rw [hrest, List.length_append, List.length_cons] at h
            omega
          rw [← hcut, hrest]
          exact wordBlank _ b rest hne hword hb (ih rest.length hlen rest rfl)

theorem of_mem_words {t : Text} :
    ∀ w ∈ words t, w ≠ [] ∧ ∀ c ∈ w, isBlank c = false := by
  induction t using induction_on_words with
  | nil => intro w hw; simp at hw
  | blank b t hb ih => rwa [words_blank_cons hb]
  | word v hne hv =>
    intro w hw
    rw [words_of_forall hne hv, List.mem_singleton] at hw
    rw [hw]
    exact ⟨hne, hv⟩
  | wordBlank v b t hne hv hb ih =>
    intro w hw
    rw [words_append_blank_cons hne hv hb, List.mem_cons] at hw
    rcases hw with rfl | hw
    · exact ⟨hne, hv⟩
    · exact ih w hw

/-! ## Single spaces -/

theorem words_intercalate : ∀ {ws : List Text},
    (∀ w ∈ ws, w ≠ [] ∧ ∀ c ∈ w, isBlank c = false) →
      words ([' '].intercalate ws) = ws
  | [], _ => rfl
  | [w], h => by
    have hw := h w (List.mem_singleton_self w)
    rw [List.intercalate_singleton, words_of_forall hw.1 hw.2]
  | w :: v :: ws, h => by
    have hw := h w List.mem_cons_self
    have ih := words_intercalate fun u hu => h u (List.mem_cons_of_mem w hu)
    rw [List.intercalate_cons_cons, List.append_assoc, List.singleton_append,
      words_append_blank_cons hw.1 hw.2 (by decide), ih]

/-- Collapsing keeps the words. -/
theorem words_collapse (t : Text) : words (collapse t) = words t :=
  words_intercalate of_mem_words

theorem collapse_collapse (t : Text) : collapse (collapse t) = collapse t := by
  rw [collapse, words_collapse, collapse]

theorem mem_intercalate_space {c : Char} : ∀ {ws : List Text}, c ∈ [' '].intercalate ws →
    c = ' ' ∨ ∃ w ∈ ws, c ∈ w
  | [], h => by simp at h
  | [w], h => by
    rw [List.intercalate_singleton] at h
    exact Or.inr ⟨w, List.mem_singleton_self w, h⟩
  | w :: v :: ws, h => by
    rw [List.intercalate_cons_cons, List.append_assoc, List.singleton_append, List.mem_append,
      List.mem_cons] at h
    rcases h with h | rfl | h
    · exact Or.inr ⟨w, List.mem_cons_self, h⟩
    · exact Or.inl rfl
    · rcases mem_intercalate_space h with h | ⟨u, hu, hc⟩
      · exact Or.inl h
      · exact Or.inr ⟨u, List.mem_cons_of_mem w hu, hc⟩

/-- The space is the only blank that a collapsed text holds. -/
theorem eq_space_of_mem_collapse {c : Char} {t : Text} (h : c ∈ collapse t)
    (hc : isBlank c = true) : c = ' ' := by
  rcases mem_intercalate_space h with h | ⟨w, hw, hcw⟩
  · exact h
  · rw [(of_mem_words w hw).2 c hcw] at hc
    exact absurd hc (by decide)

theorem collapse_blank_cons {b : Char} {t : Text} (hb : isBlank b = true) :
    collapse (b :: t) = collapse t := by
  rw [collapse, words_blank_cons hb, collapse]

theorem collapse_of_forall {w : Text} (hne : w ≠ []) (hw : ∀ c ∈ w, isBlank c = false) :
    collapse w = w := by
  rw [collapse, words_of_forall hne hw, List.intercalate_singleton]

/-- Behind a word, at most one space and the rest of the words remain. -/
theorem length_collapse_append_le {w t : Text} {b : Char} (hne : w ≠ [])
    (hw : ∀ c ∈ w, isBlank c = false) (hb : isBlank b = true) :
    (collapse (w ++ b :: t)).length ≤ w.length + 1 + (collapse t).length := by
  rw [collapse, words_append_blank_cons hne hw hb, collapse]
  cases words t with
  | nil =>
    rw [List.intercalate_singleton]
    omega
  | cons v vs =>
    rw [List.intercalate_cons_cons, List.length_append, List.length_append, List.length_singleton]

theorem length_collapse_le (t : Text) : (collapse t).length ≤ t.length := by
  induction t using induction_on_words with
  | nil => exact Nat.le_refl 0
  | blank b t hb ih =>
    rw [collapse_blank_cons hb, List.length_cons]
    omega
  | word w hne hw => rw [collapse_of_forall hne hw]
  | wordBlank w b t hne hw hb ih =>
    have h := length_collapse_append_le (t := t) hne hw hb
    rw [List.length_append, List.length_cons]
    omega

/-- No two spaces stand together in a collapsed text: without the second one, the words would be the
same. -/
theorem not_infix_of_collapse_eq {t : Text} (h : collapse t = t) : ¬ [' ', ' '] <:+: t := by
  rintro ⟨front, rest, rfl⟩
  have hspace : isBlank ' ' = true := by decide
  have hboth : front ++ [' ', ' '] ++ rest = front ++ ' ' :: ' ' :: rest := by simp
  have hsame : collapse (front ++ ' ' :: ' ' :: rest) = collapse (front ++ ' ' :: rest) := by
    rw [collapse, words_append_cons hspace, words_blank_cons hspace, ← words_append_cons hspace,
      collapse]
  have hle := length_collapse_le (front ++ ' ' :: rest)
  rw [← hsame, ← hboth, h] at hle
  simp only [List.length_append, List.length_cons, List.length_nil] at hle
  omega

end Text
end ProxySteward
