import ProxySteward.Text.Blank
import Mathlib.Data.List.DropRight

/-!
# What trimming keeps

Every reader of a row trims before it compares, so most facts about rows come down to three about
trimming: characters of the trimmed class at either end do not matter (`trimBoth_append_right`,
`trimBoth_append_left`), a text that has none there stays as it is (`trimBoth_eq_self_iff`), and the
result is such a text (`tight_trimBoth`).

`Tight p t` is the normal form: `t` neither starts nor ends with a character of the class `p`.
-/

namespace ProxySteward
namespace Text

variable {α : Type} {p : α → Bool}

/-! ## Cutting off an end -/

theorem dropEndWhile_eq_rdropWhile (p : α → Bool) (xs : List α) :
    dropEndWhile p xs = xs.rdropWhile p := rfl

theorem dropEndWhile_append_of_forall {xs ys : List α} (h : ∀ y ∈ ys, p y = true) :
    dropEndWhile p (xs ++ ys) = dropEndWhile p xs := by
  have h' : ∀ y ∈ ys.reverse, p y = true := fun y hy => h y (List.mem_reverse.1 hy)
  rw [dropEndWhile, List.reverse_append, List.dropWhile_append_of_pos h', dropEndWhile]

/-- An element outside the class holds back everything in front of it. -/
theorem dropEndWhile_append_cons {xs ys : List α} {x : α} (h : p x = false) :
    dropEndWhile p (xs ++ x :: ys) = xs ++ x :: dropEndWhile p ys := by
  have hx : (x :: xs.reverse).dropWhile p = x :: xs.reverse := by
    rw [List.dropWhile_cons, h]
    rfl
  have hrev : (xs ++ x :: ys).reverse = ys.reverse ++ x :: xs.reverse := by simp
  rw [dropEndWhile, hrev, List.dropWhile_append, hx]
  split
  · next hys =>
    rw [dropEndWhile, List.isEmpty_iff.1 hys]
    simp
  · simp [dropEndWhile]

theorem dropEndWhile_eq_self_iff {xs : List α} :
    dropEndWhile p xs = xs ↔ ∀ x ∈ xs.getLast?, p x = false := by
  rw [dropEndWhile_eq_rdropWhile, List.rdropWhile_eq_self_iff]
  constructor
  · intro h x hx
    obtain ⟨hne, rfl⟩ := List.mem_getLast?_eq_getLast hx
    simpa using h hne
  · intro h hne
    simpa using h _ (List.getLast_mem_getLast? hne)

theorem takeEndWhile_append_of_forall {xs ys : List α} (h : ∀ y ∈ ys, p y = true)
    (hxs : ∀ x ∈ xs.getLast?, p x = false) : takeEndWhile p (xs ++ ys) = ys := by
  have hd := dropEndWhile_append_takeEndWhile p (xs ++ ys)
  rw [dropEndWhile_append_of_forall h, dropEndWhile_eq_self_iff.2 hxs] at hd
  exact List.append_cancel_left hd

theorem getLast?_dropEndWhile (p : α → Bool) (xs : List α) :
    ∀ x ∈ (dropEndWhile p xs).getLast?, p x = false := by
  rw [← dropEndWhile_eq_self_iff]
  exact List.rdropWhile_idempotent p xs

theorem dropEndWhile_prefix_self (p : α → Bool) (xs : List α) : dropEndWhile p xs <+: xs :=
  List.rdropWhile_prefix p xs

theorem forall_mem_takeEndWhile (p : α → Bool) (xs : List α) :
    ∀ x ∈ takeEndWhile p xs, p x = true :=
  fun _ hx => List.mem_rtakeWhile_imp hx

/-! ## Cutting off both ends -/

variable {p : Char → Bool} {s t : Text}

/-- The texts that neither start nor end with a character of the class `p`. -/
def Tight (p : Char → Bool) (t : Text) : Prop :=
  (∀ c ∈ t.head?, p c = false) ∧ ∀ c ∈ t.getLast?, p c = false

theorem dropWhile_eq_self_of_head? (h : ∀ c ∈ t.head?, p c = false) : t.dropWhile p = t := by
  cases t with
  | nil => rfl
  | cons c t =>
    have hc : p c = false := h c rfl
    rw [List.dropWhile_cons, hc]
    rfl

theorem head?_dropWhile (p : Char → Bool) (t : Text) :
    ∀ c ∈ (t.dropWhile p).head?, p c = false := by
  intro c hc
  have h := List.head?_dropWhile_not p t
  rw [Option.mem_def.1 hc] at h
  exact h

theorem Tight.trimBoth_eq (h : Tight p t) : trimBoth p t = t := by
  rw [trimBoth, dropWhile_eq_self_of_head? h.1, dropEndWhile_eq_self_iff.2 h.2]

theorem tight_trimBoth (p : Char → Bool) (t : Text) : Tight p (trimBoth p t) := by
  refine ⟨fun c hc => ?_, getLast?_dropEndWhile p _⟩
  obtain ⟨rest, hrest⟩ := dropEndWhile_prefix_self p (t.dropWhile p)
  refine head?_dropWhile p t c ?_
  rw [← hrest, List.head?_append]
  rw [trimBoth] at hc
  rw [Option.mem_def.1 hc]
  rfl

theorem trimBoth_eq_self_iff : trimBoth p t = t ↔ Tight p t :=
  ⟨fun h => h ▸ tight_trimBoth p t, Tight.trimBoth_eq⟩

theorem trimBoth_append_left (h : ∀ c ∈ s, p c = true) :
    trimBoth p (s ++ t) = trimBoth p t := by
  rw [trimBoth, List.dropWhile_append_of_pos h, trimBoth]

theorem trimBoth_append_right (h : ∀ c ∈ s, p c = true) :
    trimBoth p (t ++ s) = trimBoth p t := by
  rw [trimBoth, List.dropWhile_append]
  split
  · next ht =>
    have hs : s.dropWhile p = [] := List.dropWhile_eq_nil_iff.2 h
    rw [hs, trimBoth, List.isEmpty_iff.1 ht]
  · rw [dropEndWhile_append_of_forall h, trimBoth]

theorem trimBoth_infix_self (p : Char → Bool) (t : Text) : trimBoth p t <:+: t :=
  (dropEndWhile_prefix_self p _).isInfix.trans (List.dropWhile_suffix p).isInfix

theorem mem_of_mem_trimBoth {c : Char} (h : c ∈ trimBoth p t) : c ∈ t :=
  (trimBoth_infix_self p t).subset h

theorem length_trimBoth_le (p : Char → Bool) (t : Text) : (trimBoth p t).length ≤ t.length :=
  (trimBoth_infix_self p t).length_le

theorem trimBoth_eq_of_length (h : t.length ≤ (trimBoth p t).length) : trimBoth p t = t :=
  (trimBoth_infix_self p t).eq_of_length (Nat.le_antisymm (length_trimBoth_le p t) h)

/-- A larger class leaves less to a smaller one. -/
theorem Tight.mono {q : Char → Bool} (h : Tight q t) (hpq : ∀ c, p c = true → q c = true) :
    Tight p t := by
  have key : ∀ c, q c = false → p c = false := by
    intro c hc
    by_contra hp
    rw [hpq c (by simpa using hp)] at hc
    exact absurd hc (by decide)
  exact ⟨fun c hc => key c (h.1 c hc), fun c hc => key c (h.2 c hc)⟩

theorem tight_nil (p : Char → Bool) : Tight p [] :=
  ⟨fun _ h => by simp at h, fun _ h => by simp at h⟩

/-- A text without characters of the class is tight. -/
theorem tight_of_forall (h : ∀ c ∈ t, p c = false) : Tight p t :=
  ⟨fun c hc => h c (List.mem_of_mem_head? hc), fun c hc => h c (List.mem_of_mem_getLast? hc)⟩

/-- The same for a text whose characters can be looked at. -/
theorem tight_of_all (h : (t.all fun c => !p c) = true) : Tight p t :=
  tight_of_forall fun c hc => by simpa using List.all_eq_true.1 h c hc

/-! ## Blanks -/

theorem trim_eq_trimBoth (t : Text) : trim t = trimBoth isBlank t := rfl

theorem trim_append_blanks (h : ∀ c ∈ s, isBlank c = true) : trim (t ++ s) = trim t :=
  trimBoth_append_right h

theorem trim_blanks_append (h : ∀ c ∈ s, isBlank c = true) : trim (s ++ t) = trim t :=
  trimBoth_append_left h

theorem mem_of_mem_trim {c : Char} (h : c ∈ trim t) : c ∈ t := mem_of_mem_trimBoth h

theorem mem_of_mem_trimStart {c : Char} (h : c ∈ trimStart t) : c ∈ t :=
  (List.dropWhile_suffix isBlank).subset h

theorem trimEnd_cons {c : Char} (h : isBlank c = false) (t : Text) :
    trimEnd (c :: t) = c :: trimEnd t := by
  have hend : dropEndWhile isBlank ([] ++ c :: t) = [] ++ c :: dropEndWhile isBlank t :=
    dropEndWhile_append_cons h
  exact hend

theorem trim_cons {c : Char} (h : isBlank c = false) (t : Text) :
    trim (c :: t) = c :: trimEnd t := by
  rw [trim, trimStart, List.dropWhile_cons, h]
  exact trimEnd_cons h t

/-- What is left of a text that is not blank starts with a character that is not blank. -/
theorem exists_trimStart_eq_cons (h : trim t ≠ []) :
    ∃ c mid, trimStart t = c :: mid ∧ isBlank c = false := by
  obtain ⟨c, mid, hmid⟩ : ∃ c mid, trimStart t = c :: mid := by
    refine List.exists_cons_of_ne_nil fun hnil => h ?_
    rw [trim, hnil]
    rfl
  refine ⟨c, mid, hmid, head?_dropWhile isBlank t c ?_⟩
  rw [← trimStart, hmid]
  rfl

theorem trim_eq_nil_iff : trim t = [] ↔ ∀ c ∈ t, isBlank c = true := by
  constructor
  · intro h
    have hrest : ∀ c ∈ trimStart t, isBlank c = true := List.rdropWhile_eq_nil_iff.1 h
    cases hstart : trimStart t with
    | nil => exact List.dropWhile_eq_nil_iff.1 hstart
    | cons c mid =>
      have hc : isBlank c = false :=
        head?_dropWhile isBlank t c (by rw [← trimStart, hstart]; rfl)
      exact absurd (hrest c (by rw [hstart]; exact List.mem_cons_self)) (by simp [hc])
  · intro h
    rw [trim, trimStart, List.dropWhile_eq_nil_iff.2 h]
    rfl

/-- Between two characters that are not blank, everything stays. -/
theorem trim_append_cons {d : Char} (h : trim t ≠ []) (hd : isBlank d = false) (mid rest : Text) :
    trim (t ++ mid ++ d :: rest) = trimStart t ++ mid ++ d :: trimEnd rest := by
  obtain ⟨c, front, hfront, hc⟩ := exists_trimStart_eq_cons h
  have hstart : trimStart (t ++ mid ++ d :: rest) = trimStart t ++ mid ++ d :: rest := by
    rw [trimStart, List.append_assoc, List.dropWhile_append, ← trimStart, hfront,
      List.append_assoc]
    rfl
  rw [trim, hstart, trimEnd, dropEndWhile_append_cons hd, trimEnd]

/-- Trimming stops at the first and at the last character that is not blank. -/
theorem trim_cons_append_cons {c d : Char} {mid rest : Text} (hc : isBlank c = false)
    (hd : isBlank d = false) :
    trim (c :: mid ++ d :: rest) = c :: mid ++ d :: trimEnd rest := by
  have hstart : (c :: mid ++ d :: rest).dropWhile isBlank = c :: mid ++ d :: rest :=
    dropWhile_eq_self_of_head? fun e he => by
      rw [List.cons_append, List.head?_cons, Option.mem_def, Option.some.injEq] at he
      rw [← he]
      exact hc
  rw [trim, trimStart, hstart, trimEnd, dropEndWhile_append_cons hd, trimEnd]

end Text
end ProxySteward
