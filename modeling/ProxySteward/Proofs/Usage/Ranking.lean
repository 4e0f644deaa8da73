import ProxySteward.Usage.Summary

/-!
# Ranked lists

Keys and models are listed by falling count, and by rising name where the counts are equal.  Both
lists are sorted with `KeyReport.precedes`, so the order is studied once, for anything that has a
count and a name.

The order is total (`precedes_total`), so sorting puts everything in its place.  Between two entries
with the same count and the same name it does not decide, so what is sorted is told by its entries
only if the names are distinct.  Then the sorted list is ranked strictly (`isRanked_mergeSort`), and
as there is only one such list with the same entries (`IsRanked.eq_of_perm`), it does not matter in
which order the entries came (`mergeSort_eq_of_perm`).
-/

namespace ProxySteward
namespace KeyReport

open Text

theorem precedes_iff {c c' : Count} {t t' : Text} :
    precedes c t c' t' = true ↔ c' < c ∨ c = c' ∧ ¬ t' < t := by
  rw [precedes, Bool.or_eq_true, Bool.and_eq_true, decide_eq_true_eq, beq_iff_eq,
    Bool.not_eq_true', decide_eq_false_iff_not]

theorem precedes_total (c : Count) (t : Text) (c' : Count) (t' : Text) :
    (precedes c t c' t' || precedes c' t' c t) = true := by
  rw [Bool.or_eq_true, precedes_iff, precedes_iff]
  rcases Int64.lt_or_le c' c with h | h
  · exact Or.inl (Or.inl h)
  rcases Int64.lt_or_eq_of_le h with h | rfl
  · exact Or.inr (Or.inl h)
  · by_cases hlt : t' < t
    · exact Or.inr (Or.inr ⟨rfl, List.lt_asymm hlt⟩)
    · exact Or.inl (Or.inr ⟨rfl, hlt⟩)

theorem precedes_trans {c c' c'' : Count} {t t' t'' : Text} (h : precedes c t c' t' = true)
    (h' : precedes c' t' c'' t'' = true) : precedes c t c'' t'' = true := by
  rw [precedes_iff] at h h' ⊢
  rcases h with h | ⟨rfl, h⟩
  · rcases h' with h' | ⟨rfl, -⟩
    · exact Or.inl (Int64.lt_trans h' h)
    · exact Or.inl h
  · exact h'.imp_right fun h' =>
      ⟨h'.1, List.not_lt.2 (List.le_trans (List.not_lt.1 h) (List.not_lt.1 h'.2))⟩

variable {α : Type} {count : α → Count} {name : α → Text} {xs ys : List α}

/-- Falling counts, and rising names where the counts are equal. -/
def IsRanked (count : α → Count) (name : α → Text) (xs : List α) : Prop :=
  xs.Pairwise fun a b => count b < count a ∨ count a = count b ∧ name a < name b

/-- Two ranked lists of the same entries are the same. -/
theorem IsRanked.eq_of_perm (hx : IsRanked count name xs) (hy : IsRanked count name ys)
    (h : xs.Perm ys) : xs = ys := by
  refine List.Perm.eq_of_pairwise (fun a b _ _ hab hba => ?_) hx hy h
  rcases hab with hab | ⟨heq, hab⟩ <;> rcases hba with hba | ⟨heq', hba⟩
  · exact absurd hab (Int64.lt_asymm hba)
  · exact absurd hab (heq' ▸ Int64.lt_irrefl)
  · exact absurd hba (heq ▸ Int64.lt_irrefl)
  · exact absurd hab (List.lt_asymm hba)

/-- What is sorted stands in the order by which it is sorted. -/
theorem pairwise_mergeSort (count : α → Count) (name : α → Text) (xs : List α) :
    (xs.mergeSort fun a b => precedes (count a) (name a) (count b) (name b)).Pairwise
      fun a b => count b < count a ∨ count a = count b ∧ ¬ name b < name a := by
  have hsorted := @List.pairwise_mergeSort α
    (fun a b => precedes (count a) (name a) (count b) (name b)) (fun _ _ _ => precedes_trans)
    (fun a b => precedes_total (count a) (name a) (count b) (name b)) xs
  exact hsorted.imp precedes_iff.1

theorem nodup_mergeSort (hnames : (xs.map name).Nodup) (le : α → α → Bool) :
    ((xs.mergeSort le).map name).Nodup :=
  ((List.mergeSort_perm xs le).map name).nodup_iff.2 hnames

/-- **Sorting ranks** the entries of a list whose names are distinct. -/
theorem isRanked_mergeSort (hnames : (xs.map name).Nodup) :
    IsRanked count name
      (xs.mergeSort fun a b => precedes (count a) (name a) (count b) (name b)) := by
  refine (pairwise_mergeSort count name xs).imp₂ (fun a b hab hne => ?_)
    (List.pairwise_map.1 (nodup_mergeSort hnames _))
  refine hab.imp_right fun hab => ⟨hab.1, Decidable.not_not.1 fun hlt => ?_⟩
  exact hne (List.le_antisymm (List.not_lt.1 hab.2) (List.not_lt.1 hlt))

/-- **The order of the entries** does not matter for what is sorted. -/
theorem mergeSort_eq_of_perm (hnames : (xs.map name).Nodup) (h : ys.Perm xs) :
    (ys.mergeSort fun a b => precedes (count a) (name a) (count b) (name b)) =
      xs.mergeSort fun a b => precedes (count a) (name a) (count b) (name b) :=
  (isRanked_mergeSort ((h.map name).nodup_iff.2 hnames)).eq_of_perm (isRanked_mergeSort hnames)
    (((List.mergeSort_perm ys _).trans h).trans (List.mergeSort_perm xs _).symm)

end KeyReport

namespace UsageReport

/-- The usage of the keys of which there is something to show. -/
def usages (r : UsageReport) : List KeyUsage := r.keys.filterMap fun (id, k) => k.usage? id

/-- The keys of a summary are these, in some order. -/
theorem keys_summarize_perm (r : UsageReport) : r.summarize.keys.Perm r.usages :=
  List.mergeSort_perm _ _

end UsageReport
end ProxySteward
