import Mathlib.Data.List.Nodup
import ProxySteward.Proofs.Usage.CountSums
import ProxySteward.Usage.Decode

/-!
# Counts with names

The counts of the models of a key are kept in a list that rises by name (`IsRising`), so that it is
told by what it says of each name (`IsRising.eq_of_lookup`).  The counts come one after another, and
a name may come again: `addCalls` adds to the count that the name has.

Two sums are taken over what has come.  That of one name is taken in the order in which its counts
came (`lookup_addAll`), and then that of all names is taken over the list.  Both stop at the ends of
the range.  As long as no count is negative, this makes no difference: whatever is cut off when a
name reaches the greatest count would be cut off from the sum of all names as well
(`capped_addCalls`), so that sum is the exact one of all that has come, put into the range once
(`toInt_total_addAll`).
-/

namespace ProxySteward

open Text

/-! ## Lists of things with names -/

variable {β : Type} {xs ys : List (Text × β)} {name : Text}

theorem lookup_cons_eq_ite (x : Text × β) (xs : List (Text × β)) (name : Text) :
    (x :: xs).lookup name = if name = x.1 then some x.2 else xs.lookup name := by
  rw [List.lookup_cons]
  by_cases h : name = x.1
  · rw [if_pos h, beq_iff_eq.2 h]
  · rw [if_neg h, beq_eq_false_iff_ne.2 h]

/-- The things of a list with distinct names, by their names. -/
theorem lookup_eq_some_iff_mem (h : (xs.map (·.1)).Nodup) {b : β} :
    xs.lookup name = some b ↔ (name, b) ∈ xs := by
  induction xs with
  | nil => simp
  | cons x xs ih =>
    rw [List.map_cons, List.nodup_cons] at h
    rw [lookup_cons_eq_ite, List.mem_cons]
    by_cases hname : name = x.1
    · have hnot : (name, b) ∉ xs := fun hmem => h.1 (hname ▸ List.mem_map_of_mem hmem)
      rw [if_pos hname, or_iff_left hnot, Option.some.injEq, Prod.ext_iff, and_iff_right hname,
        eq_comm]
    · have hne : (name, b) ≠ x := fun heq => hname (congrArg Prod.fst heq)
      rw [if_neg hname, ih h.2, or_iff_right hne]

/-- Rising names. -/
def IsRising (xs : List (Text × β)) : Prop := xs.Pairwise fun a b => a.1 < b.1

theorem IsRising.nodup (h : IsRising xs) : (xs.map (·.1)).Nodup := by
  rw [List.nodup_iff_pairwise_ne, List.pairwise_map]
  refine List.Pairwise.imp (fun hlt heq => ?_) h
  rw [heq] at hlt
  exact List.lt_irrefl _ hlt

/-- **A rising list is told by what it says of each name.** -/
theorem IsRising.eq_of_lookup (hx : IsRising xs) (hy : IsRising ys)
    (h : ∀ name, xs.lookup name = ys.lookup name) : xs = ys := by
  refine List.Perm.eq_of_pairwise (fun a b _ _ hab hba => absurd hab (List.lt_asymm hba)) hx hy ?_
  refine (List.perm_ext_iff_of_nodup (List.Nodup.of_map _ hx.nodup)
    (List.Nodup.of_map _ hy.nodup)).2 fun a => ?_
  rw [← lookup_eq_some_iff_mem hx.nodup, ← lookup_eq_some_iff_mem hy.nodup, h]

/-- A name that rises below a list is not in it. -/
theorem lookup_eq_none_of_lt (h : ∀ x ∈ xs, name < x.1) : xs.lookup name = none := by
  refine List.lookup_eq_none_iff.2 fun x hx => ?_
  rw [bne_iff_ne]
  exact fun heq => List.lt_irrefl _ (heq ▸ h x hx)

/-! ## Adding to the count of a name -/

namespace UsageAnswer

variable {model : Text} {c : Count} {ms : List (Text × Count)}

/-- What is in the list afterwards: what was in it, and the name with its new count. -/
theorem mem_addCalls {m : Text × Count} (h : m ∈ addCalls model c ms) :
    m ∈ ms ∨ ∃ old, (old = 0 ∨ (model, old) ∈ ms) ∧ m = (model, Count.add old c) := by
  induction ms with
  | nil => exact Or.inr ⟨0, Or.inl rfl, List.mem_singleton.1 h⟩
  | cons m₀ ms ih =>
    rw [addCalls] at h
    split at h
    · next heq =>
      rcases List.mem_cons.1 h with rfl | h
      · refine Or.inr ⟨m₀.2, Or.inr ?_, by rw [heq]⟩
        rw [heq]
        exact List.mem_cons_self
      · exact Or.inl (List.mem_cons_of_mem _ h)
    · split at h
      · rcases List.mem_cons.1 h with rfl | h
        · exact Or.inr ⟨0, Or.inl rfl, rfl⟩
        · exact Or.inl h
      · rcases List.mem_cons.1 h with rfl | h
        · exact Or.inl List.mem_cons_self
        · exact (ih h).imp (List.mem_cons_of_mem _) fun ⟨old, hold, hm⟩ =>
            ⟨old, hold.imp_right (List.mem_cons_of_mem _), hm⟩

theorem isRising_addCalls (h : IsRising ms) : IsRising (addCalls model c ms) := by
  induction ms with
  | nil => exact List.pairwise_singleton _ _
  | cons m ms ih =>
    obtain ⟨hfirst, hrest⟩ := List.pairwise_cons.1 h
    rw [addCalls]
    split
    · exact List.pairwise_cons.2 ⟨hfirst, hrest⟩
    · next hne =>
      split
      · next hlt =>
        exact List.pairwise_cons.2 ⟨List.forall_mem_cons.2
          ⟨hlt, fun m' hm' => List.lt_trans hlt (hfirst m' hm')⟩, h⟩
      · next hnot =>
        have hlt : m.1 < model :=
          Decidable.not_not.1 fun hge =>
            hne (List.le_antisymm (List.not_lt.1 hge) (List.not_lt.1 hnot))
        refine List.pairwise_cons.2 ⟨fun m' hm' => ?_, ih hrest⟩
        rcases mem_addCalls hm' with hm' | ⟨_, -, rfl⟩
        · exact hfirst m' hm'
        · exact hlt

/-- The count of the name grows, and no other one changes. -/
theorem lookup_addCalls (h : IsRising ms) (name : Text) :
    (addCalls model c ms).lookup name =
      if name = model then some (Count.add ((ms.lookup model).getD 0) c) else ms.lookup name := by
  induction ms with
  | nil => rw [addCalls, lookup_cons_eq_ite]; rfl
  | cons m ms ih =>
    obtain ⟨hfirst, hrest⟩ := List.pairwise_cons.1 h
    rw [addCalls, lookup_cons_eq_ite m ms model]
    split
    · next heq =>
      rw [lookup_cons_eq_ite, lookup_cons_eq_ite, heq]
      split <;> rfl
    · next hne =>
      split
      · next hlt =>
        -- The name is new: it stands below all that the list holds.
        rw [lookup_cons_eq_ite,
          lookup_eq_none_of_lt fun m' hm' => List.lt_trans hlt (hfirst m' hm')]
        rfl
      · rw [lookup_cons_eq_ite, ih hrest, lookup_cons_eq_ite]
        by_cases hname : name = model
        · rw [if_pos hname, if_pos hname, if_neg (hname ▸ hne)]
        · rw [if_neg hname, if_neg hname]

/-! ## The sum over all names -/

/-- The exact sum of the counts of all names. -/
def overall (ms : List (Text × Count)) : Int := Count.exactSum (ms.map (·.2))

@[simp] theorem overall_nil : overall [] = 0 := rfl

@[simp] theorem overall_cons (name : Text) (d : Count) (ms : List (Text × Count)) :
    overall ((name, d) :: ms) = d.toInt + overall ms := Count.exactSum_cons d _

theorem overall_nonneg (h : ∀ m ∈ ms, 0 ≤ m.2.toInt) : 0 ≤ overall ms :=
  Count.exactSum_nonneg (List.forall_mem_map.2 h)

theorem nonneg_addCalls (model : Text) (hc : 0 ≤ c.toInt) (h : ∀ m ∈ ms, 0 ≤ m.2.toInt) :
    ∀ m ∈ addCalls model c ms, 0 ≤ m.2.toInt := by
  intro m hm
  rcases mem_addCalls hm with hm | ⟨old, hold, rfl⟩
  · exact h m hm
  · have hnonneg : 0 ≤ old.toInt := by
      rcases hold with rfl | hold
      · exact Int.le_refl 0
      · exact h _ hold
    have hgreatest := c.toInt_le
    rw [Count.toInt_add, Count.clamp_of_nonneg (by omega)]
    omega

/-- **A count that comes** adds to the sum over all names, up to the greatest count. -/
theorem capped_addCalls (model : Text) (hc : 0 ≤ c.toInt) (h : ∀ m ∈ ms, 0 ≤ m.2.toInt) :
    min Int64.maxValue.toInt (overall (addCalls model c ms)) =
      min Int64.maxValue.toInt (overall ms + c.toInt) := by
  have hnew : (Count.add 0 c).toInt = c.toInt := by
    rw [Count.toInt_add, Int64.toInt_zero, Int.zero_add, Count.clamp_toInt]
  induction ms with
  | nil => rw [addCalls, overall_cons, overall_nil, hnew, Int.add_comm]
  | cons m ms ih =>
    obtain ⟨name, d⟩ := m
    rw [List.forall_mem_cons] at h
    have hfirst : 0 ≤ d.toInt := h.1
    have hrest := overall_nonneg h.2
    rw [addCalls]
    split
    · -- If the name has got to the greatest count, so has the sum.
      rw [overall_cons, overall_cons, Count.toInt_add, Count.clamp_of_nonneg (by omega)]
      omega
    · split
      · rw [overall_cons, hnew, Int.add_comm]
      · have hadded := ih h.2
        rw [overall_cons, overall_cons]
        omega

/-! ## Adding one after another -/

/-- The counts after some more have come. -/
def addAll (ms cs : List (Text × Count)) : List (Text × Count) :=
  cs.foldl (fun ms c => addCalls c.1 c.2 ms) ms

/-- The counts that have come for a name. -/
def countsOf (name : Text) (cs : List (Text × Count)) : List Count :=
  (cs.filter (·.1 = name)).map (·.2)

variable {cs : List (Text × Count)}

theorem isRising_addAll (h : IsRising ms) : IsRising (addAll ms cs) := by
  induction cs generalizing ms with
  | nil => exact h
  | cons c cs ih => exact ih (isRising_addCalls h)

theorem countsOf_cons (name : Text) (c : Text × Count) (cs : List (Text × Count)) :
    countsOf name (c :: cs) = if c.1 = name then c.2 :: countsOf name cs else countsOf name cs := by
  rw [countsOf, List.filter_cons]
  by_cases h : c.1 = name
  · rw [if_pos h, if_pos (by simpa using h)]; rfl
  · rw [if_neg h, if_neg (by simpa using h)]; rfl

/-- **The count of a name** is the one it had, with all that have come for it added in their
order. -/
theorem lookup_addAll (h : IsRising ms) (name : Text) :
    (addAll ms cs).lookup name =
      if countsOf name cs = [] then ms.lookup name
      else some ((countsOf name cs).foldl Count.add ((ms.lookup name).getD 0)) := by
  induction cs generalizing ms with
  | nil => rfl
  | cons c cs ih =>
    show (addAll (addCalls c.1 c.2 ms) cs).lookup name = _
    rw [ih (isRising_addCalls h), lookup_addCalls h, countsOf_cons]
    by_cases hname : name = c.1
    · subst hname
      rw [if_pos rfl, if_pos rfl, if_neg (List.cons_ne_nil _ _)]
      split
      · next hnone => rw [hnone]; rfl
      · rfl
    · rw [if_neg hname, if_neg (Ne.symm hname)]

/-- **The sum over all names** is the exact one of all that has come, or the greatest count. -/
theorem capped_addAll (hcs : ∀ c ∈ cs, 0 ≤ c.2.toInt) (h : ∀ m ∈ ms, 0 ≤ m.2.toInt) :
    (∀ m ∈ addAll ms cs, 0 ≤ m.2.toInt) ∧
      min Int64.maxValue.toInt (overall (addAll ms cs)) =
        min Int64.maxValue.toInt (overall ms + overall cs) := by
  induction cs generalizing ms with
  | nil =>
    rw [overall_nil, Int.add_zero]
    exact ⟨h, rfl⟩
  | cons c cs ih =>
    obtain ⟨name, d⟩ := c
    rw [List.forall_mem_cons] at hcs
    have hd : 0 ≤ d.toInt := hcs.1
    have hnext := ih hcs.2 (nonneg_addCalls name hd h)
    have hstep := capped_addCalls name hd h
    have hrest := overall_nonneg hcs.2
    refine ⟨hnext.1, hnext.2.trans ?_⟩
    rw [overall_cons]
    omega

theorem toInt_total_addAll (hcs : ∀ c ∈ cs, 0 ≤ c.2.toInt) :
    (Count.total ((addAll [] cs).map (·.2))).toInt =
      min Int64.maxValue.toInt (overall cs) := by
  obtain ⟨hnonneg, hsum⟩ := capped_addAll hcs fun m hm => absurd hm List.not_mem_nil
  rw [Count.toInt_total_of_nonneg (List.forall_mem_map.2 hnonneg), ← overall, hsum, overall_nil,
    Int.zero_add]

end UsageAnswer
end ProxySteward
