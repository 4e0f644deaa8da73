import Mathlib.Algebra.BigOperators.Group.List.Basic
import Mathlib.Algebra.Ring.Int.Defs
import ProxySteward.Usage.Count

/-!
# Sums of counts

A sum of counts stops at the ends of the range at every step, and not only at the end.  So it is no
function of the exact sum: `[greatest, 1, -1]` comes to one less than `[1, -1, greatest]`.  Adding
counts of one sign moves in one direction, though, and then a sum that has stopped once stays where
it is.  `toInt_foldl_add` says that such a sum is the exact one, put into the range once.

From this the sums of the two kinds of lists that occur are read off.

* If no count is negative, the sum is the exact one or the greatest count, in any order
  (`toInt_total_of_nonneg`).
* If the counts fall, the positive ones come first.  The sum rises to at most the greatest count,
  and the negative ones are taken from where it has got to (`toInt_total_of_falling`).
-/

namespace ProxySteward
namespace Count

variable {c : Count} {cs : List Count}

/-- The integer in the range of counts that is next to `i`. -/
def clamp (i : Int) : Int := max Int64.minValue.toInt (min Int64.maxValue.toInt i)

theorem clamp_eq_self {i : Int} (hleast : Int64.minValue.toInt ≤ i)
    (hgreatest : i ≤ Int64.maxValue.toInt) : clamp i = i := by
  rw [clamp]
  omega

theorem clamp_toInt (c : Count) : clamp c.toInt = c.toInt :=
  clamp_eq_self c.minValue_le_toInt c.toInt_le

theorem clamp_of_nonneg {i : Int} (h : 0 ≤ i) : clamp i = min Int64.maxValue.toInt i := by
  have hleast := Int64.toInt_minValue_lt_zero
  have hgreatest := (0 : Count).toInt_le
  rw [Int64.toInt_zero] at hgreatest
  rw [clamp]
  omega

theorem toInt_add (a b : Count) : (add a b).toInt = clamp (a.toInt + b.toInt) := by
  have hrange : Int64.minValue.toInt ≤ Int64.maxValue.toInt := by decide
  rw [add, Int64.ofIntClamp, clamp]
  split
  · split
    · rw [Int64.toInt_ofIntLE]
      omega
    · omega
  · omega

/-! ## Exact sums -/

/-- The exact sum of counts. -/
def exactSum (cs : List Count) : Int := (cs.map (·.toInt)).sum

/-- The exact sum of the positive counts. -/
def gain (cs : List Count) : Int := exactSum (cs.filter (0 < ·.toInt))

/-- The exact sum of the negative counts. -/
def loss (cs : List Count) : Int := exactSum (cs.filter (·.toInt < 0))

@[simp] theorem exactSum_nil : exactSum [] = 0 := rfl

@[simp] theorem exactSum_cons (c : Count) (cs : List Count) :
    exactSum (c :: cs) = c.toInt + exactSum cs := List.sum_cons

theorem exactSum_perm {ds : List Count} (h : cs.Perm ds) : exactSum cs = exactSum ds :=
  (h.map _).sum_eq

theorem exactSum_nonneg (h : ∀ c ∈ cs, 0 ≤ c.toInt) : 0 ≤ exactSum cs := by
  induction cs with
  | nil => exact Int.le_refl 0
  | cons c cs ih =>
    rw [List.forall_mem_cons] at h
    have hrest := ih h.2
    rw [exactSum_cons]
    omega

theorem exactSum_nonpos (h : ∀ c ∈ cs, c.toInt ≤ 0) : exactSum cs ≤ 0 := by
  induction cs with
  | nil => exact Int.le_refl 0
  | cons c cs ih =>
    rw [List.forall_mem_cons] at h
    have hrest := ih h.2
    rw [exactSum_cons]
    omega

theorem gain_cons (c : Count) (cs : List Count) :
    gain (c :: cs) = max 0 c.toInt + gain cs := by
  rw [gain, List.filter_cons]
  split
  · next h =>
    rw [exactSum_cons, ← gain,
      Int.max_eq_right (by simpa using Int.le_of_lt (of_decide_eq_true h))]
  · next h => rw [← gain, Int.max_eq_left (by simpa using h), Int.zero_add]

theorem loss_cons (c : Count) (cs : List Count) :
    loss (c :: cs) = min 0 c.toInt + loss cs := by
  rw [loss, List.filter_cons]
  split
  · next h =>
    rw [exactSum_cons, ← loss,
      Int.min_eq_right (by simpa using Int.le_of_lt (of_decide_eq_true h))]
  · next h => rw [← loss, Int.min_eq_left (by simpa using h), Int.zero_add]

theorem gain_add_loss (cs : List Count) : gain cs + loss cs = exactSum cs := by
  induction cs with
  | nil => rfl
  | cons c cs ih =>
    rw [gain_cons, loss_cons, exactSum_cons, ← ih]
    omega

theorem loss_nonpos (cs : List Count) : loss cs ≤ 0 :=
  exactSum_nonpos fun c hc => by
    have hneg := (List.mem_filter.1 hc).2
    rw [decide_eq_true_eq] at hneg
    omega

/-! ## Sums that stop -/

/-- **Counts of one sign** are added up exactly, and put into the range once. -/
theorem toInt_foldl_add (a : Count)
    (h : (∀ c ∈ cs, 0 ≤ c.toInt) ∨ ∀ c ∈ cs, c.toInt ≤ 0) :
    (cs.foldl add a).toInt = clamp (a.toInt + exactSum cs) := by
  induction cs generalizing a with
  | nil => rw [List.foldl_nil, exactSum_nil, Int.add_zero, clamp_toInt]
  | cons c cs ih =>
    have hrest : (∀ c ∈ cs, 0 ≤ c.toInt) ∨ ∀ c ∈ cs, c.toInt ≤ 0 :=
      h.imp (fun h => (List.forall_mem_cons.1 h).2) fun h => (List.forall_mem_cons.1 h).2
    -- Behind a sum that has stopped, the rest goes on in the direction in which it has stopped.
    have hsign : 0 ≤ c.toInt ∧ 0 ≤ exactSum cs ∨ c.toInt ≤ 0 ∧ exactSum cs ≤ 0 := by
      rcases h with h | h
      · exact Or.inl ⟨(List.forall_mem_cons.1 h).1,
          exactSum_nonneg (List.forall_mem_cons.1 h).2⟩
      · exact Or.inr ⟨(List.forall_mem_cons.1 h).1,
          exactSum_nonpos (List.forall_mem_cons.1 h).2⟩
    have hleast := a.minValue_le_toInt
    have hgreatest := a.toInt_le
    rw [List.foldl_cons, ih _ hrest, toInt_add, exactSum_cons, clamp, clamp, clamp]
    omega

/-- **Counts that are not negative** add up to the exact sum, or to the greatest count. -/
theorem toInt_total_of_nonneg (h : ∀ c ∈ cs, 0 ≤ c.toInt) :
    (total cs).toInt = min Int64.maxValue.toInt (exactSum cs) := by
  rw [total, toInt_foldl_add 0 (Or.inl h), Int64.toInt_zero, Int.zero_add,
    clamp_of_nonneg (exactSum_nonneg h)]

/-- Counts that fall are the positive ones, and then the others. -/
theorem filter_append_filter_of_falling (h : cs.Pairwise fun a b => b.toInt ≤ a.toInt) :
    cs.filter (0 < ·.toInt) ++ cs.filter (·.toInt ≤ 0) = cs := by
  induction cs with
  | nil => rfl
  | cons c cs ih =>
    rw [List.pairwise_cons] at h
    by_cases hc : 0 < c.toInt
    · rw [List.filter_cons_of_pos (by simpa using hc), List.filter_cons_of_neg (by simpa using hc),
        List.cons_append, ih h.2]
    · have hall : ∀ d ∈ c :: cs, d.toInt ≤ 0 := List.forall_mem_cons.2
        ⟨by omega, fun d hd => by have hle := h.1 d hd; omega⟩
      rw [List.filter_eq_nil_iff.2 fun d hd => by simpa using hall d hd,
        List.filter_eq_self.2 fun d hd => by simpa using hall d hd, List.nil_append]

/-- **Counts that fall** rise to at most the greatest count, and fall from there to at least the
least one. -/
theorem toInt_total_of_falling (h : cs.Pairwise fun a b => b.toInt ≤ a.toInt) :
    (total cs).toInt =
      max Int64.minValue.toInt (min Int64.maxValue.toInt (gain cs) + loss cs) := by
  have hpos : ∀ c ∈ cs.filter (0 < ·.toInt), 0 ≤ c.toInt := fun c hc => by
    have hlt := (List.mem_filter.1 hc).2
    rw [decide_eq_true_eq] at hlt
    omega
  have hneg : ∀ c ∈ cs.filter (·.toInt ≤ 0), c.toInt ≤ 0 := fun c hc => by
    simpa using (List.mem_filter.1 hc).2
  have hloss : exactSum (cs.filter (·.toInt ≤ 0)) = loss cs := by
    have hsum : exactSum cs = gain cs + exactSum (cs.filter (·.toInt ≤ 0)) := by
      conv => lhs; rw [← filter_append_filter_of_falling h]
      rw [exactSum, List.map_append, List.sum_append]
      rfl
    have hsplit := gain_add_loss cs
    omega
  have hgain : (total (cs.filter (0 < ·.toInt))).toInt = min Int64.maxValue.toInt (gain cs) :=
    toInt_total_of_nonneg hpos
  have hnonpos := loss_nonpos cs
  conv => lhs; rw [← filter_append_filter_of_falling h]
  rw [total, List.foldl_append, ← total, toInt_foldl_add _ (Or.inr hneg), hgain, hloss, clamp]
  omega

end Count
end ProxySteward
