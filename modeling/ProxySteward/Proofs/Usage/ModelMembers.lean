import ProxySteward.Proofs.Usage.ReportForm

/-!
# The models of a key, as they are written

The models of a key come as an object whose members are names with counts, and a name may come more
than once.  `HoldsCounts` reads an object in this way: as the list of its members, in their order
and with repetitions.  What a member counts is told by `CountsAs`.  It is a number that may stand
for itself or inside of a record, and for a value that holds none it is zero.

The members are then put in one after another, so what is decoded are the counts of `addAll`
(`models_of_holdsCounts`).  Adding stops at the greatest count, first for each name and then for the
sum of all names.  The main statement is `models_sum`: as long as no count is negative, all that the
two kinds of stops come to is that the exact sum is cut off once.  So the order of the members does
not matter, and no member is lost.
-/

namespace ProxySteward
namespace UsageAnswer

open Text

variable {name : Text} {input rest : Bytes} {i : Int}

/-! ## What a member counts -/

/-- What a record holds in one of its fields: a number, or nothing if the field is missing or null.
A field that is given twice or holds something else has no meaning. -/
inductive FieldHolds (name : Text) (ms : List (Text × Json.Buffered)) : Option Int → Prop
  | missing (h : ms.filter (·.1 = name) = []) : FieldHolds name ms none
  | null (h : ms.filter (·.1 = name) = [(name, .null)]) : FieldHolds name ms none
  | number (i : Int) (h : ms.filter (·.1 = name) = [(name, .count i)]) : FieldHolds name ms
    (some i)

/-- What the value of a model counts: a number itself, a record its total or else its plain number
of requests, and nothing at all zero. -/
inductive CountsAs : Option Json.Buffered → Int → Prop
  | null : CountsAs none 0
  | number (i : Int) : CountsAs (some (.count i)) i
  | record {ms : List (Text × Json.Buffered)} {total plain : Option Int}
      (htotal : FieldHolds "total_requests".toList ms total)
      (hplain : FieldHolds "requests".toList ms plain) :
      CountsAs (some (.object ms)) ((total <|> plain).getD 0)

theorem FieldHolds.countNamed? {ms : List (Text × Json.Buffered)} {i? : Option Int}
    (h : FieldHolds name ms i?) : countNamed? name ms = some (i?.map Int64.ofInt) := by
  cases h with
  | missing h => rw [UsageAnswer.countNamed?, h]; rfl
  | null h => rw [UsageAnswer.countNamed?, h]; rfl
  | number i h => rw [UsageAnswer.countNamed?, h]; rfl

theorem FieldHolds.mem {ms : List (Text × Json.Buffered)} (h : FieldHolds name ms (some i)) :
    (name, .count i) ∈ ms := by
  cases h with
  | number _ h => exact (List.mem_filter.1 (h ▸ List.mem_singleton_self _)).1

theorem modelCalls?_of_countsAs {v : Json.Buffered} (h : CountsAs (some v) i) :
    modelCalls? v = some (Int64.ofInt i) := by
  cases h with
  | number i => rfl
  | @record ms total plain htotal hplain =>
    rw [modelCalls?, htotal.countNamed?, hplain.countNamed?]
    cases total with
    | some t => rfl
    | none =>
      cases plain with
      | some p => rfl
      | none => rfl

/-- The value of a model, read in general. -/
def memberValue : Json.Reader (Option Json.Buffered) := Json.optional (Json.buffered modelDepth)

theorem modelValue_of_countsAs {v : Option Json.Buffered}
    (hread : memberValue input = .ok (v, rest)) (h : CountsAs v i) :
    modelValue input = .ok (Int64.ofInt i, rest) := by
  rw [modelValue, ← memberValue, hread]
  cases v with
  | none =>
    cases h
    rfl
  | some v =>
    dsimp only
    rw [modelCalls?_of_countsAs h]

/-- **What a member counts** has 64 bits. -/
theorem isCount_of_countsAs {v : Option Json.Buffered} (hread : memberValue input = .ok (v, rest))
    (h : CountsAs v i) : Json.isCount i = true := by
  cases h with
  | null => decide
  | number i => exact Json.isCount_of_buffered (Json.optional_eq_ok_some hread)
  | @record ms total plain htotal hplain =>
    have hmember : ∀ {name : Text} {i : Int},
        FieldHolds name ms (some i) → Json.isCount i = true := by
      intro name i hfield
      obtain ⟨_, _, _, hvalue⟩ :=
        Json.exists_of_mem_buffered (Json.optional_eq_ok_some hread) _ hfield.mem
      exact Json.isCount_of_buffered hvalue
    cases total with
    | some t => exact hmember htotal
    | none =>
      cases plain with
      | some p => exact hmember hplain
      | none => decide

theorem toInt_ofInt_of_isCount (h : Json.isCount i = true) : (Int64.ofInt i).toInt = i := by
  rw [Json.isCount, Bool.and_eq_true, decide_eq_true_eq, decide_eq_true_eq, Int64.toInt_minValue,
    Int64.toInt_maxValue] at h
  exact Int64.toInt_ofInt_of_le (by omega) (by omega)

/-! ## The members of an object -/

/-- A text begins with an object whose members are, in this order and with these repetitions, models
with what they count. -/
def HoldsCounts (input : Bytes) (cs : List (Text × Int)) (rest : Bytes) : Prop :=
  ∃ vs, Json.memberList memberValue input = .ok (vs, rest) ∧
    List.Forall₂ (fun v c => v.1 = c.1 ∧ CountsAs v.2 c.2) vs cs

/-- What a member counts, with 64 bits. -/
def toCount (c : Text × Int) : Text × Count := (c.1, Int64.ofInt c.2)

variable {cs : List (Text × Int)}

theorem HoldsCounts.isCount (h : HoldsCounts input cs rest) :
    ∀ c ∈ cs, Json.isCount c.2 = true := by
  obtain ⟨vs, hread, hvs⟩ := h
  have hvalues := Json.exists_of_mem_memberList hread
  clear hread
  induction hvs with
  | nil => exact fun c hc => absurd hc List.not_mem_nil
  | cons hv _ ih =>
    rw [List.forall_mem_cons] at hvalues ⊢
    obtain ⟨_, _, hvalue⟩ := hvalues.1
    exact ⟨isCount_of_countsAs hvalue hv.2, ih hvalues.2⟩

/-- **What is decoded** of an object are its members, added one after another. -/
theorem models_of_holdsCounts (h : HoldsCounts input cs rest) :
    models input = .ok (addAll [] (cs.map toCount), rest) := by
  obtain ⟨vs, hread, hvs⟩ := h
  have hreread : List.Forall₂ (Json.Reread memberValue modelValue) vs (cs.map toCount) :=
    List.forall₂_map_right_iff.2 (hvs.imp fun v c hc =>
      ⟨hc.1, fun _ _ hvalue => modelValue_of_countsAs hvalue hc.2⟩)
  rw [models, Json.optional_map_of_eq_ok (Json.map_of_memberList hread hreread [])]
  rfl

/-! ## The sums -/

theorem exactSum_toCount (h : ∀ c ∈ cs, Json.isCount c.2 = true) :
    Count.exactSum ((cs.map toCount).map (·.2)) = (cs.map (·.2)).sum := by
  rw [Count.exactSum, List.map_map, List.map_map]
  exact congrArg List.sum (List.map_congr_left fun c hc => toInt_ofInt_of_isCount (h c hc))

theorem countsOf_toCount (name : Text) (cs : List (Text × Int)) :
    countsOf name (cs.map toCount) = ((cs.filter (·.1 = name)).map toCount).map (·.2) := by
  rw [countsOf, List.filter_map]
  rfl

theorem nonneg_toCount (h : HoldsCounts input cs rest) (hnonneg : ∀ c ∈ cs, 0 ≤ c.2) :
    ∀ c ∈ cs.map toCount, 0 ≤ c.2.toInt := by
  refine List.forall_mem_map.2 fun c hc => ?_
  rw [toCount, toInt_ofInt_of_isCount (h.isCount c hc)]
  exact hnonneg c hc

/-- The count that is decoded for one name. -/
theorem lookup_addAll_toCount (h : HoldsCounts input cs rest) (hnonneg : ∀ c ∈ cs, 0 ≤ c.2)
    (name : Text) :
    ((addAll [] (cs.map toCount)).lookup name).map (·.toInt) =
      if name ∈ cs.map (·.1) then
        some (min Int64.maxValue.toInt ((cs.filter (·.1 = name)).map (·.2)).sum)
      else none := by
  have hall := nonneg_toCount h hnonneg
  have hcounts : ∀ d ∈ countsOf name (cs.map toCount), 0 ≤ d.toInt :=
    List.forall_mem_map.2 fun c hc => hall c (List.mem_filter.1 hc).1
  have hsum : Count.exactSum (countsOf name (cs.map toCount)) =
      ((cs.filter (·.1 = name)).map (·.2)).sum := by
    rw [countsOf_toCount]
    exact exactSum_toCount fun c hc => h.isCount c (List.mem_filter.1 hc).1
  have hnone : countsOf name (cs.map toCount) = [] ↔ name ∉ cs.map (·.1) := by
    rw [countsOf_toCount, List.map_eq_nil_iff, List.map_eq_nil_iff, List.filter_eq_nil_iff]
    constructor
    · intro hnot hmem
      obtain ⟨c, hc, hname⟩ := List.mem_map.1 hmem
      exact hnot c hc (decide_eq_true hname)
    · exact fun hnot c hc hname => hnot (List.mem_map.2 ⟨c, hc, of_decide_eq_true hname⟩)
  rw [lookup_addAll List.Pairwise.nil]
  by_cases hmem : name ∈ cs.map (·.1)
  · rw [if_neg fun hnil => hnone.1 hnil hmem, if_pos hmem, ← hsum,
      ← Count.toInt_total_of_nonneg hcounts]
    rfl
  · rw [if_pos (hnone.2 hmem), if_neg hmem]
    rfl

/-- **Models that come more than once are added up**, and nothing is lost but what is beyond the
greatest count.  Take any text that begins with an object of models none of which counts less than
zero.

* It is read, and each name on it has the exact sum of what its members count, or the greatest
  count.
* The total of a key with these models that states none is the exact sum over all members, or the
  greatest count.
* An object with the same members in another order is read as the same models. -/
theorem models_sum {input rest : Bytes} {cs : List (Text × Int)} (h : HoldsCounts input cs rest)
    (hnonneg : ∀ c ∈ cs, 0 ≤ c.2) :
    ∃ ms, models input = .ok (ms, rest) ∧
      (∀ name, (ms.lookup name).map (·.toInt) =
        if name ∈ cs.map (·.1) then
          some (min Int64.maxValue.toInt ((cs.filter (·.1 = name)).map (·.2)).sum)
        else none) ∧
      (∀ k : KeyReport, k.requests = none → k.models = ms →
        k.total.toInt = min Int64.maxValue.toInt (cs.map (·.2)).sum) ∧
      ∀ input' rest' cs', HoldsCounts input' cs' rest' → cs'.Perm cs →
        models input' = .ok (ms, rest') := by
  refine ⟨addAll [] (cs.map toCount), models_of_holdsCounts h, lookup_addAll_toCount h hnonneg,
    fun k hrequests hmodels => ?_, fun input' rest' cs' h' hperm => ?_⟩
  · rw [KeyReport.total, hrequests, hmodels, Option.getD_none,
      toInt_total_addAll (nonneg_toCount h hnonneg), overall, exactSum_toCount h.isCount]
  · rw [models_of_holdsCounts h']
    have hnonneg' : ∀ c ∈ cs', 0 ≤ c.2 := fun c hc => hnonneg c (hperm.subset hc)
    -- Two rising lists of counts are the same if they say the same of each name, and the sums do
    -- not see the order.
    have hsame : addAll [] (cs'.map toCount) = addAll [] (cs.map toCount) := by
      refine IsRising.eq_of_lookup (isRising_addAll List.Pairwise.nil)
        (isRising_addAll List.Pairwise.nil) fun name => ?_
      have hlookup := (lookup_addAll_toCount h' hnonneg' name).trans
        ((?_ : _ = _).trans (lookup_addAll_toCount h hnonneg name).symm)
      · exact Option.map_injective (fun a b hab => Int64.toInt_inj.1 hab) hlookup
      · rw [((hperm.filter _).map _).sum_eq]
        simp only [(hperm.map _).mem_iff]
    rw [hsame]

/-- An object in which a model comes twice and goes beyond the greatest count. -/
def twiceGiven : Bytes :=
  encode ("\x7b\"m\": 9223372036854775807, \"n\": \x7b\"requests\": 2\x7d, " ++
  "\"m\": \x7b\"total_requests\": 1, \"requests\": 5\x7d, \"x\": null\x7d").toList

/-- What its members count. -/
def twiceCounts : List (Text × Int) :=
  [("m".toList, 9223372036854775807), ("n".toList, 2), ("m".toList, 1), ("x".toList, 0)]

unseal decode? in
theorem holdsCounts_twiceGiven : HoldsCounts twiceGiven twiceCounts [] := by
  refine ⟨[("m".toList, some (.count 9223372036854775807)),
    ("n".toList, some (.object [("requests".toList, .count 2)])),
    ("m".toList, some (.object [("total_requests".toList, .count 1),
      ("requests".toList, .count 5)])),
    ("x".toList, none)], by rfl, ?_⟩
  refine .cons ⟨rfl, .number _⟩
    (.cons ⟨rfl, ?_⟩ (.cons ⟨rfl, ?_⟩ (.cons ⟨rfl, .null⟩ .nil)))
  · exact @CountsAs.record _ none (some 2) (.missing rfl) (.number 2 rfl)
  · exact @CountsAs.record _ (some 1) (some 5) (.number 1 rfl) (.number 5 rfl)

theorem models_sum_lone :
    HoldsCounts twiceGiven twiceCounts [] ∧ (∀ c ∈ twiceCounts, 0 ≤ c.2) ∧
    ∃ ms, models twiceGiven = .ok (ms, []) ∧
      (ms.lookup "m".toList).map (·.toInt) = some Int64.maxValue.toInt ∧
      (ms.lookup "n".toList).map (·.toInt) = some 2 ∧
      (ms.lookup "x".toList).map (·.toInt) = some 0 ∧
      ({ KeyReport.empty with models := ms } : KeyReport).total.toInt = Int64.maxValue.toInt := by
  have hnonneg : ∀ c ∈ twiceCounts, 0 ≤ c.2 := by decide
  obtain ⟨ms, hread, hlookup, htotal, -⟩ := models_sum holdsCounts_twiceGiven hnonneg
  exact ⟨holdsCounts_twiceGiven, hnonneg, ms, hread, (hlookup _).trans (by decide),
    (hlookup _).trans (by decide), (hlookup _).trans (by decide),
    (htotal _ rfl rfl).trans (by decide)⟩

end UsageAnswer
end ProxySteward
