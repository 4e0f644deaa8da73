import ProxySteward.Proofs.Usage.CountSums
import ProxySteward.Proofs.Usage.Ranking

/-!
# The totals that are shown

Where keys are listed, the totals shown are sums over them, taken in the order of the list.  The
counts come from the server and may be any 64-bit numbers, so both sums may stop at an end of the
range.

The keys of a summary fall by their requests, so the sum of the requests rises first and then falls
(`Count.toInt_total_of_falling`): it is the exact one unless the positive counts alone go beyond the
range.  The tokens stand in no order.  Their sum is told if none of them is negative, and then the
order does not matter.
-/

namespace ProxySteward
namespace UsageSummary

variable {s : UsageSummary}

theorem shownRequests_of_ne_nil (h : s.keys ≠ []) :
    s.shownRequests = Count.total (s.keys.map (·.requests)) := by
  rw [shownRequests, if_neg (by simpa using h)]

theorem shownTokens_of_ne_nil (h : s.keys ≠ []) :
    s.shownTokens = Count.total (s.keys.map (·.tokens)) := by
  rw [shownTokens, if_neg (by simpa using h)]

end UsageSummary

namespace UsageReport

open UsageSummary

/-- The keys of a summary fall by their requests. -/
theorem falling_requests_summarize (r : UsageReport) :
    (r.summarize.keys.map (·.requests)).Pairwise fun a b => b.toInt ≤ a.toInt := by
  refine List.pairwise_map.2 ((KeyReport.pairwise_mergeSort _ _ _).imp fun {u v} h => ?_)
  rcases h with h | ⟨h, -⟩
  · exact Int.le_of_lt (Int64.lt_iff_toInt_lt.1 h)
  · exact Int.le_of_eq (congrArg Int64.toInt h.symm)

/-- **The totals that are shown are the exact ones, cut off at the ends of the range.**  Take any
report whose summary lists a key.

* The requests shown are the positive totals added up, or the greatest count, with the negative
  totals then taken from that, or the least count.  They are the exact sum if that sum and the sum
  of the positive totals are in the range.
* If no key has a negative number of tokens, the tokens shown are the exact sum, or the greatest
  count, in whatever order the keys are listed. -/
theorem shown_summarize (r : UsageReport) (hkeys : r.summarize.keys ≠ []) :
    let s := r.summarize
    let requests := s.keys.map (·.requests)
    let tokens := s.keys.map (·.tokens)
    s.shownRequests.toInt =
      max Int64.minValue.toInt
        (min Int64.maxValue.toInt (Count.gain requests) + Count.loss requests) ∧
    (Count.gain requests ≤ Int64.maxValue.toInt →
      Int64.minValue.toInt ≤ Count.exactSum requests →
      s.shownRequests.toInt = Count.exactSum requests) ∧
    ((∀ u ∈ s.keys, 0 ≤ u.tokens.toInt) → ∀ keys, keys.Perm s.keys →
      ({ s with keys := keys } : UsageSummary).shownTokens.toInt =
        min Int64.maxValue.toInt (Count.exactSum tokens)) := by
  intro s requests tokens
  have hsum : s.shownRequests.toInt = max Int64.minValue.toInt
      (min Int64.maxValue.toInt (Count.gain requests) + Count.loss requests) := by
    rw [shownRequests_of_ne_nil hkeys]
    exact Count.toInt_total_of_falling r.falling_requests_summarize
  refine ⟨hsum, fun hgain hexact => ?_, fun htokens keys hperm => ?_⟩
  · have hsplit := Count.gain_add_loss requests
    rw [hsum]
    omega
  · have hne : keys ≠ [] := fun hnil => hkeys (List.nil_perm.1 (hnil ▸ hperm))
    have hnonneg : ∀ c ∈ keys.map (·.tokens), 0 ≤ c.toInt :=
      List.forall_mem_map.2 fun u hu => htokens u (hperm.subset hu)
    have hshown : ({ s with keys := keys } : UsageSummary).shownTokens =
        Count.total (keys.map (·.tokens)) := shownTokens_of_ne_nil hne
    rw [hshown, Count.toInt_total_of_nonneg hnonneg]
    exact congrArg _ (Count.exactSum_perm (hperm.map _))

/-- A report in which both sums go beyond the greatest count, and the requests come back from
there. -/
def excessiveReport : UsageReport := ⟨none, none, [
  ("a".toList, ⟨some (-3), some 1, []⟩),
  ("b".toList, ⟨some Int64.maxValue, some Int64.maxValue, []⟩),
  ("c".toList, ⟨some 5, some 1, []⟩)]⟩

/-- The usage of the keys in that report. -/
def excessiveKeys : List KeyUsage := [
  ⟨"a".toList, mask "a".toList, -3, 1, []⟩,
  ⟨"b".toList, mask "b".toList, Int64.maxValue, Int64.maxValue, []⟩,
  ⟨"c".toList, mask "c".toList, 5, 1, []⟩]

theorem keys_excessiveReport : excessiveReport.summarize.keys.Perm excessiveKeys := by
  have husages : excessiveReport.usages = excessiveKeys := by decide +kernel
  exact husages ▸ excessiveReport.keys_summarize_perm

theorem shown_summarize_lone :
    excessiveReport.summarize.keys ≠ [] ∧
    excessiveReport.summarize.shownRequests.toInt = Int64.maxValue.toInt - 3 ∧
    ∀ keys, keys.Perm excessiveReport.summarize.keys →
      ({ excessiveReport.summarize with keys := keys } : UsageSummary).shownTokens.toInt =
        Int64.maxValue.toInt := by
  have hkeys := keys_excessiveReport
  have hne : excessiveReport.summarize.keys ≠ [] := fun hnil => by
    simpa [hnil, excessiveKeys] using hkeys.length_eq
  have hnonneg : ∀ u ∈ excessiveReport.summarize.keys, 0 ≤ u.tokens.toInt := fun u hu =>
    (by decide : ∀ u ∈ excessiveKeys, 0 ≤ u.tokens.toInt) u (hkeys.subset hu)
  obtain ⟨hrequests, -, htokens⟩ := shown_summarize excessiveReport hne
  refine ⟨hne, ?_, fun keys hperm => ?_⟩
  · have hsummed := hkeys.map (·.requests)
    rw [hrequests, Count.gain, Count.loss, Count.exactSum_perm (hsummed.filter _),
      Count.exactSum_perm (hsummed.filter _)]
    decide
  · rw [htokens hnonneg keys hperm, Count.exactSum_perm (hkeys.map _)]
    decide

end UsageReport
end ProxySteward
