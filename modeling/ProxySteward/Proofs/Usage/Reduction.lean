import ProxySteward.Proofs.Usage.Ranking
import ProxySteward.Proofs.Usage.ReportForm

/-!
# What a summary keeps of a report

A summary is made of a report by dropping and sorting.  For each key the models are dropped that
were not called or that have to give way to preferred ones, and then the keys of which nothing is
left.  Both rests are ranked.

What is dropped is told by membership (`KeyReport.mem_calls_iff`, `UsageReport.mem_keys_summarize`),
and sorting does not change membership.  As a proper report names everything once, the ranking is
strict and the order of the report is forgotten (`UsageReport.summarize_canonical`).

A key can only be dropped if its total is zero, and zero is also what a summary answers for keys it
does not list.  So a summary gives the total of every key of the report
(`UsageReport.requestsOf_summarize`).  The total is that of all models and the list is not, so a key
with a total of zero is listed as soon as a model of its list was called, and one with another total
even if the list is empty.
-/

namespace ProxySteward

open Text

namespace KeyReport

variable {k : KeyReport} {id model : Text} {n : Count} {u : KeyUsage}

/-- A model may be listed for a key if it carries the mark, or if no model of the key does. -/
def IsEligible (k : KeyReport) (model : Text) : Prop :=
  preferredFront <+: model ∨ ∀ p ∈ k.models, ¬ preferredFront <+: p.1

theorem isPreferred_iff : isPreferred model = true ↔ preferredFront <+: model := by
  rw [isPreferred, startsWith_iff]
  exact ⟨fun ⟨rest, h⟩ => ⟨rest, h.symm⟩, fun ⟨rest, h⟩ => ⟨rest, h.symm⟩⟩

theorem lists_iff : k.lists (model, n) = true ↔ k.IsEligible model ∧ 0 < n := by
  rw [lists, Bool.and_eq_true, Bool.or_eq_true, decide_eq_true_eq, isPreferred_iff, or_comm,
    Bool.not_eq_true', hasPreferred, List.any_eq_false]
  simp only [isPreferred_iff]
  rfl

theorem mem_calls_iff :
    (⟨model, n⟩ : ModelCalls) ∈ k.calls ↔
      (model, n) ∈ k.models ∧ 0 < n ∧ k.IsEligible model := by
  rw [calls, (List.mergeSort_perm _ _).mem_iff, List.mem_map]
  constructor
  · rintro ⟨⟨_, _⟩, hm, heq⟩
    obtain ⟨rfl, rfl⟩ := ModelCalls.mk.inj heq
    obtain ⟨hmem, hlists⟩ := List.mem_filter.1 hm
    exact ⟨hmem, (lists_iff.1 hlists).symm⟩
  · exact fun ⟨hmem, hn, hmodel⟩ =>
      ⟨(model, n), List.mem_filter.2 ⟨hmem, lists_iff.2 ⟨hmodel, hn⟩⟩, rfl⟩

theorem calls_eq_nil_iff :
    k.calls = [] ↔ ∀ model n, (model, n) ∈ k.models → k.IsEligible model → ¬ 0 < n := by
  rw [List.eq_nil_iff_forall_not_mem]
  constructor
  · exact fun h model n hmem hmodel hn => h ⟨model, n⟩ (mem_calls_iff.2 ⟨hmem, hn, hmodel⟩)
  · rintro h ⟨model, n⟩ hcall
    obtain ⟨hmem, hn, hmodel⟩ := mem_calls_iff.1 hcall
    exact h model n hmem hmodel hn

/-- The names of the models that are listed are names of the report. -/
theorem nodup_listed (hk : IsRising k.models) :
    (((k.models.filter k.lists).map fun m => (⟨m.1, m.2⟩ : ModelCalls)).map
      (·.model)).Nodup := by
  rw [List.map_map]
  exact hk.nodup.sublist (List.filter_sublist.map _)

theorem nodup_calls (hk : IsRising k.models) : (k.calls.map (·.model)).Nodup :=
  nodup_mergeSort (nodup_listed hk) _

theorem isRanked_calls (hk : IsRising k.models) :
    IsRanked ModelCalls.requests ModelCalls.model k.calls :=
  isRanked_mergeSort (nodup_listed hk)

theorem usage?_eq_none_iff : k.usage? id = none ↔ k.total = 0 ∧ k.calls = [] := by
  rw [usage?]
  split
  · next h => exact iff_of_true rfl h
  · next h => exact iff_of_false (by simp) h

/-- What is told of a key, if anything is. -/
theorem eq_of_usage? (h : k.usage? id = some u) :
    u = ⟨id, mask id, k.total, k.tokens.getD 0, k.calls⟩ := by
  rw [usage?] at h
  split at h
  · exact absurd h (by simp)
  · exact (Option.some.inj h).symm

end KeyReport

namespace UsageReport

open KeyReport
open UsageAnswer (repetitiveReport isProper_repetitiveReport)

variable {r : UsageReport} {id : Text} {k : KeyReport} {u : KeyUsage}

theorem lookup_keys_eq_some_iff (hr : r.IsProper) :
    r.keys.lookup id = some k ↔ (id, k) ∈ r.keys :=
  lookup_eq_some_iff_mem hr.distinct

theorem nodup_usages (hr : r.IsProper) : (r.usages.map (·.id)).Nodup := by
  have hdistinct := hr.distinct
  rw [List.nodup_iff_pairwise_ne, List.pairwise_map] at hdistinct ⊢
  rw [usages, List.pairwise_filterMap]
  refine hdistinct.imp fun hne u hu v hv => ?_
  rw [eq_of_usage? hu, eq_of_usage? hv]
  exact hne

theorem mem_keys_summarize :
    u ∈ r.summarize.keys ↔ ∃ k, (u.id, k) ∈ r.keys ∧ k.usage? u.id = some u := by
  rw [r.keys_summarize_perm.mem_iff, usages, List.mem_filterMap]
  constructor
  · rintro ⟨⟨id, k⟩, hmem, hu⟩
    have hid : u.id = id := by rw [eq_of_usage? hu]
    exact ⟨k, hid ▸ hmem, hid ▸ hu⟩
  · exact fun ⟨k, hmem, hu⟩ => ⟨(u.id, k), hmem, hu⟩

/-- A key is missing if there is nothing to show of it. -/
theorem forall_id_ne_iff (hr : r.IsProper) (hk : (id, k) ∈ r.keys) :
    (∀ u ∈ r.summarize.keys, u.id ≠ id) ↔ k.usage? id = none := by
  constructor
  · intro h
    by_contra hne
    obtain ⟨u, hu⟩ := Option.ne_none_iff_exists'.1 hne
    have hid : u.id = id := by rw [eq_of_usage? hu]
    exact h u (mem_keys_summarize.2 ⟨k, hid ▸ hk, hid ▸ hu⟩) hid
  · rintro h u hu rfl
    obtain ⟨k', hk', hu'⟩ := mem_keys_summarize.1 hu
    have hsame :=
      ((lookup_keys_eq_some_iff hr).2 hk).symm.trans ((lookup_keys_eq_some_iff hr).2 hk')
    rw [Option.some.inj hsame, hu'] at h
    exact absurd h (by simp)

/-- **A summary is canonical.**  Take any report that names each key once, and the models of each
key once.

* The keys of its summary are distinct, and ranked strictly by falling total and then by rising
  name.
* Each of them is a key of the report.  The models listed for it are distinct and ranked in the same
  way, and they are those that the report counts with more than zero and that may be listed: they
  carry the mark of preferred models, or no model of the key does, not even one with a count of
  zero.
* Every key of the report that has such a model is one of them.
* A report that gives the same keys in another order has the same summary. -/
theorem summarize_canonical (r : UsageReport) (hr : r.IsProper) :
    (r.summarize.keys.map (·.id)).Nodup ∧
    IsRanked KeyUsage.requests KeyUsage.id r.summarize.keys ∧
    (∀ u ∈ r.summarize.keys, ∃ k, r.keys.lookup u.id = some k ∧
      (u.calls.map (·.model)).Nodup ∧
      IsRanked ModelCalls.requests ModelCalls.model u.calls ∧
      ∀ model n, ⟨model, n⟩ ∈ u.calls ↔
        k.models.lookup model = some n ∧ 0 < n ∧ k.IsEligible model) ∧
    (∀ id k, r.keys.lookup id = some k →
      (∃ model n, k.models.lookup model = some n ∧ 0 < n ∧ k.IsEligible model) →
      ∃ u ∈ r.summarize.keys, u.id = id) ∧
    ∀ r' : UsageReport, r'.requests = r.requests → r'.tokens = r.tokens →
      r'.keys.Perm r.keys →
      r'.summarize = r.summarize := by
  refine ⟨nodup_mergeSort (nodup_usages hr) _, isRanked_mergeSort (nodup_usages hr),
    fun u hu => ?_, fun id k hlookup hlisted => ?_, fun r' hrequests htokens hkeys => ?_⟩
  · obtain ⟨k, hk, hu⟩ := mem_keys_summarize.1 hu
    have hrising := hr.rising _ hk
    have hcalls : u.calls = k.calls := by rw [eq_of_usage? hu]
    refine ⟨k, (lookup_keys_eq_some_iff hr).2 hk, ?_, ?_, fun model n => ?_⟩
    · rw [hcalls]
      exact nodup_calls hrising
    · rw [hcalls]
      exact isRanked_calls hrising
    · rw [hcalls, mem_calls_iff, lookup_eq_some_iff_mem hrising.nodup]
  · obtain ⟨model, n, hmodel, hn, heligible⟩ := hlisted
    have hk := (lookup_keys_eq_some_iff hr).1 hlookup
    by_contra hmissing
    have hnone := (forall_id_ne_iff hr hk).1 fun u hu hid => hmissing ⟨u, hu, hid⟩
    have hmem := (lookup_eq_some_iff_mem (hr.rising _ hk).nodup).1 hmodel
    exact calls_eq_nil_iff.1 (usage?_eq_none_iff.1 hnone).2 model n hmem heligible hn
  · have hsorted : r'.summarize.keys = r.summarize.keys :=
      mergeSort_eq_of_perm (nodup_usages hr) (hkeys.filterMap _)
    rw [summarize, summarize, hrequests, htokens]
    exact congrArg _ hsorted

/-- Models that are called equally often are ranked by name, a plain model gives way to preferred
ones, and the report may be turned round. -/
theorem summarize_canonical_lone :
    repetitiveReport.IsProper ∧
    (repetitiveReport.summarize.keys.map (·.id)).Nodup ∧
    IsRanked KeyUsage.requests KeyUsage.id repetitiveReport.summarize.keys ∧
    (∃ u ∈ repetitiveReport.summarize.keys, u.id = "a".toList ∧
      IsRanked ModelCalls.requests ModelCalls.model u.calls ∧
      ⟨"antigravity/y".toList, 5⟩ ∈ u.calls ∧
        ⟨"antigravity/z".toList, 5⟩ ∈ u.calls ∧
      ⟨"x".toList, 2⟩ ∉ u.calls) ∧
    ({ repetitiveReport with keys := repetitiveReport.keys.reverse } : UsageReport).summarize =
      repetitiveReport.summarize := by
  obtain ⟨hnodup, hranked, hcalls, hlisted, hperm⟩ :=
    summarize_canonical repetitiveReport isProper_repetitiveReport
  refine ⟨isProper_repetitiveReport, hnodup, hranked, ?_, hperm _ rfl rfl (List.reverse_perm _)⟩
  have ha : repetitiveReport.keys.lookup "a".toList = some ⟨none, none,
      [("antigravity/y".toList, 5), ("antigravity/z".toList, 5), ("x".toList, 2)]⟩ := by decide
  have hy : KeyReport.preferredFront <+: "antigravity/y".toList := by decide
  obtain ⟨u, hu, hid⟩ :=
    hlisted _ _ ha ⟨"antigravity/y".toList, 5, by decide, by decide, Or.inl hy⟩
  obtain ⟨k, hk, -, hrankedCalls, hmem⟩ := hcalls u hu
  obtain rfl := Option.some.inj (hk.symm.trans (hid ▸ ha))
  refine ⟨u, hu, hid, hrankedCalls, (hmem _ _).2 ⟨by decide, by decide, Or.inl hy⟩,
    (hmem _ _).2 ⟨by decide, by decide, Or.inl (by decide)⟩, fun hx => ?_⟩
  rcases ((hmem _ _).1 hx).2.2 with hmarked | hunmarked
  · exact absurd hmarked (by decide)
  · exact hunmarked ("antigravity/y".toList, 5) (by decide) hy

/-- **No key loses its count.**  Take any report that names each key once, and the models of each
key once.

* Its summary gives for each key of the report the total of that key, which is the one that the
  report states, or else the sum over all models of the key, and zero for any other key.
* A key of the report is missing from the summary exactly if its total is zero and no model that may
  be listed for it has a count above zero. -/
theorem requestsOf_summarize (r : UsageReport) (hr : r.IsProper) :
    (∀ id, r.summarize.requestsOf id =
      match r.keys.lookup id with
      | some k => k.requests.getD (Count.total (k.models.map (·.2)))
      | none => 0) ∧
    ∀ id k, r.keys.lookup id = some k →
      ((∀ u ∈ r.summarize.keys, u.id ≠ id) ↔
        k.requests.getD (Count.total (k.models.map (·.2))) = 0 ∧
          ∀ model n, k.models.lookup model = some n → k.IsEligible model → ¬ 0 < n) := by
  constructor
  · intro id
    rw [UsageSummary.requestsOf]
    cases hfind : r.summarize.keys.find? (·.id = id) with
    | some u =>
      have hid : u.id = id := by simpa using List.find?_some hfind
      obtain ⟨k, hk, hu⟩ := mem_keys_summarize.1 (List.mem_of_find?_eq_some hfind)
      rw [← hid, (lookup_keys_eq_some_iff hr).2 hk, eq_of_usage? hu]
      rfl
    | none =>
      have hmissing : ∀ u ∈ r.summarize.keys, u.id ≠ id := by
        simpa using List.find?_eq_none.1 hfind
      cases hlookup : r.keys.lookup id with
      | none => rfl
      | some k =>
        have hnone := (forall_id_ne_iff hr ((lookup_keys_eq_some_iff hr).1 hlookup)).1 hmissing
        exact (usage?_eq_none_iff.1 hnone).1.symm
  · intro id k hlookup
    have hk := (lookup_keys_eq_some_iff hr).1 hlookup
    rw [forall_id_ne_iff hr hk, usage?_eq_none_iff, calls_eq_nil_iff]
    simp only [lookup_eq_some_iff_mem (hr.rising _ hk).nodup]
    rfl

/-- A key that counts plain models only is found though none of them is listed, and one that counts
nothing is not listed though it has models. -/
theorem requestsOf_summarize_lone :
    repetitiveReport.IsProper ∧
    repetitiveReport.summarize.requestsOf "b".toList = 12 ∧
    repetitiveReport.summarize.requestsOf "idle".toList = 0 ∧
    repetitiveReport.summarize.requestsOf "c".toList = 0 ∧
    (∀ u ∈ repetitiveReport.summarize.keys, u.id ≠ "idle".toList) ∧
    ¬ ∀ u ∈ repetitiveReport.summarize.keys, u.id ≠ "b".toList := by
  obtain ⟨hrequests, hmissing⟩ :=
    requestsOf_summarize repetitiveReport isProper_repetitiveReport
  refine ⟨isProper_repetitiveReport, (hrequests _).trans (by decide),
    (hrequests _).trans (by decide), (hrequests _).trans (by decide), ?_, ?_⟩
  · refine (hmissing "idle".toList
      ⟨some 0, none, [("antigravity/y".toList, 0), ("x".toList, 3)]⟩ (by decide)).2
      ⟨by decide, fun model n hmodel heligible hn => ?_⟩
    have hmem := (lookup_eq_some_iff_mem (by decide)).1 hmodel
    rcases List.mem_pair.1 hmem with heq | heq <;> obtain ⟨rfl, rfl⟩ := Prod.mk.inj heq
    · exact absurd hn (by decide)
    · rcases heligible with hmarked | hunmarked
      · exact absurd hmarked (by decide)
      · exact hunmarked ("antigravity/y".toList, 0) (by decide) (by decide)
  · intro hall
    have hzero := ((hmissing "b".toList
      ⟨none, none, [("antigravity/y".toList, 0), ("x".toList, 12)]⟩ (by decide)).1 hall).1
    exact absurd hzero (by decide)

end UsageReport
end ProxySteward
