import ProxySteward.Proofs.Json.ReaderLaws
import ProxySteward.Proofs.Usage.NamedCounts

/-!
# The form of a report

A report is a map: it names each key once, and each model of a key once, with the models in rising
order.  The lists that hold it do not say so by their types.  `UsageReport.IsProper` does, and
`UsageAnswer.isProper_ofBody` shows that every report that is read from the body of a reply has this
form, however often the body repeats a name.

Nothing but the two ways of putting a name in has to be looked at.  A key that comes again takes the
place of the earlier one (`setKey`), and a model that comes again adds to it (`addCalls`); all else
is what readers keep.
-/

namespace ProxySteward

open Text

/-- A report that names each key once, and the models of each key in rising order. -/
structure UsageReport.IsProper (r : UsageReport) : Prop where
  distinct : (r.keys.map (·.1)).Nodup
  rising : ∀ p ∈ r.keys, IsRising p.2.models

theorem UsageReport.isProper_of_keys_eq_nil {r : UsageReport} (h : r.keys = []) : r.IsProper := by
  constructor
  · rw [h]
    exact List.nodup_nil
  · rw [h]
    exact fun p hp => absurd hp List.not_mem_nil

namespace UsageAnswer

variable {input rest body : Bytes}

theorem isRising_models {ms : List (Text × Count)} (h : models input = .ok (ms, rest)) :
    IsRising ms := by
  rw [models] at h
  split at h
  · exact absurd h (by simp)
  · next ms? rest' hread =>
    obtain ⟨rfl, -⟩ := Prod.mk.inj (Except.ok.inj h)
    cases ms? with
    | none => exact List.Pairwise.nil
    | some ms =>
      exact Json.map_keeps (P := IsRising) (fun _ _ _ _ _ _ ht => isRising_addCalls ht)
        List.Pairwise.nil (Json.optional_eq_ok_some hread)

theorem isRising_keyReport {k : KeyReport}
    (h : Json.fields keyFields KeyReport.empty input = .ok (k, rest)) : IsRising k.models := by
  have hstart : IsRising KeyReport.empty.models := List.Pairwise.nil
  refine Json.fields_keeps (P := fun k => IsRising k.models) (fun field hfield => ?_) hstart h
  intro t inner t' behind ht hread
  simp only [keyFields, List.mem_cons, List.not_mem_nil, or_false] at hfield
  rcases hfield with rfl | rfl | rfl
  · obtain ⟨_, -, rfl⟩ := Json.read_fieldOf_eq_ok hread
    exact ht
  · obtain ⟨_, -, rfl⟩ := Json.read_fieldOf_eq_ok hread
    exact ht
  · obtain ⟨ms, hms, rfl⟩ := Json.read_fieldOf_eq_ok hread
    exact isRising_models hms

/-- Putting a key in the place of an earlier one keeps the keys distinct. -/
theorem isProper_setKey {r : UsageReport} (hr : r.IsProper) {id : Text} {k : KeyReport}
    (hk : IsRising k.models) : ({ r with keys := setKey id k r.keys } : UsageReport).IsProper := by
  constructor
  · show ((setKey id k r.keys).map (·.1)).Nodup
    rw [setKey, List.map_append, List.map_singleton, List.nodup_append]
    refine ⟨hr.distinct.sublist (List.filter_sublist.map _), List.nodup_singleton id, ?_⟩
    rintro name hname _ hid rfl
    obtain ⟨p, hp, rfl⟩ := List.mem_map.1 hname
    exact absurd (List.mem_singleton.1 hid) (by simpa using (List.mem_filter.1 hp).2)
  · intro p hp
    rcases List.mem_append.1 hp with hp | hp
    · exact hr.rising p (List.mem_filter.1 hp).1
    · rw [List.mem_singleton.1 hp]
      exact hk

theorem isProper_report {r : UsageReport}
    (h : Json.fields reportFields UsageReport.empty input = .ok (r, rest)) : r.IsProper := by
  refine Json.fields_keeps (P := UsageReport.IsProper) (fun field hfield => ?_)
    (UsageReport.isProper_of_keys_eq_nil rfl) h
  intro t inner t' behind ht hread
  simp only [reportFields, List.mem_cons, List.not_mem_nil, or_false] at hfield
  rcases hfield with rfl | rfl | rfl
  · obtain ⟨_, -, rfl⟩ := Json.read_fieldOf_eq_ok hread
    exact ⟨ht.distinct, ht.rising⟩
  · obtain ⟨_, -, rfl⟩ := Json.read_fieldOf_eq_ok hread
    exact ⟨ht.distinct, ht.rising⟩
  · obtain ⟨ks?, hkeys, rfl⟩ := Json.read_fieldOf_eq_ok hread
    cases ks? with
    | none => exact UsageReport.isProper_of_keys_eq_nil rfl
    | some ks =>
      refine Json.map_keeps (P := fun ks => ({ t with keys := ks } : UsageReport).IsProper)
        (fun id k ks' _ _ hvalue hks => ?_) (UsageReport.isProper_of_keys_eq_nil rfl)
        (Json.optional_eq_ok_some hkeys)
      exact isProper_setKey hks (isRising_keyReport hvalue)

/-- **Every report that is read** names each key once, and the models of each key in rising
order. -/
theorem isProper_ofBody {a : UsageAnswer} (h : ofBody body = .ok a) :
    ∀ r ∈ a.usage, r.IsProper := by
  obtain ⟨rest, h⟩ := Json.whole_eq_ok h
  refine Json.fields_keeps (P := fun a : UsageAnswer => ∀ r ∈ a.usage, r.IsProper)
    (fun field hfield => ?_) (fun r hr => absurd hr (by simp)) h
  intro t inner t' behind ht hread
  simp only [answerFields, List.mem_cons, List.not_mem_nil, or_false] at hfield
  rcases hfield with rfl | rfl
  · obtain ⟨u, hu, rfl⟩ := Json.read_fieldOf_eq_ok hread
    rintro r rfl
    exact isProper_report (Json.optional_eq_ok_some hu)
  · obtain ⟨_, -, rfl⟩ := Json.read_fieldOf_eq_ok hread
    exact ht

/-- A body in which a model is repeated, preferred models were not called, and two models were
called equally often. -/
def repetitiveBody : Bytes := encode ("\x7b\"usage\":\x7b\"apis\":\x7b" ++
  "\"b\":\x7b\"models\":\x7b\"x\":7,\"antigravity/y\":0,\"x\":\x7b\"requests\":5\x7d\x7d\x7d," ++
  "\"idle\":\x7b\"total_requests\":0,\"models\":\x7b\"antigravity/y\":null,\"x\":3\x7d\x7d," ++
  "\"a\":\x7b\"models\":\x7b\"antigravity/z\":5,\"x\":2,\"antigravity/y\":5\x7d\x7d" ++
  "\x7d\x7d\x7d").toList

/-- The report in that body. -/
def repetitiveReport : UsageReport := ⟨none, none, [
  ("b".toList, ⟨none, none, [("antigravity/y".toList, 0), ("x".toList, 12)]⟩),
  ("idle".toList, ⟨some 0, none, [("antigravity/y".toList, 0), ("x".toList, 3)]⟩),
  ("a".toList, ⟨none, none,
    [("antigravity/y".toList, 5), ("antigravity/z".toList, 5), ("x".toList, 2)]⟩)]⟩

theorem isProper_repetitiveReport : repetitiveReport.IsProper := by
  have hread : ofBody repetitiveBody = .ok ⟨some repetitiveReport, none⟩ := by decide +kernel
  exact isProper_ofBody hread _ rfl

end UsageAnswer
end ProxySteward
