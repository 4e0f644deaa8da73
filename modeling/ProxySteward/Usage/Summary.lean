import ProxySteward.Mask
import ProxySteward.Text.Search
import ProxySteward.Usage.Count

/-!
# Usage summaries

The server reports, for each key, counts of requests per model.  A summary keeps the keys that were
used, each with the models that were called, both sorted by falling count and then by rising name.

## What is dropped

If any model of a key carries the preferred mark, only models with the mark are listed for that key,
even when their count is zero and nothing is left.  The key's total still counts all of its models.
A key is dropped only if its total is zero and no model is listed.
-/

namespace ProxySteward

open Text

/-- The calls of one model. -/
structure ModelCalls where
  model : Text
  requests : Count
  deriving DecidableEq, Repr

/-- The usage of one key. -/
structure KeyUsage where
  id : Text
  label : Text
  requests : Count
  tokens : Count
  calls : List ModelCalls
  deriving DecidableEq, Repr

/-- What is shown of the usage. -/
structure UsageSummary where
  requests : Count
  tokens : Count
  keys : List KeyUsage
  deriving DecidableEq, Repr

/-- What the server reports of one key; the models are sorted by name and each occurs once. -/
structure KeyReport where
  requests : Option Count
  tokens : Option Count
  models : List (Text × Count)
  deriving DecidableEq, Repr

/-- What the server reports; each key occurs once. -/
structure UsageReport where
  requests : Option Count
  tokens : Option Count
  keys : List (Text × KeyReport)
  deriving DecidableEq, Repr

namespace KeyReport

/-- A report of nothing. -/
def empty : KeyReport := ⟨none, none, []⟩

/-- The mark of preferred models. -/
def preferredFront : Text := "antigravity/".toList

/-- Whether a model carries the mark. -/
def isPreferred (model : Text) : Bool := startsWith preferredFront model

/-- Whether any model of the key carries the mark. -/
def hasPreferred (k : KeyReport) : Bool := k.models.any fun m => isPreferred m.1

/-- Whether a model is listed for the key. -/
def lists (k : KeyReport) (m : Text × Count) : Bool :=
  (!k.hasPreferred || isPreferred m.1) && decide (0 < m.2)

/-- Falling count, then rising name. -/
def precedes (count : Count) (name : Text) (count' : Count) (name' : Text) : Bool :=
  decide (count' < count) || (count == count' && !decide (name' < name))

/-- The models of the key that are listed, sorted. -/
def calls (k : KeyReport) : List ModelCalls :=
  ((k.models.filter k.lists).map fun m => (⟨m.1, m.2⟩ : ModelCalls)).mergeSort
    fun a b => precedes a.requests a.model b.requests b.model

/-- The requests of the key: what the server says, or else the sum over its models. -/
def total (k : KeyReport) : Count := k.requests.getD (Count.total (k.models.map (·.2)))

/-- The usage of the key, unless there is nothing to show. -/
def usage? (id : Text) (k : KeyReport) : Option KeyUsage :=
  if k.total = 0 ∧ k.calls = [] then none
  else some ⟨id, mask id, k.total, k.tokens.getD 0, k.calls⟩

end KeyReport

namespace UsageReport

/-- A report of nothing. -/
def empty : UsageReport := ⟨none, none, []⟩

/-- The summary of a report. -/
def summarize (r : UsageReport) : UsageSummary where
  requests := r.requests.getD 0
  tokens := r.tokens.getD 0
  keys := (r.keys.filterMap fun (id, k) => k.usage? id).mergeSort
    fun a b => KeyReport.precedes a.requests a.id b.requests b.id

end UsageReport

namespace UsageSummary

/-- The requests to show: the sum over the keys, or the server's total if no key is known. -/
def shownRequests (s : UsageSummary) : Count :=
  if s.keys.isEmpty then s.requests else Count.total (s.keys.map (·.requests))

/-- The tokens to show. -/
def shownTokens (s : UsageSummary) : Count :=
  if s.keys.isEmpty then s.tokens else Count.total (s.keys.map (·.tokens))

/-- The requests of one key, zero if it is not listed. -/
def requestsOf (s : UsageSummary) (id : Text) : Count :=
  match s.keys.find? (·.id = id) with
  | some k => k.requests
  | none => 0

/-- The share of a count in the requests shown, in percent. -/
def share (s : UsageSummary) (c : Count) : Double :=
  let whole := max s.shownRequests.toInt 1
  ((Double.ofInt c.toInt).div (Double.ofInt whole)).mul (Double.ofInt 100)

/-- The title: whether monitoring is off, nothing is known yet, or how many requests there were. -/
def title (monitoring : Bool) (s : Option UsageSummary) : Text :=
  if monitoring then
    match s with
    | some s => s.shownRequests.short
    | none => "--".toList
  else "OFF".toList

end UsageSummary
end ProxySteward
