import Mathlib.Data.List.Forall2
import ProxySteward.Proofs.Supervisor.AlikeSessions

/-!
# The usage of a run

The published usage is the last one that could be fetched, and the published failure is that of the
last fetch.  `Session.fetches` collects what the fetches of a run came to: one for each poll at
which monitoring is on, and none at any other moment.  `usage_run` says that the requests of the
run, the usage and the failure are read off that list.  `Reports` is its invariant: a poll adds its
fetch, and nothing else touches the three.

What a server writes into a failing reply has no part in this (`AlikeTo.after`).
-/

namespace ProxySteward

open Text

namespace FetchOutcome

/-- The last usage that was fetched. -/
def lastUsage? (xs : List FetchOutcome) : Option UsageSummary := (xs.filterMap usage?).getLast?

/-- What the operator is told of the last fetch. -/
def lastReport? (xs : List FetchOutcome) : Option Text := xs.getLast?.bind report?

theorem lastUsage?_append (xs ys : List FetchOutcome) :
    lastUsage? (xs ++ ys) = (lastUsage? ys).or (lastUsage? xs) := by
  rw [lastUsage?, List.filterMap_append, List.getLast?_append]
  rfl

theorem lastUsage?_singleton (x : FetchOutcome) : lastUsage? [x] = x.usage? := by
  rw [lastUsage?, List.filterMap_cons, List.filterMap_nil]
  cases x.usage? <;> rfl

theorem lastReport?_concat (xs : List FetchOutcome) (x : FetchOutcome) :
    lastReport? (xs ++ [x]) = x.report? := by
  rw [lastReport?, List.getLast?_concat]
  rfl

end FetchOutcome

namespace Supervisor

open FetchOutcome

variable {s s' : Supervisor} {h h' : Host} {F : List FetchOutcome} {sent : List UsageRequest}

/-- A supervisor tells what some fetches came to: the requests that were sent since some moment, the
last usage and the last failure. -/
structure Reports (sent : List UsageRequest) (F : List FetchOutcome) (s : Supervisor) (h : Host) :
    Prop where
  requests : h.requests = sent ++ F.filterMap request?
  usage : s.usage = lastUsage? F
  usageError : s.usageError = lastReport? F

theorem reports_create (o : SupervisorOptions) (monitoring : Bool) (logCapacity : Nat) (h : Host) :
    Reports h.requests [] (create o monitoring logCapacity h) h :=
  ⟨(List.append_nil _).symm, rfl, rfl⟩

/-- **A poll** adds its fetch. -/
theorem Reports.of_poll (hr : Reports sent F s h) (hs : EndsWithPoll s h s' h') :
    Reports sent (F ++ s.options.fetches s'.monitoring h') s' h' := by
  obtain ⟨hfindings, hrequests⟩ := hs
  have husage : s'.usage = (s.findings.renew s.options s'.monitoring h').usage :=
    congrArg Findings.usage hfindings
  have herror : s'.usageError = (s.findings.renew s.options s'.monitoring h').usageError :=
    congrArg Findings.usageError hfindings
  refine ⟨by rw [hrequests, hr.requests, List.filterMap_append, List.append_assoc], ?_, ?_⟩
  · rw [husage, lastUsage?_append, ← hr.usage]
    cases s'.monitoring with
    | true =>
      rw [show s.options.fetches true h' = [s.options.fetch h'] from rfl, lastUsage?_singleton]
      rfl
    | false => rfl
  · rw [herror]
    cases s'.monitoring with
    | true => exact (lastReport?_concat F _).symm
    | false =>
      rw [show s.options.fetches false h' = [] from rfl, List.append_nil]
      exact hr.usageError

/-- What leaves the findings and the requests alone. -/
theorem Reports.of_quiet (hr : Reports sent F s h) (hfindings : s'.findings = s.findings)
    (hrequests : h'.requests = h.requests) : Reports sent F s' h' where
  requests := hrequests.trans hr.requests
  usage := (congrArg Findings.usage hfindings).trans hr.usage
  usageError := (congrArg Findings.usageError hfindings).trans hr.usageError

end Supervisor

namespace Session

open Supervisor FetchOutcome

variable {s : Session} {F : List FetchOutcome} {sent : List UsageRequest}

/-- What is fetched at an occurrence: the fetch of its poll, if monitoring is on when the supervisor
polls.  The poll comes last, so this is told by the supervisor and the host after it. -/
def fetchesAt (s : Session) (x : Occurrence) : List FetchOutcome :=
  if s.polls x then
    s.supervisor.options.fetches (s.occur x).supervisor.monitoring (s.occur x).host
  else []

/-- What is fetched at some occurrences, one after another. -/
def fetchesOf (s : Session) : List Occurrence → List FetchOutcome
  | [] => []
  | x :: xs => s.fetchesAt x ++ (s.occur x).fetchesOf xs

/-- What is fetched in a run: by the first poll, and then. -/
def fetches (o : SupervisorOptions) (monitoring : Bool) (logCapacity : Nat) (h : Host)
    (xs : List Occurrence) : List FetchOutcome :=
  let s := start o monitoring logCapacity h
  o.fetches monitoring s.host ++ s.fetchesOf xs

/-- **Every occurrence** adds what is fetched at it. -/
theorem reports_occur (hr : Reports sent F s.supervisor s.host) (x : Occurrence) :
    Reports sent (F ++ s.fetchesAt x) (s.occur x).supervisor (s.occur x).host := by
  rw [fetchesAt]
  cases hpolls : s.polls x with
  | true => exact hr.of_poll (endsWithPoll_occur hpolls)
  | false =>
    obtain ⟨hfindings, hrequests, -⟩ := isQuiet_occur hpolls
    rw [if_neg Bool.false_ne_true, List.append_nil]
    exact hr.of_quiet hfindings hrequests

theorem reports_after (hr : Reports sent F s.supervisor s.host) (xs : List Occurrence) :
    Reports sent (F ++ s.fetchesOf xs) (s.after xs).supervisor (s.after xs).host := by
  induction xs generalizing s F with
  | nil => rwa [fetchesOf, List.append_nil]
  | cons x xs ih =>
    rw [fetchesOf, ← List.append_assoc]
    exact ih (reports_occur hr x)

theorem reports_fetches (o : SupervisorOptions) (monitoring : Bool) (logCapacity : Nat) (h : Host)
    (xs : List Occurrence) :
    Reports h.requests (fetches o monitoring logCapacity h xs)
      ((start o monitoring logCapacity h).after xs).supervisor
      ((start o monitoring logCapacity h).after xs).host := by
  have hfirst := (reports_create o monitoring logCapacity h).of_poll
    (endsWithPoll_start o monitoring logCapacity h)
  have hmonitoring : (start o monitoring logCapacity h).supervisor.monitoring = monitoring :=
    (poll_isKept (create o monitoring logCapacity h) h).monitoring
  rw [hmonitoring] at hfirst
  exact reports_after hfirst xs

/-- **Usage is last-known-good, and nothing is fetched while monitoring is paused.**  Take any run
of a supervisor on files that others may change, and what the polls fetched at which monitoring was
on.

* The requests of the run are those of these fetches, in their order.
* The published usage is that of the last fetch that brought one, and the published failure is that
  of the last fetch, if it failed.
* What is told of a failure depends only on its kind, on whether the credentials were refused and on
  whether the management key is blank.
* An occurrence at which nothing is fetched sends no request and leaves usage and failure as they
  are.
* A run in which the servers write something else into their failing replies publishes the same
  snapshot. -/
theorem usage_run (o : SupervisorOptions) (monitoring : Bool) (logCapacity : Nat) (h : Host)
    (xs : List Occurrence) :
    let s := (start o monitoring logCapacity h).after xs
    let F := fetches o monitoring logCapacity h xs
    s.host.requests = h.requests ++ F.filterMap request? ∧
    s.supervisor.snapshot.usage = lastUsage? F ∧
    s.supervisor.snapshot.usageError = lastReport? F ∧
    (∀ (f g : UsageFault) (key key' : Text), f.kind = g.kind → f.isRefusal = g.isRefusal →
      (trim key).isEmpty = (trim key').isEmpty → f.friendly key = g.friendly key') ∧
    (∀ x, s.fetchesAt x = [] →
      (s.occur x).host.requests = s.host.requests ∧
      (s.occur x).supervisor.snapshot.usage = s.supervisor.snapshot.usage ∧
      (s.occur x).supervisor.snapshot.usageError = s.supervisor.snapshot.usageError) ∧
    (∀ n xs', AlikeNetworks h.network n → List.Forall₂ Occurrence.Alike xs xs' →
      ((start o monitoring logCapacity (h.withNetwork n)).after xs').supervisor.snapshot =
        s.supervisor.snapshot) := by
  intro s F
  have hr : Reports h.requests F s.supervisor s.host :=
    reports_fetches o monitoring logCapacity h xs
  refine ⟨hr.requests, hr.usage, hr.usageError, fun f g key key' => UsageFault.friendly_congr,
    fun x hx => ?_, fun n xs' hn hxs => ?_⟩
  · have hnext := reports_occur hr x
    rw [hx, List.append_nil] at hnext
    exact ⟨hnext.requests.trans hr.requests.symm, hnext.usage.trans hr.usage.symm,
      hnext.usageError.trans hr.usageError.symm⟩
  · have halike := (alikeTo_start o monitoring logCapacity (Host.alike_withNetwork hn)).after hxs
    rw [halike.supervisor]

/-- A server that tells of three requests. -/
def answering (_ : UsageRequest) : Exchange :=
  .reply 200 (encode "\x7b\"usage\":\x7b\"total_requests\":3\x7d\x7d".toList)

/-- A server that refuses every request. -/
def refusing (body : Text) (_ : UsageRequest) : Exchange := .reply 401 (encode body)

/-- After the first poll the server refuses every request, and the usage is asked for.  Then
monitoring is paused, and a request to look again waits in the mailbox. -/
def loneRefusal (body : Text) : List Occurrence :=
  [.event (.turn false (fun _ => ⟨[], false⟩) (refusing body)),
    .event (.send ⟨0, .refresh⟩), .event .serve, .event (.send ⟨0, .setMonitoring false⟩),
    .event .serve, .event (.send ⟨0, .refresh⟩)]

/-- The usage of the first poll outlasts the refusal, and both outlast the poll while monitoring is
paused, which sends no request.  What the server writes into its refusal does not matter. -/
theorem usage_run_lone :
    let h := loneHost.withNetwork answering
    let s := (start loneOptions true 100 h).after (loneRefusal "who are you?".toList)
    let s' := (start loneOptions true 100 h).after (loneRefusal "go away".toList)
    let next := s.occur (.event .serve)
    let F := fetches loneOptions true 100 h (loneRefusal "who are you?".toList)
    F.map usage? = [some ⟨3, 0, []⟩, none] ∧ s.host.requests.length = 2 ∧
      s.supervisor.snapshot.usage = some ⟨3, 0, []⟩ ∧
      s.supervisor.snapshot.usageError =
        some "monitoring unauthorized: missing management key".toList ∧
      s.polls (.event .serve) = true ∧ next.host.requests = s.host.requests ∧
      next.supervisor.snapshot.usage = s.supervisor.snapshot.usage ∧
      next.supervisor.snapshot.usageError = s.supervisor.snapshot.usageError ∧
      s'.supervisor.snapshot = s.supervisor.snapshot ∧
      (UsageFault.http 401 "who are you?".toList).friendly [] =
        (UsageFault.http 401 "go away".toList).friendly " ".toList := by
  intro h s s' next F
  obtain ⟨hrequests, husage, herror, hreport, hquiet, halike⟩ :=
    usage_run loneOptions true 100 h (loneRefusal "who are you?".toList)
  have hfetched : F.map usage? = [some ⟨3, 0, []⟩, none] := by decide +kernel
  have hsent : (h.requests ++ F.filterMap request?).length = 2 := by decide +kernel
  have hlast : lastUsage? F = some ⟨3, 0, []⟩ := by decide +kernel
  have hreported : lastReport? F =
      some "monitoring unauthorized: missing management key".toList := by
    decide +kernel
  have hpaused : next.supervisor.monitoring = false := by decide +kernel
  have hnone : s.fetchesAt (.event .serve) = [] := by
    rw [fetchesAt, hpaused]
    split <;> rfl
  obtain ⟨hsilent, hkept, hkept'⟩ := hquiet _ hnone
  have hservers : AlikeNetworks (refusing "who are you?".toList) (refusing "go away".toList) :=
    fun _ => Or.inr ⟨401, _, _, .http 401 _, .http 401 _, rfl, rfl, rfl, rfl, rfl⟩
  have hruns : List.Forall₂ Occurrence.Alike (loneRefusal "who are you?".toList)
      (loneRefusal "go away".toList) :=
    .cons (.turn _ _ hservers) (List.forall₂_same.2 fun x _ => .same x)
  exact ⟨hfetched, (congrArg List.length hrequests).trans hsent, husage.trans hlast,
    herror.trans hreported, by decide +kernel, hsilent, hkept, hkept',
    halike answering _ (fun _ => Or.inl rfl) hruns, hreport _ _ _ _ rfl rfl (by decide)⟩

end Session
end ProxySteward
