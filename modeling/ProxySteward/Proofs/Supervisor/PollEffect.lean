import ProxySteward.Proofs.Supervisor.CommandKinds

/-!
# What a poll makes of a supervisor

`Findings` is the part of a supervisor that only polls write.  A poll replaces it by what the host
shows at that moment (`Findings.renew`, `findings_poll`); the key list and the usage that were known
are looked at only where the new ones cannot be had.

Whatever a command does besides, it does before its poll, and it touches neither the findings nor
the requests that were sent.  So there are two kinds of steps: those that end with a poll
(`EndsWithPoll`) and those that leave the findings, the files and the requests alone (`IsQuiet`).
`endsWithPoll_handle` and `isQuiet_handle` say which commands are of which kind.
-/

namespace ProxySteward

open Text

/-! ## Requests -/

/-- The request that a deed sent. -/
def Deed.request? : Deed → Option UsageRequest
  | .requested r => some r
  | _ => none

/-- The requests that a host has sent, in their order. -/
def Host.requests (h : Host) : List UsageRequest := h.deeds.reverse.filterMap Deed.request?

theorem Host.requests_did (h : Host) (d : Deed) :
    (h.did d).requests = h.requests ++ d.request?.toList := by
  simp only [requests, did, List.reverse_cons, List.filterMap_append, List.filterMap_cons,
    List.filterMap_nil]
  cases d.request? <;> rfl

theorem Host.requests_did_of_request?_eq_none {d : Deed} (h : Host) (hd : d.request? = none) :
    (h.did d).requests = h.requests := by
  rw [requests_did, hd]
  exact List.append_nil _

/-- What one fetch came to, and the connection it was made for. -/
structure FetchOutcome where
  connection : Connection
  result : Except UsageFault UsageSummary

namespace FetchOutcome

/-- The request that was sent; there is none if none can be made. -/
def request? (x : FetchOutcome) : Option UsageRequest :=
  (UsageRequest.of x.connection.baseUrl x.connection.managementKey).toOption

/-- The usage that was fetched. -/
def usage? (x : FetchOutcome) : Option UsageSummary := x.result.toOption

/-- What the operator is told of a failure. -/
def report? (x : FetchOutcome) : Option Text :=
  match x.result with
  | .ok _ => none
  | .error f => some (f.friendly x.connection.managementKey)

end FetchOutcome

namespace SupervisorOptions

/-- What a fetch comes to on a host. -/
def fetch (o : SupervisorOptions) (h : Host) : FetchOutcome :=
  let c := o.resolve h
  ⟨c, (UsageFetch.fetch h c.baseUrl c.managementKey).1⟩

/-- What a poll fetches. -/
def fetches (o : SupervisorOptions) (monitoring : Bool) (h : Host) : List FetchOutcome :=
  if monitoring then [o.fetch h] else []

/-- The fetch does not depend on what was done before. -/
theorem fetch_did (o : SupervisorOptions) (h : Host) (d : Deed) :
    o.fetch (h.did d) = o.fetch h := by
  have hresult : ∀ baseUrl key,
      (UsageFetch.fetch (h.did d) baseUrl key).1 = (UsageFetch.fetch h baseUrl key).1 := by
    intro baseUrl key
    unfold UsageFetch.fetch
    cases UsageRequest.of baseUrl key with
    | error f => cases f <;> rfl
    | ok r => rfl
  rw [fetch, fetch, show o.resolve (h.did d) = o.resolve h from rfl, hresult]

end SupervisorOptions

/-! ## Findings -/

/-- What only polls write. -/
structure Findings where
  connection : Connection
  refreshing : Bool
  service : ServiceStatus
  keys : List KeyRecord
  usage : Option UsageSummary
  usageError : Option Text
  lastPollAt : Option Nat

/-- What a poll makes of the findings on a host. -/
def Findings.renew (f : Findings) (o : SupervisorOptions) (monitoring : Bool) (h : Host) :
    Findings where
  connection := o.resolve h
  refreshing := false
  service := Service.status h (o.resolve h)
  keys := Supervisor.learnKeys f.keys (Supervisor.loadKeys h.files (o.resolve h).configPath)
  usage := if monitoring then (o.fetch h).usage?.or f.usage else f.usage
  usageError := if monitoring then (o.fetch h).report? else f.usageError
  lastPollAt := some h.clock

/-- Whether a command ends with a poll. -/
def Command.polls : Command → Bool
  | .setMonitoring false => false
  | .shutdown => false
  | _ => true

namespace Supervisor

/-- What a supervisor has found. -/
def findings (s : Supervisor) : Findings :=
  ⟨s.connection, s.refreshing, s.service, s.keys, s.usage, s.usageError, s.lastPollAt⟩

variable {s s' : Supervisor} {h h' : Host}

/-! ## Polls -/

/-- What of a supervisor no poll writes, besides its options. -/
structure IsKept (s s' : Supervisor) : Prop where
  monitoring : s'.monitoring = s.monitoring
  phase : s'.phase = s.phase
  inbox : s'.inbox = s.inbox

/-- A fetch writes usage and failure, and only if monitoring is on. -/
theorem pollUsage_writes (s : Supervisor) (h : Host) :
    let s' := (s.pollUsage (s.options.resolve h) h).1
    IsKept s s' ∧ s'.keys = s.keys ∧
    s'.usage = (if s.monitoring then (s.options.fetch h).usage?.or s.usage else s.usage) ∧
    s'.usageError = (if s.monitoring then (s.options.fetch h).report? else s.usageError) := by
  unfold pollUsage
  split
  · rw [FetchOutcome.report?, FetchOutcome.usage?, SupervisorOptions.fetch]
    dsimp only
    cases (UsageFetch.fetch h (s.options.resolve h).baseUrl
      (s.options.resolve h).managementKey).1 <;> exact ⟨⟨rfl, rfl, rfl⟩, rfl, rfl, rfl⟩
  · exact ⟨⟨rfl, rfl, rfl⟩, rfl, rfl, rfl⟩

theorem findings_learnService (status : ServiceStatus) (now : Nat) (s : Supervisor) :
    (s.learnService status now).findings = { s.findings with service := status } := by
  unfold learnService
  split <;> rfl

theorem findings_followLog (h : Host) (s : Supervisor) : (s.followLog h).findings = s.findings := by
  unfold followLog
  split <;> rfl

/-- What a poll does after its fetch. -/
def look (c : Connection) (s : Supervisor) (h : Host) : Supervisor :=
  let known := { s with keys := learnKeys s.keys (loadKeys h.files c.configPath), connection := c }
  let seen := (known.learnService (Service.status h c) h.clock).followLog h
  { seen with lastPollAt := some h.clock, refreshing := false }

theorem poll_eq (s : Supervisor) (h : Host) :
    s.poll h =
      let fetched := s.beginPoll.pollUsage (s.options.resolve h) h
      (fetched.1.look (s.options.resolve h) fetched.2, fetched.2) := rfl

theorem findings_look (c : Connection) (s : Supervisor) (h : Host) :
    (s.look c h).findings = ⟨c, false, Service.status h c,
      learnKeys s.keys (loadKeys h.files c.configPath), s.usage, s.usageError, some h.clock⟩ := by
  let known := { s with keys := learnKeys s.keys (loadKeys h.files c.configPath), connection := c }
  have hseen : ((known.learnService (Service.status h c) h.clock).followLog h).findings =
      { known.findings with service := Service.status h c } := by
    rw [findings_followLog, findings_learnService]
  rw [findings, Findings.mk.injEq] at hseen
  obtain ⟨hconnection, -, hservice, hkeys, husage, herror, -⟩ := hseen
  rw [look, findings, hconnection, hservice, hkeys, husage, herror]
  rfl

theorem look_isKept (c : Connection) (s : Supervisor) (h : Host) : IsKept s (s.look c h) := by
  unfold look followLog learnService
  dsimp only
  split <;> split <;> exact ⟨rfl, rfl, rfl⟩

/-- A poll neither turns monitoring on or off, nor closes the supervisor, nor looks at what was left
for it. -/
theorem poll_isKept (s : Supervisor) (h : Host) : IsKept s (s.poll h).1 := by
  obtain ⟨husage, -⟩ := pollUsage_writes s.beginPoll h
  have hlook := look_isKept (s.options.resolve h) (s.beginPoll.pollUsage (s.options.resolve h) h).1
    (s.beginPoll.pollUsage (s.options.resolve h) h).2
  exact ⟨hlook.monitoring.trans husage.monitoring, hlook.phase.trans husage.phase,
    hlook.inbox.trans husage.inbox⟩

/-- A poll sends at most the request of its fetch. -/
theorem poll_host (s : Supervisor) (h : Host) :
    (s.poll h).2 = h ∧ (s.options.fetches s.monitoring h).filterMap FetchOutcome.request? = [] ∨
    ∃ r, (s.poll h).2 = h.did (.requested r) ∧
      (s.options.fetches s.monitoring h).filterMap FetchOutcome.request? = [r] := by
  have hhost : (s.poll h).2 = (s.beginPoll.pollUsage (s.options.resolve h) h).2 := rfl
  rw [hhost, pollUsage, SupervisorOptions.fetches,
    show s.beginPoll.monitoring = s.monitoring from rfl]
  split
  · have hrequest : (s.options.fetch h).request? = (UsageRequest.of (s.options.resolve h).baseUrl
        (s.options.resolve h).managementKey).toOption := rfl
    rw [List.filterMap_cons, List.filterMap_nil, hrequest, UsageFetch.fetch]
    cases UsageRequest.of (s.options.resolve h).baseUrl (s.options.resolve h).managementKey with
    | error f => cases f <;> exact Or.inl ⟨rfl, rfl⟩
    | ok r => exact Or.inr ⟨r, rfl, rfl⟩
  · exact Or.inl ⟨rfl, rfl⟩

/-- What a poll finds is also what the host shows afterwards. -/
theorem fetch_poll (o : SupervisorOptions) (s : Supervisor) (h : Host) :
    o.fetch (s.poll h).2 = o.fetch h := by
  rcases s.poll_host h with ⟨hsame, -⟩ | ⟨r, hdid, -⟩
  · rw [hsame]
  · rw [hdid, SupervisorOptions.fetch_did]

theorem renew_poll (f : Findings) (o : SupervisorOptions) (monitoring : Bool) (s : Supervisor)
    (h : Host) : f.renew o monitoring (s.poll h).2 = f.renew o monitoring h := by
  rcases s.poll_host h with ⟨hsame, -⟩ | ⟨r, hdid, -⟩
  · rw [hsame]
  · rw [hdid, Findings.renew, SupervisorOptions.fetch_did]
    rfl

/-- **A poll** renews the findings. -/
theorem findings_poll (s : Supervisor) (h : Host) :
    (s.poll h).1.findings = s.findings.renew s.options s.monitoring h := by
  obtain ⟨-, hkeys, husage, herror⟩ := pollUsage_writes s.beginPoll h
  have hhost := s.poll_host h
  rw [poll_eq] at hhost ⊢
  dsimp only [beginPoll] at hkeys husage herror hhost ⊢
  rw [findings_look, hkeys, husage, herror]
  rcases hhost with ⟨hsame, -⟩ | ⟨r, hdid, -⟩
  · rw [hsame]
    rfl
  · rw [hdid]
    rfl

/-! ## Steps -/

/-- A step that ends with a poll.  The poll is the last thing that the step does to the host, so
what it found is what the host shows afterwards. -/
structure EndsWithPoll (s : Supervisor) (h : Host) (s' : Supervisor) (h' : Host) : Prop where
  findings : s'.findings = s.findings.renew s.options s'.monitoring h'
  requests : h'.requests =
    h.requests ++ (s.options.fetches s'.monitoring h').filterMap FetchOutcome.request?

/-- A step without a poll. -/
structure IsQuiet (s : Supervisor) (h : Host) (s' : Supervisor) (h' : Host) : Prop where
  findings : s'.findings = s.findings
  files : h'.files = h.files
  requests : h'.requests = h.requests

theorem endsWithPoll_poll (s : Supervisor) (h : Host) :
    EndsWithPoll s h (s.poll h).1 (s.poll h).2 where
  findings := by rw [findings_poll, renew_poll, (poll_isKept s h).monitoring]
  requests := by
    rw [SupervisorOptions.fetches, fetch_poll, (poll_isKept s h).monitoring,
      ← SupervisorOptions.fetches]
    rcases s.poll_host h with ⟨hsame, hnone⟩ | ⟨r, hdid, hone⟩
    · rw [hsame, hnone, List.append_nil]
    · rw [hdid, hone, Host.requests_did]
      rfl

/-- What was done before the poll, if it touches neither findings nor requests. -/
theorem EndsWithPoll.after {s₁ : Supervisor} {h₁ : Host} (hpoll : EndsWithPoll s₁ h₁ s' h')
    (hfindings : s₁.findings = s.findings) (hoptions : s₁.options = s.options)
    (hrequests : h₁.requests = h.requests) : EndsWithPoll s h s' h' where
  findings := by rw [hpoll.findings, hfindings, hoptions]
  requests := by rw [hpoll.requests, hrequests, hoptions]

/-- What is done to the rest of the supervisor after the poll. -/
theorem EndsWithPoll.before {s₂ : Supervisor} (hpoll : EndsWithPoll s h s' h')
    (hfindings : s₂.findings = s'.findings) (hmonitoring : s₂.monitoring = s'.monitoring) :
    EndsWithPoll s h s₂ h' where
  findings := by rw [hfindings, hmonitoring, hpoll.findings]
  requests := by rw [hmonitoring, hpoll.requests]

theorem endsWithPoll_finish (s : Supervisor) (h : Host) (r : Except ActionFault Outcome) :
    EndsWithPoll s h (s.finish h r).2.1 (s.finish h r).2.2 := by
  cases r with
  | ok o => exact (endsWithPoll_poll { s with actionMessage := some o.message } h).after rfl rfl rfl
  | error f =>
    exact (endsWithPoll_poll { s with actionMessage := some f.message } h).after rfl rfl rfl

theorem requests_editKeys (s : Supervisor) (h : Host) (e : KeyEdit) :
    (s.editKeys h e).2.requests = h.requests := by
  unfold editKeys
  split
  · rfl
  · split <;> rfl

theorem requests_launch (h : Host) (program config : Path) :
    (Service.launch h program config).2.requests = h.requests := by
  unfold Service.launch
  split
  · rfl
  · dsimp only
    split
    · rfl
    · exact Host.requests_did_of_request?_eq_none _ rfl

theorem requests_start (h : Host) (c : Connection) :
    (Service.start h c).2.requests = h.requests := by
  unfold Service.start
  split
  · rfl
  · next program config _ =>
    have hlaunch := requests_launch h program config
    split
    · next hl => rwa [hl] at hlaunch
    · next launched hl =>
      rw [hl] at hlaunch
      exact hlaunch

theorem requests_stop (h : Host) (c : Connection) : (Service.stop h c).requests = h.requests := by
  have hlistener : (Service.terminateListener h c.port).requests = h.requests := by
    unfold Service.terminateListener
    split
    · split
      · exact Host.requests_did_of_request?_eq_none h rfl
      · rfl
    · rfl
  rw [← hlistener, Service.stop]
  unfold Service.terminateMatching
  split
  · split
    · exact Host.requests_did_of_request?_eq_none _ rfl
    · rfl
  · rfl

/-! ## Commands -/

/-- **Most commands** end with a poll. -/
theorem endsWithPoll_handle (hphase : s.phase ≠ .closed) {c : Command} (hc : c.polls = true)
    (h : Host) : EndsWithPoll s h (s.handle h c).2.1 (s.handle h c).2.2 := by
  rw [handle_eq_carryOut hphase]
  cases c with
  | edit e =>
    rw [carryOut_edit]
    exact (endsWithPoll_finish _ _ _).after rfl rfl (requests_editKeys s h e)
  | generate =>
    rw [carryOut_generate]
    exact (endsWithPoll_finish _ _ _).after rfl rfl (requests_editKeys s _ _)
  | start =>
    rw [carryOut_start]
    exact (endsWithPoll_finish _ _ _).after rfl rfl (requests_start h _)
  | stop =>
    rw [carryOut_stop]
    exact (endsWithPoll_finish _ _ _).after rfl rfl (requests_stop h _)
  | refresh => exact endsWithPoll_poll s h
  | setMonitoring on =>
    cases on with
    | true =>
      have hpoll : EndsWithPoll s h _ _ :=
        (endsWithPoll_poll { s with monitoring := true } h).after rfl rfl rfl
      rw [carryOut_setMonitoring_true]
      exact EndsWithPoll.before hpoll rfl rfl
    | false => exact absurd hc (by decide)
  | shutdown => exact absurd hc (by decide)

/-- **The other commands**, and any command to a supervisor that has shut down, change nothing of
the findings, the files and the requests. -/
theorem isQuiet_handle {c : Command} (hc : s.phase = .closed ∨ c.polls = false) (h : Host) :
    IsQuiet s h (s.handle h c).2.1 (s.handle h c).2.2 := by
  by_cases hphase : s.phase = .closed
  · rw [handle_of_closed hphase]
    exact ⟨rfl, rfl, rfl⟩
  · rw [handle_eq_carryOut hphase]
    have hc := hc.resolve_left hphase
    cases c with
    | setMonitoring on =>
      cases on with
      | true => exact absurd hc (by decide)
      | false => exact ⟨rfl, rfl, rfl⟩
    | shutdown => exact ⟨rfl, rfl, rfl⟩
    | _ => exact absurd hc (by simp [Command.polls])

theorem options_handle (s : Supervisor) (h : Host) (c : Command) :
    (s.handle h c).2.1.options = s.options := by
  have hkind := s.handling_handle h c
  generalize s.handle h c = result at hkind ⊢
  cases hkind with
  | late => rfl
  | action c hphase haction watch acted result =>
    exact options_finish { s with watch := watch } acted result
  | refresh => exact options_poll s h
  | resume => exact options_poll { s with monitoring := true } h
  | pause => rfl
  | shutdown => rfl

/-! ## Phases -/

theorem phase_finish (s : Supervisor) (h : Host) (r : Except ActionFault Outcome) :
    (s.finish h r).2.1.phase = s.phase := by
  cases r <;> exact (poll_isKept _ h).phase

/-- Only a command to shut down closes a supervisor. -/
theorem phase_handle {c : Command} (hphase : s.phase ≠ .closed) (hc : c ≠ .shutdown)
    (h : Host) : (s.handle h c).2.1.phase = s.phase := by
  have hkind := s.handling_handle h c
  generalize s.handle h c = result at hkind ⊢
  cases hkind with
  | late c hclosed => exact absurd hclosed hphase
  | action c hphase haction watch acted result =>
    exact phase_finish { s with watch := watch } acted result
  | refresh => exact (poll_isKept s h).phase
  | resume => exact (poll_isKept { s with monitoring := true } h).phase
  | pause => rfl
  | shutdown => exact absurd rfl hc

theorem phase_fireTimer (s : Supervisor) (h : Host) : (s.fireTimer h).2.1.phase = s.phase := by
  unfold fireTimer
  split
  · exact (poll_isKept (restartTimer h s) h).phase
  · rfl

theorem phase_receive (s : Supervisor) (e : LogEntry) : (s.receive e).phase = s.phase := by
  unfold receive
  split <;> rfl

/-! ## Between commands -/

theorem endsWithPoll_begin (hphase : s.phase = .starting) (h : Host) :
    EndsWithPoll s h (s.begin h).1 (s.begin h).2 := by
  unfold begin
  rw [hphase]
  exact (endsWithPoll_poll s h).before rfl rfl

theorem endsWithPoll_fireTimer (hdue : s.isDue h = true) :
    EndsWithPoll s h (s.fireTimer h).2.1 (s.fireTimer h).2.2 := by
  unfold fireTimer
  rw [if_pos hdue]
  exact (endsWithPoll_poll (restartTimer h s) h).after rfl rfl rfl

theorem findings_receive (s : Supervisor) (e : LogEntry) : (s.receive e).findings = s.findings := by
  unfold receive
  split <;> rfl

end Supervisor
end ProxySteward
