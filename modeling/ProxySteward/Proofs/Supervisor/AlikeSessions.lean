import ProxySteward.Proofs.Supervisor.OpenSession
import ProxySteward.Proofs.Usage.FailureReport

/-!
# Sessions with servers that fail alike

Two sessions run side by side in the same world, except that their servers may write different
things into failing replies.  Nothing that the supervisors do tells them apart: at every moment they
are the same supervisor (`AlikeTo.after`).

Only a fetch looks at the network, so every action of a supervisor commutes with a change of the
servers (`Host.withNetwork`), and a fetch of both sessions is reported in the same words
(`pollUsage_alike`).
-/

namespace ProxySteward

/-- The host with other servers. -/
def Host.withNetwork (h : Host) (network : UsageRequest → Exchange) : Host :=
  { h with network := network }

/-- Servers that differ in the bodies of failing replies only. -/
def AlikeNetworks (n n' : UsageRequest → Exchange) : Prop := ∀ r, (n r).Alike (n' r)

/-- Two hosts that differ in such servers only. -/
def Host.Alike (h h' : Host) : Prop :=
  ∃ (base : Host) (n n' : UsageRequest → Exchange),
    AlikeNetworks n n' ∧ h = base.withNetwork n ∧ h' = base.withNetwork n'

theorem Host.alike_withNetwork {h : Host} {n : UsageRequest → Exchange}
    (hn : AlikeNetworks h.network n) :
    h.Alike (h.withNetwork n) := ⟨h, h.network, n, hn, rfl, rfl⟩

namespace Supervisor

variable {n : UsageRequest → Exchange}

/-! ## Other servers -/

theorem editKeys_withNetwork (s : Supervisor) (h : Host) (e : KeyEdit) :
    s.editKeys (h.withNetwork n) e = ((s.editKeys h e).1, (s.editKeys h e).2.withNetwork n) := by
  have hresolve : s.options.resolve (h.withNetwork n) = s.options.resolve h := rfl
  unfold editKeys
  rw [hresolve, show (h.withNetwork n).files = h.files from rfl]
  split
  · rfl
  · split <;> rfl

theorem launch_withNetwork (h : Host) (program config : Path) :
    Service.launch (h.withNetwork n) program config =
      ((Service.launch h program config).1, (Service.launch h program config).2.withNetwork n) := by
  have hlog : Service.logFile (h.withNetwork n) = Service.logFile h := rfl
  unfold Service.launch
  rw [hlog, show (h.withNetwork n).files = h.files from rfl]
  split
  · rfl
  · dsimp only
    split <;> rfl

theorem start_withNetwork (h : Host) (c : Connection) :
    Service.start (h.withNetwork n) c =
      ((Service.start h c).1, (Service.start h c).2.withNetwork n) := by
  have hlaunchable : Service.launchable (h.withNetwork n) c = Service.launchable h c := rfl
  unfold Service.start
  rw [hlaunchable]
  split
  · rfl
  · next program config _ =>
    rw [launch_withNetwork]
    generalize Service.launch h program config = launched
    obtain ⟨result, h₁⟩ := launched
    cases result <;> rfl

theorem stop_withNetwork (h : Host) (c : Connection) :
    Service.stop (h.withNetwork n) c = (Service.stop h c).withNetwork n := by
  have hlistener : Service.terminateListener (h.withNetwork n) c.port =
      (Service.terminateListener h c.port).withNetwork n := by
    unfold Service.terminateListener
    rw [show Service.listener? (h.withNetwork n) c.port = Service.listener? h c.port from rfl]
    split
    · split <;> rfl
    · rfl
  rw [Service.stop, hlistener, Service.stop]
  unfold Service.terminateMatching
  split
  · rw [show ((Service.terminateListener h c.port).withNetwork n).hasTools =
      (Service.terminateListener h c.port).hasTools from rfl]
    split <;> rfl
  · rfl

theorem fetch_withNetwork (h : Host) (baseUrl key : Text) :
    (UsageFetch.fetch (h.withNetwork n) baseUrl key).2 =
      (UsageFetch.fetch h baseUrl key).2.withNetwork n := by
  unfold UsageFetch.fetch
  cases UsageRequest.of baseUrl key with
  | error f => cases f <;> rfl
  | ok r => rfl

/-! ## Hosts that are alike -/

variable {h h' : Host}

theorem resolve_alike (o : SupervisorOptions) (hh : h.Alike h') : o.resolve h' = o.resolve h := by
  obtain ⟨base, n, n', -, rfl, rfl⟩ := hh
  rfl

theorem draw_alike (hh : h.Alike h') : h'.draw.1 = h.draw.1 ∧ h.draw.2.Alike h'.draw.2 := by
  obtain ⟨base, n, n', hn, rfl, rfl⟩ := hh
  exact ⟨rfl, base.draw.2, n, n', hn, rfl, rfl⟩

theorem restartTimer_alike (hh : h.Alike h') (s : Supervisor) :
    s.restartTimer h' = s.restartTimer h := by
  obtain ⟨base, n, n', -, rfl, rfl⟩ := hh
  rfl

/-- **A fetch** teaches both supervisors the same. -/
theorem fetch_alike (hh : h.Alike h') (s : Supervisor) (baseUrl key : Text) :
    s.learnUsage key (UsageFetch.fetch h' baseUrl key).1 =
        s.learnUsage key (UsageFetch.fetch h baseUrl key).1 ∧
      (UsageFetch.fetch h baseUrl key).2.Alike (UsageFetch.fetch h' baseUrl key).2 := by
  obtain ⟨base, n, n', hn, rfl, rfl⟩ := hh
  refine ⟨?_, ⟨_, n, n', hn, fetch_withNetwork base baseUrl key,
    fetch_withNetwork base baseUrl key⟩⟩
  unfold UsageFetch.fetch
  cases UsageRequest.of baseUrl key with
  | error f => cases f <;> rfl
  | ok r =>
    show s.learnUsage key (UsageFetch.ofExchange (n' r)) =
      s.learnUsage key (UsageFetch.ofExchange (n r))
    rcases (hn r).report with hsame | ⟨f, g, hf, hg, hreport⟩
    · rw [hsame]
    · rw [hf, hg, learnUsage, learnUsage, hreport]

theorem pollUsage_alike (hh : h.Alike h') (c : Connection) (s : Supervisor) :
    (s.pollUsage c h').1 = (s.pollUsage c h).1 ∧
      (s.pollUsage c h).2.Alike (s.pollUsage c h').2 := by
  unfold pollUsage
  split
  · exact fetch_alike hh s c.baseUrl c.managementKey
  · exact ⟨rfl, hh⟩

theorem look_alike (hh : h.Alike h') (c : Connection) (s : Supervisor) :
    s.look c h' = s.look c h := by
  obtain ⟨base, n, n', -, rfl, rfl⟩ := hh
  rfl

/-- **A poll** finds the same on both hosts. -/
theorem poll_alike (hh : h.Alike h') (s : Supervisor) :
    (s.poll h').1 = (s.poll h).1 ∧ (s.poll h).2.Alike (s.poll h').2 := by
  obtain ⟨hsame, hhost⟩ := pollUsage_alike hh (s.options.resolve h) s.beginPoll
  rw [poll_eq, poll_eq, resolve_alike s.options hh]
  dsimp only
  rw [hsame, look_alike hhost]
  exact ⟨rfl, hhost⟩

theorem finish_alike (hh : h.Alike h') (s : Supervisor) (r : Except ActionFault Outcome) :
    (s.finish h' r).1 = (s.finish h r).1 ∧ (s.finish h' r).2.1 = (s.finish h r).2.1 ∧
      (s.finish h r).2.2.Alike (s.finish h' r).2.2 := by
  cases r with
  | ok o => exact ⟨rfl, poll_alike hh _⟩
  | error f => exact ⟨rfl, poll_alike hh _⟩

theorem editKeys_alike (hh : h.Alike h') (s : Supervisor) (e : KeyEdit) :
    (s.editKeys h' e).1 = (s.editKeys h e).1 ∧ (s.editKeys h e).2.Alike (s.editKeys h' e).2 := by
  obtain ⟨base, n, n', hn, rfl, rfl⟩ := hh
  rw [editKeys_withNetwork, editKeys_withNetwork]
  exact ⟨rfl, _, n, n', hn, rfl, rfl⟩

theorem start_alike (hh : h.Alike h') (c : Connection) :
    (Service.start h' c).1 = (Service.start h c).1 ∧
      (Service.start h c).2.Alike (Service.start h' c).2 := by
  obtain ⟨base, n, n', hn, rfl, rfl⟩ := hh
  rw [start_withNetwork, start_withNetwork]
  exact ⟨rfl, _, n, n', hn, rfl, rfl⟩

theorem stop_alike (hh : h.Alike h') (c : Connection) :
    (Service.stop h c).Alike (Service.stop h' c) := by
  obtain ⟨base, n, n', hn, rfl, rfl⟩ := hh
  exact ⟨_, n, n', hn, stop_withNetwork base c, stop_withNetwork base c⟩

/-- **Every command** is replied to and carried out in the same way. -/
theorem handle_alike (hh : h.Alike h') (s : Supervisor) (c : Command) :
    (s.handle h' c).1 = (s.handle h c).1 ∧ (s.handle h' c).2.1 = (s.handle h c).2.1 ∧
      (s.handle h c).2.2.Alike (s.handle h' c).2.2 := by
  by_cases hphase : s.phase = .closed
  · rw [handle_of_closed hphase, handle_of_closed hphase]
    exact ⟨rfl, rfl, hh⟩
  · rw [handle_eq_carryOut hphase, handle_eq_carryOut hphase]
    cases c with
    | edit e =>
      obtain ⟨hresult, hhost⟩ := editKeys_alike hh s e
      rw [carryOut_edit, carryOut_edit, hresult]
      exact finish_alike hhost s _
    | generate =>
      obtain ⟨hbytes, hdrawn⟩ := draw_alike hh
      obtain ⟨hresult, hhost⟩ :=
        editKeys_alike hdrawn s (.add (KeyRecord.generatedKey h.draw.1))
      have hfinish := finish_alike hhost s
        (editResult Outcome.ofGenerated
          (s.editKeys h.draw.2 (.add (KeyRecord.generatedKey h.draw.1))).1)
      have hcarry : s.carryOut h' .generate =
          s.finish (s.editKeys h'.draw.2 (.add (KeyRecord.generatedKey h.draw.1))).2
            (editResult Outcome.ofGenerated
              (s.editKeys h.draw.2 (.add (KeyRecord.generatedKey h.draw.1))).1) := by
        rw [← hresult, ← hbytes]
        rfl
      rw [hcarry]
      exact hfinish
    | start =>
      obtain ⟨hresult, hhost⟩ := start_alike hh (s.options.resolve h)
      rw [carryOut_start, carryOut_start, resolve_alike s.options hh, hresult]
      exact finish_alike hhost _ _
    | stop =>
      rw [carryOut_stop, carryOut_stop, resolve_alike s.options hh]
      exact finish_alike (stop_alike hh _) _ _
    | refresh => exact ⟨rfl, poll_alike hh s⟩
    | setMonitoring on =>
      cases on with
      | true =>
        obtain ⟨hsame, hhost⟩ := poll_alike hh { s with monitoring := true }
        rw [carryOut_setMonitoring_true, carryOut_setMonitoring_true, hsame,
          restartTimer_alike hhost]
        exact ⟨rfl, rfl, hhost⟩
      | false => exact ⟨rfl, rfl, hh⟩
    | shutdown => exact ⟨rfl, rfl, hh⟩

/-! ## Between commands -/

theorem begin_alike (hh : h.Alike h') (s : Supervisor) :
    (s.begin h').1 = (s.begin h).1 ∧ (s.begin h).2.Alike (s.begin h').2 := by
  unfold begin
  split
  · obtain ⟨hsame, hhost⟩ := poll_alike hh s
    dsimp only
    rw [hsame, restartTimer_alike hhost]
    exact ⟨rfl, hhost⟩
  · exact ⟨rfl, hh⟩

theorem fireTimer_alike (hh : h.Alike h') (s : Supervisor) :
    (s.fireTimer h').2.1 = (s.fireTimer h).2.1 ∧
      (s.fireTimer h).2.2.Alike (s.fireTimer h').2.2 := by
  have hdue : s.isDue h' = s.isDue h := by
    obtain ⟨base, n, n', -, rfl, rfl⟩ := hh
    rfl
  unfold fireTimer
  rw [hdue, restartTimer_alike hh]
  split
  · exact poll_alike hh (s.restartTimer h)
  · exact ⟨rfl, hh⟩

end Supervisor

/-! ## Sessions -/

namespace Session

open Supervisor

/-- The same occurrence, but for servers that differ in the bodies of failing replies. -/
inductive Occurrence.Alike : Occurrence → Occurrence → Prop
  | same (x : Occurrence) : Alike x x
  | turn (hasTools : Bool) (portLookup : Nat → PortLookup) {n n' : UsageRequest → Exchange}
      (hn : AlikeNetworks n n') :
      Alike (.event (.turn hasTools portLookup n)) (.event (.turn hasTools portLookup n'))

/-- Two sessions that differ in such servers only. -/
structure AlikeTo (s s' : Session) : Prop where
  supervisor : s'.supervisor = s.supervisor
  host : s.host.Alike s'.host
  mailbox : s'.mailbox = s.mailbox
  served : s'.served = s.served

variable {s s' : Session} {x x' : Occurrence}

theorem AlikeTo.step (hs : s.AlikeTo s') (event : Event) :
    (s.step event).AlikeTo (s'.step event) := by
  obtain ⟨supervisor, host, mailbox, served⟩ := s
  obtain ⟨supervisor', host', mailbox', served'⟩ := s'
  obtain ⟨hsupervisor, hhost, hmailbox, hserved⟩ := hs
  dsimp only at hsupervisor hhost hmailbox hserved
  subst hsupervisor hmailbox hserved
  cases event with
  | send q => exact ⟨rfl, hhost, rfl, rfl⟩
  | serve =>
    cases mailbox' with
    | nil => exact ⟨rfl, hhost, rfl, rfl⟩
    | cons q rest =>
      obtain ⟨hreply, hsame, hafter⟩ := handle_alike hhost supervisor' q.command
      refine ⟨hsame, hafter, rfl, ?_⟩
      show served' ++ [(q, (supervisor'.handle host' q.command).1)] = _
      rw [hreply]
      rfl
  | wait seconds =>
    obtain ⟨base, n, n', hn, rfl, rfl⟩ := hhost
    exact ⟨rfl, ⟨base.wait seconds, n, n', hn, rfl, rfl⟩, rfl, rfl⟩
  | timer =>
    obtain ⟨hsame, hafter⟩ := fireTimer_alike hhost supervisor'
    exact ⟨hsame, hafter, rfl, rfl⟩
  | log entry => exact ⟨rfl, hhost, rfl, rfl⟩
  | turn hasTools portLookup network =>
    obtain ⟨base, n, n', -, rfl, rfl⟩ := hhost
    exact ⟨rfl, ⟨{ base with hasTools := hasTools, portLookup := portLookup }, network, network,
      fun r => Or.inl rfl, rfl, rfl⟩, rfl, rfl⟩

/-- **Every occurrence** keeps sessions alike. -/
theorem AlikeTo.occur (hs : s.AlikeTo s') (hx : x.Alike x') :
    (s.occur x).AlikeTo (s'.occur x') := by
  cases hx with
  | same x =>
    cases x with
    | event event => exact hs.step event
    | change files =>
      obtain ⟨base, n, n', hn, hhost, hhost'⟩ := hs.host
      refine ⟨hs.supervisor, ⟨{ base with files := files }, n, n', hn, ?_, ?_⟩, hs.mailbox,
        hs.served⟩
      · rw [occur, hhost]
        rfl
      · rw [occur, hhost']
        rfl
  | turn hasTools portLookup hn =>
    obtain ⟨base, n, n', -, hhost, hhost'⟩ := hs.host
    refine ⟨hs.supervisor, ⟨{ base with hasTools := hasTools, portLookup := portLookup }, _, _,
      hn, ?_, ?_⟩, hs.mailbox, hs.served⟩
    · rw [occur, Session.step, hhost]
      rfl
    · rw [occur, Session.step, hhost']
      rfl

theorem AlikeTo.after (hs : s.AlikeTo s') {xs xs' : List Occurrence}
    (hxs : List.Forall₂ Occurrence.Alike xs xs') : (s.after xs).AlikeTo (s'.after xs') := by
  induction hxs generalizing s s' with
  | nil => exact hs
  | cons hx _ ih => exact ih (hs.occur hx)

theorem alikeTo_start (o : SupervisorOptions) (monitoring : Bool) (logCapacity : Nat) {h h' : Host}
    (hh : h.Alike h') :
    (start o monitoring logCapacity h).AlikeTo (start o monitoring logCapacity h') := by
  have hcreate : create o monitoring logCapacity h' = create o monitoring logCapacity h := by
    rw [create, create, resolve_alike o hh]
  obtain ⟨hsame, hhost⟩ := begin_alike hh (create o monitoring logCapacity h)
  refine ⟨?_, ?_, rfl, rfl⟩
  · show ((create o monitoring logCapacity h').begin h').1 = _
    rw [hcreate]
    exact hsame
  · show Host.Alike _ ((create o monitoring logCapacity h').begin h').2
    rw [hcreate]
    exact hhost

end Session
end ProxySteward
