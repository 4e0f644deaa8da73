import ProxySteward.Proofs.Supervisor.CrashAccount
import ProxySteward.Proofs.Supervisor.OpenSession

/-!
# What the action message says

The snapshot has one line for the report of an action.  An action puts its report there and polls,
and a poll that reveals a crash puts the report of the crash in its place.  `Notice` is what this
depends on: to a notice, a poll is one observation of whether the proxy runs (`notice_poll`), and a
key command is its report and one observation (`notice_handle`).

Key commands do not move the port, so they do not change whether the proxy is seen running
(`sees_handle`).  While no process outside comes or goes, no poll reveals a crash, and the action
message is the text of the last reply (`actionMessage_run`).
-/

namespace ProxySteward

open Text Connection

/-- What a reply tells: the message of an outcome or the text of an error. -/
def Reply.report? : Reply → Option (Except Text Text)
  | .outcome o => some (.ok o.message)
  | .fault f => some (.error f.message)
  | .acknowledged => none
  | .closed => some (.error closedMessage)

/-- The words of a report. -/
def reportText : Except Text Text → Text
  | .ok message => message
  | .error message => message

/-- The words of a reply. -/
def Reply.text? (r : Reply) : Option Text := r.report?.map reportText

/-- Whether a command concerns the key list, whatever the random source brings. -/
def Command.IsKeyCommand (c : Command) : Prop := ∀ bytes, ∃ e, c.edit? bytes = some e

/-- What of a supervisor decides on the action message and on the moment of the next poll. -/
structure Notice where
  phase : Phase
  monitoring : Bool
  deadline : Nat
  watch : CrashWatch
  actionMessage : Option Text

namespace Notice

/-- The report of a crash. -/
def crashReport : Text := "local service stopped unexpectedly".toList

/-- The notice after the proxy was seen running or not. -/
def observe (n : Notice) (running : Bool) : Notice :=
  { n with
    watch := n.watch.observe running
    actionMessage := if n.watch.reveals running then some crashReport else n.actionMessage }

/-- The notice with the report of an action. -/
def tell (n : Notice) (report : Option Text) : Notice := { n with actionMessage := report }

/-- A proxy that did not stop has not crashed. -/
theorem actionMessage_observe {n : Notice} {running : Bool}
    (h : n.watch.wasRunning = true → running = true) :
    (n.observe running).actionMessage = n.actionMessage := by
  have hno : n.watch.reveals running = false := by
    rw [CrashWatch.reveals]
    cases hwas : n.watch.wasRunning with
    | false => rfl
    | true => rw [h hwas]; rfl
  rw [observe, hno]
  rfl

/-- What an observation can do to the action message. -/
theorem actionMessage_observe_or (n : Notice) (running : Bool) :
    (n.observe running).actionMessage = n.actionMessage ∨
      (n.observe running).actionMessage = some crashReport := by
  rw [observe]
  cases n.watch.reveals running with
  | false => exact Or.inl rfl
  | true => exact Or.inr rfl

end Notice

/-- A host on which the same processes listen, at the same time. -/
structure Host.SameWorld (h h' : Host) : Prop where
  clock : h'.clock = h.clock
  hasTools : h'.hasTools = h.hasTools
  portLookup : h'.portLookup = h.portLookup

namespace Supervisor

variable {s : Supervisor} {h h' : Host} {path : Path} {doc : Text} {c : Command} {e : KeyEdit}

/-- The notice of a supervisor. -/
def notice (s : Supervisor) : Notice :=
  ⟨s.phase, s.monitoring, s.deadline, s.watch, s.actionMessage⟩

/-! ## What is seen of the proxy -/

/-- The proxy is looked for on one port. -/
theorem sees_congr {o o' : SupervisorOptions} (hport : (o'.resolve h').port = (o.resolve h).port)
    (hhasTools : h'.hasTools = h.hasTools) (hportLookup : h'.portLookup = h.portLookup) :
    o'.sees h' = o.sees h := by
  have hlistener : Service.listener? h' (o'.resolve h').port =
      Service.listener? h (o.resolve h).port := by
    rw [Service.listener?, Service.listener?, hport, hhasTools, hportLookup]
  rw [SupervisorOptions.sees, SupervisorOptions.sees, Service.status, Service.status, hlistener]
  cases Service.listener? h (o.resolve h).port <;> rfl

/-- A poll leaves the world and the view of it alone. -/
theorem poll_sameWorld (s : Supervisor) (h : Host) (o : SupervisorOptions) :
    h.SameWorld (s.poll h).2 ∧ o.sees (s.poll h).2 = o.sees h := by
  rcases s.poll_host h with ⟨hsame, -⟩ | ⟨r, hdid, -⟩
  · rw [hsame]
    exact ⟨⟨rfl, rfl, rfl⟩, rfl⟩
  · rw [hdid]
    exact ⟨⟨rfl, rfl, rfl⟩, rfl⟩

theorem finish_sameWorld (s : Supervisor) (h : Host) (r : Except ActionFault Outcome)
    (o : SupervisorOptions) :
    h.SameWorld (s.finish h r).2.2 ∧ o.sees (s.finish h r).2.2 = o.sees h := by
  cases r <;> exact poll_sameWorld _ h o

/-- A key command edits the file, and the rest of it is its report and a poll. -/
theorem exists_finish (hphase : s.phase ≠ .closed) (hc : c.edit? (h.random h.drawn) = some e) :
    ∃ edited r, s.handle h c = s.finish edited r ∧ h.SameWorld edited := by
  have hworld : ∀ (h : Host) (e : KeyEdit), h.SameWorld (s.editKeys h e).2 := by
    intro h e
    unfold editKeys
    split
    · exact ⟨rfl, rfl, rfl⟩
    · split <;> exact ⟨rfl, rfl, rfl⟩
  rw [handle_eq_carryOut hphase]
  cases c with
  | edit e' => exact ⟨_, _, carryOut_edit s h e', hworld h e'⟩
  | generate =>
    have hdrawn := hworld { h with drawn := h.drawn + 1 }
      (.add (KeyRecord.generatedKey (h.random h.drawn)))
    exact ⟨_, _, carryOut_generate s h, hdrawn.clock, hdrawn.hasTools, hdrawn.portLookup⟩
  | _ => exact absurd hc (by simp [Command.edit?])

theorem handle_sameWorld (hphase : s.phase ≠ .closed) (hc : c.edit? (h.random h.drawn) = some e) :
    h.SameWorld (s.handle h c).2.2 := by
  obtain ⟨edited, r, hfinish, hworld⟩ := exists_finish hphase hc
  have hpoll := (finish_sameWorld s edited r s.options).1
  rw [hfinish]
  exact ⟨hpoll.clock.trans hworld.clock, hpoll.hasTools.trans hworld.hasTools,
    hpoll.portLookup.trans hworld.portLookup⟩

theorem port_handle (hphase : s.phase ≠ .closed)
    (hsel : Selects h.files s.options.overrides s.options.roots path doc)
    (hc : c.edit? (h.random h.drawn) = some e) :
    (s.options.resolve (s.handle h c).2.2).port = (s.options.resolve h).port := by
  have hafter := selects_handle_of_edit? hphase hsel hc
  rw [SupervisorOptions.resolve, SupervisorOptions.resolve, hafter.port_resolveIn,
    hsel.port_resolveIn, port?_textAfter]

/-- **A key command** does not change whether the proxy is seen running. -/
theorem sees_handle (hphase : s.phase ≠ .closed)
    (hsel : Selects h.files s.options.overrides s.options.roots path doc)
    (hc : c.edit? (h.random h.drawn) = some e) :
    s.options.sees (s.handle h c).2.2 = s.options.sees h :=
  have hworld := handle_sameWorld hphase hc
  sees_congr (port_handle hphase hsel hc) hworld.hasTools hworld.portLookup

/-! ## The notice -/

theorem notice_pollUsage (c : Connection) (s : Supervisor) (h : Host) :
    (s.pollUsage c h).1.notice = s.notice := by
  unfold pollUsage
  split
  · dsimp only
    cases (UsageFetch.fetch h c.baseUrl c.managementKey).1 <;> rfl
  · rfl

theorem notice_learnService (status : ServiceStatus) (now : Nat) (s : Supervisor) :
    (s.learnService status now).notice = s.notice.observe status.running := by
  have hnotice : s.notice.watch.reveals status.running = s.watch.reveals status.running := rfl
  rw [learnService, Notice.observe, hnotice]
  cases s.watch.reveals status.running <;> rfl

theorem notice_followLog (h : Host) (s : Supervisor) : (s.followLog h).notice = s.notice := by
  unfold followLog
  split <;> rfl

theorem notice_look (c : Connection) (s : Supervisor) (h : Host) :
    (s.look c h).notice = s.notice.observe (Service.status h c).running := by
  let known := { s with keys := learnKeys s.keys (loadKeys h.files c.configPath), connection := c }
  calc
    (s.look c h).notice = ((known.learnService (Service.status h c) h.clock).followLog h).notice :=
      rfl
    _ = known.notice.observe (Service.status h c).running := by
      rw [notice_followLog, notice_learnService]

/-- **A poll** is one observation. -/
theorem notice_poll (s : Supervisor) (h : Host) :
    (s.poll h).1.notice = s.notice.observe (s.options.sees h) := by
  have hseen : (Service.status (s.poll h).2 (s.options.resolve h)).running = s.options.sees h := by
    rcases s.poll_host h with ⟨hsame, -⟩ | ⟨r, hdid, -⟩
    · rw [hsame]
      rfl
    · rw [hdid]
      rfl
  rw [← hseen, poll_eq]
  dsimp only
  rw [notice_look, notice_pollUsage]
  rfl

theorem notice_finish (s : Supervisor) (h : Host) (r : Except ActionFault Outcome) :
    (s.finish h r).2.1.notice =
      (s.notice.tell (s.finish h r).1.text?).observe (s.options.sees h) := by
  cases r with
  | ok o => exact notice_poll { s with actionMessage := some o.message } h
  | error f => exact notice_poll { s with actionMessage := some f.message } h

/-- **A key command** puts its report on the notice and observes the proxy. -/
theorem notice_handle (hphase : s.phase ≠ .closed)
    (hsel : Selects h.files s.options.overrides s.options.roots path doc)
    (hc : c.edit? (h.random h.drawn) = some e) :
    (s.handle h c).2.1.notice =
      (s.notice.tell (s.handle h c).1.text?).observe (s.options.sees h) := by
  obtain ⟨edited, r, hfinish, -⟩ := exists_finish hphase hc
  have hsees : s.options.sees edited = s.options.sees h := by
    rw [← sees_handle hphase hsel hc, hfinish, (finish_sameWorld s edited r s.options).2]
  rw [hfinish, notice_finish, hsees]

/-- The timer observes the proxy if it is due. -/
theorem notice_fireTimer (s : Supervisor) (h : Host) :
    (s.fireTimer h).2.1.notice =
      if s.isDue h then
        { s.notice with deadline := h.clock + s.options.interval }.observe (s.options.sees h)
      else s.notice := by
  unfold fireTimer
  split
  · exact notice_poll (s.restartTimer h) h
  · rfl

theorem fireTimer_sameWorld (s : Supervisor) (h : Host) (o : SupervisorOptions) :
    h.SameWorld (s.fireTimer h).2.2 ∧ o.sees (s.fireTimer h).2.2 = o.sees h := by
  unfold fireTimer
  split
  · exact poll_sameWorld (s.restartTimer h) h o
  · exact ⟨⟨rfl, rfl, rfl⟩, rfl⟩

theorem notice_receive (s : Supervisor) (entry : LogEntry) :
    (s.receive entry).notice = s.notice := by
  unfold receive
  split <;> rfl

end Supervisor

/-! ## Sessions in which nothing comes or goes outside -/

namespace Session

open Supervisor

variable {s s' : Session} {path : Path} {q : Request} {rest : List Request}

/-- The text of the last reply. -/
def lastText? (s : Session) : Option Text := s.served.getLast?.bind fun x => x.2.text?

theorem lastText?_afterHandling :
    (s.afterHandling q rest).lastText? = (s.supervisor.handle s.host q.command).1.text? := by
  rw [lastText?, afterHandling, List.getLast?_concat]
  rfl

/-- A session with key commands only in which the action message is the text of the last reply.  If
the proxy was seen running, it is still running, so the next poll reveals no crash. -/
structure IsCalm (path : Path) (s : Session) : Prop where
  phase : s.supervisor.notice.phase ≠ .closed
  selects : ∃ doc,
    Selects s.host.files s.supervisor.options.overrides s.supervisor.options.roots path doc
  keyCommands : ∀ q ∈ s.mailbox, q.command.IsKeyCommand
  seen : s.supervisor.notice.watch.wasRunning = true → s.supervisor.options.sees s.host = true
  report : s.supervisor.notice.actionMessage = s.lastText?

/-- What leaves the notice and the view of the proxy alone. -/
theorem IsCalm.of_notice_eq (hs : s.IsCalm path)
    (hnotice : s'.supervisor.notice = s.supervisor.notice)
    (hoptions : s'.supervisor.options = s.supervisor.options)
    (hfiles : s'.host.files = s.host.files)
    (hsees : s.supervisor.options.sees s'.host = s.supervisor.options.sees s.host)
    (hserved : s'.served = s.served) (hkeys : ∀ q ∈ s'.mailbox, q.command.IsKeyCommand) :
    s'.IsCalm path where
  phase := by
    rw [hnotice]
    exact hs.phase
  selects := by
    rw [hoptions, hfiles]
    exact hs.selects
  keyCommands := hkeys
  seen := by
    rw [hoptions, hsees, hnotice]
    exact hs.seen
  report := by
    rw [hnotice, lastText?, hserved]
    exact hs.report

/-- An observation after which the proxy looks the same. -/
theorem IsCalm.of_observe {n : Notice} {running : Bool}
    (hnotice : s'.supervisor.notice = n.observe running) (hphase : n.phase ≠ .closed)
    (hwas : n.watch.wasRunning = true → running = true)
    (hsees : s'.supervisor.options.sees s'.host = running)
    (hselects : ∃ doc,
      Selects s'.host.files s'.supervisor.options.overrides s'.supervisor.options.roots path doc)
    (hreport : n.actionMessage = s'.lastText?)
    (hkeys : ∀ q ∈ s'.mailbox, q.command.IsKeyCommand) : s'.IsCalm path where
  phase := by
    rw [hnotice]
    exact hphase
  selects := hselects
  keyCommands := hkeys
  seen := by
    rw [hsees, hnotice]
    exact id
  report := by
    rw [hnotice, Notice.actionMessage_observe hwas, hreport]

theorem IsCalm.serve (hs : s.IsCalm path) (hmailbox : s.mailbox = q :: rest) :
    (s.afterHandling q rest).IsCalm path := by
  have hkeys : ∀ q' ∈ q :: rest, q'.command.IsKeyCommand := hmailbox ▸ hs.keyCommands
  obtain ⟨doc, hsel⟩ := hs.selects
  obtain ⟨e, hc⟩ := hkeys q List.mem_cons_self (s.host.random s.host.drawn)
  have hoptions : (s.afterHandling q rest).supervisor.options = s.supervisor.options :=
    options_handle _ _ _
  refine .of_observe (notice_handle hs.phase hsel hc) hs.phase hs.seen ?_
    ⟨KeyStore.textAfter e doc, ?_⟩ lastText?_afterHandling.symm
    fun q' hq' => hkeys q' (List.mem_cons_of_mem q hq')
  · rw [hoptions]
    exact sees_handle hs.phase hsel hc
  · rw [hoptions]
    exact selects_handle_of_edit? hs.phase hsel hc

theorem IsCalm.timer (hs : s.IsCalm path) : (s.step .timer).IsCalm path := by
  have hoptions : (s.step .timer).supervisor.options = s.supervisor.options := options_fireTimer _ _
  have hfiles : (s.step .timer).host.files = s.host.files := (fireTimer_undisturbed _ _).files
  have hsees := (fireTimer_sameWorld s.supervisor s.host s.supervisor.options).2
  have hnotice := notice_fireTimer s.supervisor s.host
  by_cases hdue : s.supervisor.isDue s.host = true
  · rw [if_pos hdue] at hnotice
    refine .of_observe hnotice hs.phase hs.seen
      (by rw [hoptions]; exact hsees) ?_ hs.report hs.keyCommands
    rw [hoptions, hfiles]
    exact hs.selects
  · rw [if_neg hdue] at hnotice
    exact hs.of_notice_eq hnotice hoptions hfiles hsees rfl hs.keyCommands

/-- **Every event** but a change of the world outside keeps a session calm. -/
theorem IsCalm.step (hs : s.IsCalm path) {event : Event}
    (hkey : ∀ q, event = .send q → q.command.IsKeyCommand)
    (hturn : ∀ hasTools portLookup network, event ≠ .turn hasTools portLookup network) :
    (s.step event).IsCalm path := by
  cases event with
  | send q =>
    refine hs.of_notice_eq rfl rfl rfl rfl rfl fun q' hq' => ?_
    rcases List.mem_append.1 hq' with hq' | hq'
    · exact hs.keyCommands q' hq'
    · exact hkey q' (by rw [List.mem_singleton.1 hq'])
  | serve =>
    cases hmailbox : s.mailbox with
    | nil => rwa [Session.step, hmailbox]
    | cons q rest =>
      rw [step_serve hmailbox]
      exact hs.serve hmailbox
  | wait seconds => exact hs.of_notice_eq rfl rfl rfl rfl rfl hs.keyCommands
  | timer => exact hs.timer
  | log entry =>
    exact hs.of_notice_eq (notice_receive _ entry) (options_receive _ entry) rfl rfl rfl
      hs.keyCommands
  | turn hasTools portLookup network => exact absurd rfl (hturn hasTools portLookup network)

/-- A session begins with one observation. -/
theorem notice_start (o : SupervisorOptions) (monitoring : Bool) (logCapacity : Nat) (h : Host) :
    (start o monitoring logCapacity h).supervisor.notice =
      Notice.observe ⟨.running, monitoring, h.clock + o.interval, .initial, none⟩
        (o.sees h) := by
  have hpoll := notice_poll (create o monitoring logCapacity h) h
  have hclock := (poll_sameWorld (create o monitoring logCapacity h) h o).1.clock
  have hoptions := options_poll (create o monitoring logCapacity h) h
  have hkept := poll_isKept (create o monitoring logCapacity h) h
  calc (start o monitoring logCapacity h).supervisor.notice =
      ⟨.running, ((create o monitoring logCapacity h).poll h).1.monitoring,
        ((create o monitoring logCapacity h).poll h).2.clock +
          ((create o monitoring logCapacity h).poll h).1.options.interval,
        ((create o monitoring logCapacity h).poll h).1.notice.watch,
        ((create o monitoring logCapacity h).poll h).1.notice.actionMessage⟩ := rfl
    _ = _ := by
      rw [hpoll, hclock, hoptions, hkept.monitoring]
      rfl

theorem isCalm_start {o : SupervisorOptions} {h : Host}
    (hpath : (o.resolve h).configPath = some path) (monitoring : Bool)
    (logCapacity : Nat) : (start o monitoring logCapacity h).IsCalm path := by
  obtain ⟨doc, hsel⟩ := exists_selects hpath
  have hfiles : (start o monitoring logCapacity h).host.files = h.files :=
    (begin_undisturbed (create o monitoring logCapacity h) h).files
  have hsees : o.sees (start o monitoring logCapacity h).host = o.sees h :=
    (poll_sameWorld (create o monitoring logCapacity h) h o).2
  refine .of_observe (notice_start o monitoring logCapacity h) (by simp)
    (by simp [CrashWatch.initial]) ?_ ⟨doc, ?_⟩ rfl
    fun q hq => absurd hq List.not_mem_nil
  · rw [options_start]
    exact hsees
  · rw [options_start, hfiles]
    exact hsel

theorem IsCalm.run (hs : s.IsCalm path) {events : List Event}
    (hkeys : ∀ q, .send q ∈ events → q.command.IsKeyCommand)
    (hturn : ∀ hasTools portLookup network, .turn hasTools portLookup network ∉ events) :
    (s.run events).IsCalm path := by
  induction events generalizing s with
  | nil => exact hs
  | cons event events ih =>
    have hstep : (s.step event).IsCalm path :=
      hs.step (fun q hq => hkeys q (hq ▸ List.mem_cons_self))
        fun hasTools portLookup network heq =>
          hturn hasTools portLookup network (heq ▸ List.mem_cons_self)
    exact ih hstep (fun q hq => hkeys q (List.mem_cons_of_mem event hq))
      fun hasTools portLookup network hmem =>
        hturn hasTools portLookup network (List.mem_cons_of_mem event hmem)

end Session
end ProxySteward
