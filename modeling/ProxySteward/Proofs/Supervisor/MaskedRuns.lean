import Mathlib.Data.List.Forall2
import ProxySteward.Proofs.Key.MaskedRenaming
import ProxySteward.Proofs.Supervisor.ActionReports

/-!
# Messages tell no more of a key than its mask

Two sessions run side by side.  The configuration file of the second one lists the keys of the first
one under other names, its random source brings such names, and it is sent the same key commands for
them.  The names have the same masks.  Then nobody can tell the two sessions apart by what they say.

* `Renamed` is the relation of the two sessions.  It asks nothing of the texts of the two files but
  their records: the store stands for a list of records (`Holds`), and what a call does to a list it
  does to the renamed list (`MaskedRenaming.Relates.call`).  So both replies to a request have the
  same words (`Renamed.serve`).
* The action message does not follow from the replies, because a poll may put the report of a crash
  in its place.  It is the same in both sessions while nothing outside changes, since no poll
  reveals a crash then (`IsCalm`).  It is also the same if the proxy is looked for on one port,
  since all polls see the same then (`InStep`).
-/

namespace ProxySteward

open Text KeyRecord FileTree Connection

/-! ## Renamed requests -/

theorem mask_trim (t : Text) : mask (trim t) = mask t := by
  rw [mask, mask, show trim (trim t) = trim t from (tight_trimBoth isBlank t).trimBoth_eq]

namespace MaskedRenaming

variable {ρ : MaskedRenaming} {c c' : Command} {bytes bytes' : Bytes}

/-- The second command is the first one with its key renamed. -/
inductive OnCommand (ρ : MaskedRenaming) : Command → Command → Prop
  | edit {e e' : KeyEdit} (he : ρ.OnEdit e e') : OnCommand ρ (.edit e) (.edit e')
  | generate : OnCommand ρ .generate .generate

/-- The second request is the first one with its key renamed. -/
structure OnRequest (ρ : MaskedRenaming) (q q' : Request) : Prop where
  sender : q'.sender = q.sender
  command : ρ.OnCommand q.command q'.command

/-- The second event is the first one with the key of a request renamed. -/
inductive OnEvent (ρ : MaskedRenaming) : Session.Event → Session.Event → Prop
  | send {q q' : Request} (hq : ρ.OnRequest q q') : OnEvent ρ (.send q) (.send q')
  | same {event : Session.Event} (hevent : event.request? = none) : OnEvent ρ event event

/-- The second random bytes bring the renamed key of the first ones. -/
structure OnDraw (ρ : MaskedRenaming) (bytes bytes' : Bytes) : Prop where
  key : generatedKey bytes ∈ ρ.keys
  eq_rename : generatedKey bytes' = ρ.rename (generatedKey bytes)

theorem OnDraw.onEdit (h : ρ.OnDraw bytes bytes') :
    ρ.OnEdit (.add (generatedKey bytes)) (.add (generatedKey bytes')) := by
  have htrim := (KeyEdit.tight_key (ρ.isKey _ h.key)).trimBoth_eq
  have htrim' := (KeyEdit.tight_key (ρ.isKey_rename _ h.key)).trimBoth_eq
  rw [← trim_eq_trimBoth] at htrim htrim'
  refine .add ?_ ?_
  · rw [htrim]
    exact h.key
  · rw [htrim, h.eq_rename, htrim']

theorem OnCommand.isKeyCommand (h : ρ.OnCommand c c') : c.IsKeyCommand ∧ c'.IsKeyCommand := by
  cases h with
  | edit he => exact ⟨fun _ => ⟨_, rfl⟩, fun _ => ⟨_, rfl⟩⟩
  | generate => exact ⟨fun _ => ⟨_, rfl⟩, fun _ => ⟨_, rfl⟩⟩

/-- Related events ask for key commands only. -/
theorem OnEvent.isKeyCommand {event event' : Session.Event} (h : ρ.OnEvent event event') :
    (∀ q, .send q = event → q.command.IsKeyCommand) ∧
      ∀ q, .send q = event' → q.command.IsKeyCommand := by
  cases h with
  | send hq =>
    exact ⟨fun _ heq => Session.Event.send.inj heq ▸ hq.command.isKeyCommand.1,
      fun _ heq => Session.Event.send.inj heq ▸ hq.command.isKeyCommand.2⟩
  | same hevent =>
    have hno : ∀ q, .send q ≠ event := by
      rintro q rfl
      exact absurd hevent (by simp [Session.Event.request?])
    exact ⟨fun q heq => absurd heq (hno q), fun q heq => absurd heq (hno q)⟩

theorem OnCommand.exists_edit? (h : ρ.OnCommand c c')
    (hdraw : c.draws = 1 → ρ.OnDraw bytes bytes') :
    ∃ e e', c.edit? bytes = some e ∧ c'.edit? bytes' = some e' ∧ ρ.OnEdit e e' := by
  cases h with
  | edit he => exact ⟨_, _, rfl, rfl, he⟩
  | generate => exact ⟨_, _, rfl, rfl, (hdraw rfl).onEdit⟩

theorem OnCommand.draws_eq (h : ρ.OnCommand c c') : c'.draws = c.draws := by
  cases h <;> rfl

theorem message_added (verb : String) {k : Text} (hk : k ∈ ρ.keys) :
    (Outcome.added verb (ρ.rename k)).message = (Outcome.added verb k).message :=
  congrArg (verb.toList ++ " key ".toList ++ ·) (ρ.mask_rename k hk)

theorem OnEdit.message_changed {e e' : KeyEdit} (h : ρ.OnEdit e e') (whether : Bool) :
    (Outcome.ofEdit e' (.changed whether)).message =
      (Outcome.ofEdit e (.changed whether)).message := by
  cases h with
  | @add raw raw' hraw hraw' =>
    have hmask : mask raw' = mask raw := by
      rw [← mask_trim raw', hraw', ρ.mask_rename _ hraw, mask_trim]
    exact congrArg ("added key ".toList ++ ·) hmask
  | remove hk =>
    cases whether with
    | true => exact congrArg ("removed key ".toList ++ ·) (ρ.mask_rename _ hk)
    | false => exact congrArg ("key ".toList ++ · ++ " not found".toList) (ρ.mask_rename _ hk)
  | setNote hk note => exact congrArg ("updated note for ".toList ++ ·) (ρ.mask_rename _ hk)
  | setEnabled hk on =>
    cases on with
    | true => exact congrArg ("enabled key ".toList ++ ·) (ρ.mask_rename _ hk)
    | false => exact congrArg ("disabled key ".toList ++ ·) (ρ.mask_rename _ hk)

/-- **Replies** to a command and to the renamed command tell the same. -/
theorem OnCommand.report_reply {a a' : Except KeyFault KeyAnswer} (h : ρ.OnCommand c c')
    (ha : ρ.OnAnswer a a') : (c'.reply a').report? = (c.reply a).report? := by
  cases ha with
  | failed f => rfl
  | @added k hk =>
    have hmessage : (c'.outcome (.added (ρ.rename k))).message =
        (c.outcome (.added k)).message := by
      cases h with
      | edit he => cases he <;> exact message_added "added" hk
      | generate => exact message_added "generated" hk
    exact congrArg (fun message => some (Except.ok message)) hmessage
  | changed whether =>
    have hmessage : (c'.outcome (.changed whether)).message =
        (c.outcome (.changed whether)).message := by
      cases h with
      | edit he => exact he.message_changed whether
      | generate => rfl
    exact congrArg (fun message => some (Except.ok message)) hmessage

end MaskedRenaming

/-! ## Sessions whose file holds a list of records -/

namespace Session

open Supervisor

variable {ρ : MaskedRenaming} {s s' : Session} {path path' : Path} {rs : List KeyRecord}
  {q q' : Request}
  {rest : List Request} {e : KeyEdit}

/-- The selected file of an open session stands for a list of records. -/
structure Holds (path : Path) (rs : List KeyRecord) (s : Session) : Prop where
  phase : s.supervisor.phase ≠ .closed
  selects : ∃ doc,
    Selects s.host.files s.supervisor.options.overrides s.supervisor.options.roots path doc
  stands : KeyStore.StandsFor ⟨path⟩ s.host.files rs
  /-- The action message is the text of the last reply or the report of a crash. -/
  report : s.supervisor.notice.actionMessage = s.lastText? ∨
    s.supervisor.notice.actionMessage = some Notice.crashReport

/-- **A key command** is a call on the list. -/
theorem Holds.serve (hs : s.Holds path rs)
    (hc : q.command.edit? (s.host.random s.host.drawn) = some e) (rest : List Request) :
    (s.supervisor.handle s.host q.command).1 = q.command.reply (KeyList.call e rs).1 ∧
      (s.afterHandling q rest).Holds path (KeyList.call e rs).2 := by
  obtain ⟨doc, hsel⟩ := hs.selects
  obtain ⟨hreply, hoptions, hhost⟩ := handle_of_edit? hs.phase hsel hc
  obtain ⟨hanswer, hstands, -⟩ := hs.stands.call e
  have hopen : q.command ≠ .shutdown := by
    rintro heq
    rw [heq] at hc
    exact absurd hc (by simp [Command.edit?])
  refine ⟨by rw [hreply, hanswer], ⟨?_, ⟨KeyStore.textAfter e doc, ?_⟩, ?_, ?_⟩⟩
  · rw [afterHandling, phase_handle hs.phase hopen]
    exact hs.phase
  · rw [show (s.afterHandling q rest).supervisor.options = s.supervisor.options from hoptions]
    exact selects_handle_of_edit? hs.phase hsel hc
  · rw [show (s.afterHandling q rest).host.files = _ from hhost.files]
    exact hstands
  · rw [lastText?_afterHandling, afterHandling, notice_handle hs.phase hsel hc]
    exact Notice.actionMessage_observe_or _ _

/-! ## The random source -/

theorem random_step (s : Session) (event : Event) :
    (s.step event).host.random = s.host.random ∧ s.host.drawn ≤ (s.step event).host.drawn := by
  cases event with
  | serve =>
    cases hmailbox : s.mailbox with
    | nil =>
      rw [step, hmailbox]
      exact ⟨rfl, le_rfl⟩
    | cons q rest =>
      rw [step_serve hmailbox]
      exact handle_random _ _ _
  | timer =>
    have hu := fireTimer_undisturbed s.supervisor s.host
    exact ⟨hu.random, hu.drawn.ge⟩
  | _ => exact ⟨rfl, le_rfl⟩

theorem drawn_le_run (s : Session) (events : List Event) :
    s.host.drawn ≤ (s.run events).host.drawn := by
  induction events generalizing s with
  | nil => exact le_rfl
  | cons event events ih => exact (random_step s event).2.trans (ih (s.step event))

theorem drawn_take_le_run (s : Session) (events : List Event) (n : Nat) :
    (s.run (events.take n)).host.drawn ≤ (s.run events).host.drawn := by
  have hrest := drawn_le_run (s.run (events.take n)) (events.drop n)
  rwa [run, run, ← List.foldl_append, List.take_append_drop] at hrest

/-! ## Two sessions -/

/-- Who was replied to, and what the replies told. -/
def reports (s : Session) : List (Nat × Option (Except Text Text)) :=
  s.served.map fun x => (x.1.sender, x.2.report?)

/-- The second session is the first one with its keys renamed. -/
structure Renamed (ρ : MaskedRenaming) (path path' : Path) (s s' : Session) : Prop where
  lists : ∃ rs rs', ρ.Relates rs rs' ∧ s.Holds path rs ∧ s'.Holds path' rs'
  drawn : s'.host.drawn = s.host.drawn
  mailbox : List.Forall₂ ρ.OnRequest s.mailbox s'.mailbox
  reports : s'.reports = s.reports

/-- A later state in which no request came in and none was served. -/
structure Idle (s t : Session) : Prop where
  phase : t.supervisor.phase = s.supervisor.phase
  options : t.supervisor.options = s.supervisor.options
  report : t.supervisor.notice.actionMessage = s.supervisor.notice.actionMessage ∨
    t.supervisor.notice.actionMessage = some Notice.crashReport
  host : Host.Undisturbed s.host t.host
  mailbox : t.mailbox = s.mailbox
  served : t.served = s.served

theorem idle_step {event : Event} (hrequest : event.request? = none) (hserve : event ≠ .serve) :
    Idle s (s.step event) := by
  cases event with
  | send q => exact absurd hrequest (by simp [Event.request?])
  | serve => exact absurd rfl hserve
  | wait seconds => exact ⟨rfl, rfl, Or.inl rfl, ⟨rfl, rfl, rfl, rfl⟩, rfl, rfl⟩
  | timer =>
    refine ⟨phase_fireTimer _ _, options_fireTimer _ _, ?_, fireTimer_undisturbed _ _, rfl, rfl⟩
    rw [step, notice_fireTimer]
    split
    · exact Notice.actionMessage_observe_or _ _
    · exact Or.inl rfl
  | log entry =>
    exact ⟨phase_receive _ entry, options_receive _ entry,
      Or.inl (congrArg Notice.actionMessage (notice_receive _ entry)), .refl _, rfl, rfl⟩
  | turn hasTools portLookup network =>
    exact ⟨rfl, rfl, Or.inl rfl, ⟨rfl, rfl, rfl, rfl⟩, rfl, rfl⟩

theorem Idle.holds {t : Session} (ht : Idle s t) (hs : s.Holds path rs) : t.Holds path rs where
  phase := ht.phase ▸ hs.phase
  selects := by
    rw [ht.options, ht.host.files]
    exact hs.selects
  stands := by
    rw [ht.host.files]
    exact hs.stands
  report := by
    rw [lastText?, ht.served]
    rcases ht.report with hsame | hcrash
    · rw [hsame]
      exact hs.report
    · exact Or.inr hcrash

theorem Renamed.of_idle {t t' : Session} (hs : Renamed ρ path path' s s') (ht : Idle s t)
    (ht' : Idle s' t') : Renamed ρ path path' t t' where
  lists := by
    obtain ⟨rs, rs', hrelates, hholds, hholds'⟩ := hs.lists
    exact ⟨rs, rs', hrelates, ht.holds hholds, ht'.holds hholds'⟩
  drawn := by rw [ht.host.drawn, ht'.host.drawn, hs.drawn]
  mailbox := by
    rw [ht.mailbox, ht'.mailbox]
    exact hs.mailbox
  reports := by
    rw [Session.reports, Session.reports, ht.served, ht'.served]
    exact hs.reports

/-- The random sources bring the renamed keys, as far as they are used until there were `n` uses. -/
def DrawsUntil (ρ : MaskedRenaming) (s s' : Session) (n : Nat) : Prop :=
  ∀ i, s.host.drawn ≤ i → i < n → ρ.OnDraw (s.host.random i) (s'.host.random i)

/-- **Both replies** to a request tell the same, and the sessions stay related. -/
theorem Renamed.serve {rest' : List Request} (hs : Renamed ρ path path' s s')
    (hq : ρ.OnRequest q q') (hrest : List.Forall₂ ρ.OnRequest rest rest')
    (hdraw : DrawsUntil ρ s s' (s.afterHandling q rest).host.drawn) :
    (s'.supervisor.handle s'.host q'.command).1.report? =
        (s.supervisor.handle s.host q.command).1.report? ∧
      Renamed ρ path path' (s.afterHandling q rest) (s'.afterHandling q' rest') := by
  obtain ⟨rs, rs', hrelates, hholds, hholds'⟩ := hs.lists
  obtain ⟨doc, hsel⟩ := hholds.selects
  obtain ⟨doc', hsel'⟩ := hholds'.selects
  have hdrawn : (s.afterHandling q rest).host.drawn = s.host.drawn + q.command.draws := by
    obtain ⟨e, hc⟩ := hq.command.isKeyCommand.1 (s.host.random s.host.drawn)
    exact (handle_of_edit? hholds.phase hsel hc).2.2.drawn
  obtain ⟨e, e', hc, hc', he⟩ := hq.command.exists_edit? fun hone =>
    hdraw s.host.drawn le_rfl (by rw [hdrawn, hone]; exact Nat.lt_succ_self _)
  rw [← hs.drawn] at hc'
  obtain ⟨hreply, hafter⟩ := hholds.serve hc rest
  obtain ⟨hreply', hafter'⟩ := hholds'.serve hc' rest'
  obtain ⟨hanswer, hlist⟩ := hrelates.call he
  have hreport : (s'.supervisor.handle s'.host q'.command).1.report? =
      (s.supervisor.handle s.host q.command).1.report? := by
    rw [hreply, hreply', hq.command.report_reply hanswer]
  refine ⟨hreport, ⟨_, _, hlist, hafter, hafter'⟩, ?_, hrest, ?_⟩
  · rw [hdrawn, ← hq.command.draws_eq, ← hs.drawn]
    exact (handle_of_edit? hholds'.phase hsel' hc').2.2.drawn
  · rw [Session.reports, Session.reports, afterHandling, afterHandling, List.map_append,
      List.map_append]
    exact congrArg₂ (· ++ ·) hs.reports
      (by rw [List.map_singleton, List.map_singleton, hq.sender, hreport])

/-- The draws of the rest of a run. -/
theorem DrawsUntil.step {event event' : Event} {n : Nat} (h : DrawsUntil ρ s s' n) :
    DrawsUntil ρ (s.step event) (s'.step event') n := by
  intro i hle hlt
  rw [(random_step s event).1, (random_step s' event').1]
  exact h i ((random_step s event).2.trans hle) hlt

theorem DrawsUntil.mono {m n : Nat} (h : DrawsUntil ρ s s' n) (hmn : m ≤ n) :
    DrawsUntil ρ s s' m :=
  fun i hle hlt => h i hle (hlt.trans_le hmn)

/-! ## The same port -/

/-- Two sessions that look for the proxy on the same port, at the same moments. -/
structure InStep (s s' : Session) : Prop where
  notice : s'.supervisor.notice = s.supervisor.notice
  options : s'.supervisor.options = s.supervisor.options
  port : (s'.supervisor.options.resolve s'.host).port = (s.supervisor.options.resolve s.host).port
  world : s.host.SameWorld s'.host

theorem InStep.sees (h : InStep s s') :
    s'.supervisor.options.sees s'.host = s.supervisor.options.sees s.host :=
  sees_congr h.port h.world.hasTools h.world.portLookup

theorem InStep.of_notice_eq {t t' : Session} (h : InStep s s')
    (hnotice : t'.supervisor.notice = t.supervisor.notice)
    (hoptions : t.supervisor.options = s.supervisor.options)
    (hoptions' : t'.supervisor.options = s'.supervisor.options)
    (hport : (s.supervisor.options.resolve t.host).port =
      (s.supervisor.options.resolve s.host).port)
    (hport' : (s'.supervisor.options.resolve t'.host).port =
      (s'.supervisor.options.resolve s'.host).port)
    (hworld : s.host.SameWorld t.host) (hworld' : s'.host.SameWorld t'.host) : InStep t t' where
  notice := hnotice
  options := by rw [hoptions, hoptions', h.options]
  port := by rw [hoptions, hoptions', hport, hport', h.port]
  world := ⟨by rw [hworld.clock, hworld'.clock, h.world.clock],
    by rw [hworld.hasTools, hworld'.hasTools, h.world.hasTools],
    by rw [hworld.portLookup, hworld'.portLookup, h.world.portLookup]⟩

theorem InStep.serve {rest' : List Request} (h : InStep s s') (hs : Renamed ρ path path' s s')
    (hq : ρ.OnRequest q q') (hrest : List.Forall₂ ρ.OnRequest rest rest')
    (hdraw : DrawsUntil ρ s s' (s.afterHandling q rest).host.drawn) :
    InStep (s.afterHandling q rest) (s'.afterHandling q' rest') := by
  obtain ⟨rs, rs', -, hholds, hholds'⟩ := hs.lists
  obtain ⟨doc, hsel⟩ := hholds.selects
  obtain ⟨doc', hsel'⟩ := hholds'.selects
  obtain ⟨e, hc⟩ := hq.command.isKeyCommand.1 (s.host.random s.host.drawn)
  obtain ⟨e', hc'⟩ := hq.command.isKeyCommand.2 (s'.host.random s'.host.drawn)
  have htext : (s'.supervisor.handle s'.host q'.command).1.text? =
      (s.supervisor.handle s.host q.command).1.text? :=
    congrArg (Option.map reportText) (hs.serve hq hrest hdraw).1
  refine h.of_notice_eq ?_ (options_handle _ _ _) (options_handle _ _ _)
    (port_handle hholds.phase hsel hc) (port_handle hholds'.phase hsel' hc')
    (handle_sameWorld hholds.phase hc) (handle_sameWorld hholds'.phase hc')
  rw [afterHandling, afterHandling, notice_handle hholds.phase hsel hc,
    notice_handle hholds'.phase hsel' hc', h.notice, h.sees, htext]

theorem InStep.timer (h : InStep s s') : InStep (s.step .timer) (s'.step .timer) := by
  have hdue : s'.supervisor.isDue s'.host = s.supervisor.isDue s.host := by
    have hnotice : ∀ (s : Supervisor) (h : Host), s.isDue h =
        (s.notice.phase == .running && s.notice.monitoring && s.notice.deadline ≤ h.clock) :=
          fun _ _ => rfl
    rw [hnotice, hnotice, h.notice, h.world.clock]
  have hresolve : ∀ (o : SupervisorOptions) (s : Session),
      o.resolve (s.step .timer).host = o.resolve s.host := by
    intro o s
    have hfiles : (s.step .timer).host.files = s.host.files := (fireTimer_undisturbed _ _).files
    rw [SupervisorOptions.resolve, SupervisorOptions.resolve, hfiles]
  refine h.of_notice_eq ?_ (options_fireTimer _ _) (options_fireTimer _ _)
    (by rw [hresolve]) (by rw [hresolve]) (fireTimer_sameWorld _ _ s.supervisor.options).1
    (fireTimer_sameWorld _ _ s.supervisor.options).1
  show (s'.supervisor.fireTimer s'.host).2.1.notice = (s.supervisor.fireTimer s.host).2.1.notice
  rw [notice_fireTimer, notice_fireTimer, hdue, h.notice, h.sees, h.options, h.world.clock]

/-! ## Runs -/

/-- **Every event** keeps the sessions related, and in step if they are. -/
theorem Renamed.step {event event' : Event} (hs : Renamed ρ path path' s s')
    (hevent : ρ.OnEvent event event') (hdraw : DrawsUntil ρ s s' (s.step event).host.drawn) :
    Renamed ρ path path' (s.step event) (s'.step event') ∧
      (InStep s s' → InStep (s.step event) (s'.step event')) := by
  cases hevent with
  | send hq =>
    obtain ⟨rs, rs', hrelates, hholds, hholds'⟩ := hs.lists
    exact ⟨⟨⟨rs, rs', hrelates,
      ⟨hholds.phase, hholds.selects, hholds.stands, hholds.report⟩,
      ⟨hholds'.phase, hholds'.selects, hholds'.stands, hholds'.report⟩⟩, hs.drawn,
      List.rel_append hs.mailbox (.cons hq .nil), hs.reports⟩,
      fun h => ⟨h.notice, h.options, h.port, h.world⟩⟩
  | same hrequest =>
    have hidle : event ≠ .serve → Renamed ρ path path' (s.step event) (s'.step event) :=
      fun hserve => hs.of_idle (idle_step hrequest hserve) (idle_step hrequest hserve)
    cases event with
    | send q => exact absurd hrequest (by simp [Event.request?])
    | serve =>
      have hmailboxes := hs.mailbox
      cases hmailbox : s.mailbox with
      | nil =>
        rw [hmailbox, List.forall₂_nil_left_iff] at hmailboxes
        rw [Session.step, Session.step, hmailbox, hmailboxes]
        exact ⟨hs, id⟩
      | cons q rest =>
        rw [hmailbox, List.forall₂_cons_left_iff] at hmailboxes
        obtain ⟨q', rest', hq, hrest, hmailbox'⟩ := hmailboxes
        rw [step_serve hmailbox] at hdraw
        rw [step_serve hmailbox, step_serve hmailbox']
        exact ⟨(hs.serve hq hrest hdraw).2, fun h => h.serve hs hq hrest hdraw⟩
    | wait seconds =>
      have hclock : InStep s s' → s'.host.clock + seconds = s.host.clock + seconds :=
        fun h => congrArg (· + seconds) h.world.clock
      exact ⟨hidle (by simp),
        fun h => ⟨h.notice, h.options, h.port, hclock h, h.world.hasTools,
          h.world.portLookup⟩⟩
    | timer => exact ⟨hidle (by simp), InStep.timer⟩
    | log entry =>
      refine ⟨hidle (by simp), fun h =>
        h.of_notice_eq ?_ (options_receive _ entry) (options_receive _ entry)
        rfl rfl ⟨rfl, rfl, rfl⟩ ⟨rfl, rfl, rfl⟩⟩
      rw [Session.step, Session.step, notice_receive, notice_receive, h.notice]
    | turn hasTools portLookup network =>
      exact ⟨hidle (by simp), fun h =>
        ⟨h.notice, h.options, h.port, h.world.clock, rfl, rfl⟩⟩

theorem Renamed.run {events events' : List Event} (hs : Renamed ρ path path' s s')
    (hevents : List.Forall₂ ρ.OnEvent events events')
    (hdraw : DrawsUntil ρ s s' (s.run events).host.drawn) :
    Renamed ρ path path' (s.run events) (s'.run events') ∧
      (InStep s s' → InStep (s.run events) (s'.run events')) := by
  induction hevents generalizing s s' with
  | nil => exact ⟨hs, id⟩
  | @cons event event' events events' hevent _ ih =>
    obtain ⟨hstep, hinStep⟩ := hs.step hevent (hdraw.mono (drawn_le_run (s.step event) events))
    obtain ⟨hrun, hinRun⟩ := ih hstep hdraw.step
    exact ⟨hrun, fun h => hinRun (hinStep h)⟩

/-! ## The beginning -/

variable {o : SupervisorOptions} {h h' : Host} {doc doc' : Text}

theorem holds_start (hsel : Selects h.files o.overrides o.roots path doc)
    (hstands : KeyStore.StandsFor ⟨path⟩ h.files rs) (monitoring : Bool) (logCapacity : Nat) :
    (start o monitoring logCapacity h).Holds path rs := by
  have hfiles : (start o monitoring logCapacity h).host.files = h.files :=
    (begin_undisturbed (create o monitoring logCapacity h) h).files
  refine ⟨?_, ⟨doc, ?_⟩, ?_, ?_⟩
  · rw [show (start o monitoring logCapacity h).supervisor.phase = .running from rfl]
    decide
  · rw [options_start, hfiles]
    exact hsel
  · rw [hfiles]
    exact hstands
  · rw [notice_start]
    exact Notice.actionMessage_observe_or _ _

theorem drawn_start (o : SupervisorOptions) (monitoring : Bool) (logCapacity : Nat) (h : Host) :
    (start o monitoring logCapacity h).host.drawn = h.drawn :=
  (begin_undisturbed (create o monitoring logCapacity h) h).drawn

theorem random_start (o : SupervisorOptions) (monitoring : Bool) (logCapacity : Nat) (h : Host) :
    (start o monitoring logCapacity h).host.random = h.random :=
  (begin_undisturbed (create o monitoring logCapacity h) h).random

theorem renamed_start (hsel : Selects h.files o.overrides o.roots path doc)
    (hsel' : Selects h'.files o.overrides o.roots path' doc')
    (hrecords : ∀ r ∈ KeySection.records doc, KeyRow.read? (KeyRow.write r) = some r)
    (hrecords' : ∀ r ∈ KeySection.records doc', KeyRow.read? (KeyRow.write r) = some r)
    (hrelates : ρ.Relates (KeySection.records doc) (KeySection.records doc'))
    (hdrawn : h'.drawn = h.drawn) (monitoring : Bool) (logCapacity : Nat) :
    Renamed ρ path path' (start o monitoring logCapacity h)
      (start o monitoring logCapacity h') where
  lists := by
    have hread : (⟨path⟩ : KeyStore).document h.files = .ok doc :=
      KeyStore.document_eq_ok_iff.2 (configText?_eq_some_iff.1 hsel.text)
    have hread' : (⟨path'⟩ : KeyStore).document h'.files = .ok doc' :=
      KeyStore.document_eq_ok_iff.2 (configText?_eq_some_iff.1 hsel'.text)
    exact ⟨_, _, hrelates,
      holds_start hsel (KeyStore.standsFor_of_document hread hrecords) monitoring logCapacity,
      holds_start hsel' (KeyStore.standsFor_of_document hread' hrecords') monitoring logCapacity⟩
  drawn := by rw [drawn_start, drawn_start, hdrawn]
  mailbox := .nil
  reports := rfl

theorem inStep_start (hport : (o.resolve h').port = (o.resolve h).port) (hworld : h.SameWorld h')
    (monitoring : Bool) (logCapacity : Nat) :
    InStep (start o monitoring logCapacity h) (start o monitoring logCapacity h') := by
  have hpolled := fun h => (poll_sameWorld (create o monitoring logCapacity h) h o).1
  have hresolve : ∀ h, o.resolve (start o monitoring logCapacity h).host = o.resolve h := by
    intro h
    rw [SupervisorOptions.resolve, SupervisorOptions.resolve,
      show (start o monitoring logCapacity h).host.files = h.files from
        (begin_undisturbed (create o monitoring logCapacity h) h).files]
  refine ⟨?_, by rw [options_start, options_start], ?_, ?_, ?_, ?_⟩
  · rw [notice_start, notice_start, sees_congr hport hworld.hasTools hworld.portLookup,
      hworld.clock]
  · rw [options_start, options_start, hresolve, hresolve, hport]
  · exact ((hpolled h').clock.trans hworld.clock).trans (hpolled h).clock.symm
  · exact ((hpolled h').hasTools.trans hworld.hasTools).trans (hpolled h).hasTools.symm
  · exact ((hpolled h').portLookup.trans hworld.portLookup).trans (hpolled h).portLookup.symm

/-- The text of the last reply is part of the reports. -/
theorem lastText?_congr (hreports : s'.reports = s.reports) : s'.lastText? = s.lastText? := by
  have hlast : ∀ s : Session,
      s.lastText? = s.reports.getLast?.bind fun x => x.2.map reportText := by
    intro s
    rw [lastText?, reports, List.getLast?_map]
    cases s.served.getLast? <;> rfl
  rw [hlast, hlast, hreports]

/-- Two calm sessions with the same reports have the same action message. -/
theorem actionMessage_eq_of_isCalm (hs : s.IsCalm path) (hs' : s'.IsCalm path')
    (hreports : s'.reports = s.reports) :
    s'.supervisor.snapshot.actionMessage = s.supervisor.snapshot.actionMessage :=
  calc s'.supervisor.notice.actionMessage = s'.lastText? := hs'.report
    _ = s.lastText? := lastText?_congr hreports
    _ = s.supervisor.notice.actionMessage := hs.report.symm

theorem isKeyCommand_of_forall₂ {events events' : List Event}
    (hevents : List.Forall₂ ρ.OnEvent events events') :
    (∀ q, .send q ∈ events → q.command.IsKeyCommand) ∧
      ∀ q, .send q ∈ events' → q.command.IsKeyCommand := by
  induction hevents with
  | nil =>
    exact ⟨fun _ hq => absurd hq List.not_mem_nil, fun _ hq => absurd hq List.not_mem_nil⟩
  | cons hevent _ ih =>
    obtain ⟨hleft, hright⟩ := hevent.isKeyCommand
    exact ⟨fun q hq => (List.mem_cons.1 hq).elim (hleft q) (ih.1 q),
      fun q hq => (List.mem_cons.1 hq).elim (hright q) (ih.2 q)⟩

/-- Events that bring no request are the same in both runs. -/
theorem mem_of_forall₂ {events events' : List Event}
    (hevents : List.Forall₂ ρ.OnEvent events events') {event : Event}
    (hnone : event.request? = none) (hmem : event ∈ events') : event ∈ events := by
  induction hevents with
  | nil => exact hmem
  | cons hevent _ ih =>
    rcases List.mem_cons.1 hmem with rfl | hmem
    · cases hevent with
      | send hq => exact absurd hnone (by simp [Event.request?])
      | same _ => exact List.mem_cons_self
    · exact List.mem_cons_of_mem _ (ih hmem)

/-- **Messages tell no more of a key than its mask.**  Take two configuration files whose loaded
records come back when they are written, such that the records of the second file are those of the
first one with their keys renamed, and two sessions on these files in the same world.  They are sent
the same key commands, the second one for the renamed keys, and its random source brings the renamed
keys as long as the run draws any.  Requests may be served at any moment, and in between time may
pass, the timer may fire and lines of the log may arrive.  Then at every moment

* both sessions have replied to the same senders with the same messages of outcomes and the same
  texts of errors;
* both snapshots have the same action message, if nothing but this happens.

Processes outside may come and go as well.  Then the replies are still the same, and

* the action messages are the same if both files name the same port;
* else the one can be the report that the proxy has stopped, where the proxy on the other port still
  runs and the message is still that of the last action. -/
theorem messages_tell_masks_only (ρ : MaskedRenaming) (o : SupervisorOptions) (monitoring : Bool)
    (logCapacity : Nat) (h : Host) (files' : FileTree) (random' : Nat → Bytes) (path path' : Path)
    (doc doc' : Text) (hsel : Selects h.files o.overrides o.roots path doc)
    (hsel' : Selects files' o.overrides o.roots path' doc')
    (hrecords : ∀ r ∈ KeySection.records doc, KeyRow.read? (KeyRow.write r) = some r)
    (hrecords' : ∀ r ∈ KeySection.records doc', KeyRow.read? (KeyRow.write r) = some r)
    (hrelates : ρ.Relates (KeySection.records doc) (KeySection.records doc'))
    (events events' : List Event) (hevents : List.Forall₂ ρ.OnEvent events events')
    (hdraw : ∀ n, h.drawn ≤ n →
      n < ((start o monitoring logCapacity h).run events).host.drawn →
      ρ.OnDraw (h.random n) (random' n)) :
    let h' : Host := { h with files := files', random := random' }
    let s := fun n => (start o monitoring logCapacity h).run (events.take n)
    let s' := fun n => (start o monitoring logCapacity h').run (events'.take n)
    let message := fun s : Session => s.supervisor.snapshot.actionMessage
    (∀ n, (s' n).reports = (s n).reports) ∧
    ((∀ hasTools portLookup network, .turn hasTools portLookup network ∉ events) →
      ∀ n, message (s' n) = message (s n)) ∧
    ((o.resolve h').port = (o.resolve h).port → ∀ n, message (s' n) = message (s n)) ∧
    ∀ n, message (s' n) = message (s n) ∨ message (s n) = some Notice.crashReport ∨
      message (s' n) = some Notice.crashReport := by
  intro h' s s' message
  have hdrawn : h'.drawn = h.drawn := rfl
  have hstart : Renamed ρ path path' (start o monitoring logCapacity h)
      (start o monitoring logCapacity h') :=
    renamed_start hsel hsel' hrecords hrecords' hrelates hdrawn monitoring logCapacity
  have htake := fun n => List.forall₂_take n hevents
  have hrun : ∀ n, Renamed ρ path path' (s n) (s' n) ∧
      (InStep (start o monitoring logCapacity h) (start o monitoring logCapacity h') →
        InStep (s n) (s' n)) := by
    intro n
    refine hstart.run (htake n) fun i hi hlt => ?_
    rw [drawn_start] at hi
    rw [random_start, random_start]
    exact hdraw i hi (hlt.trans_le (drawn_take_le_run _ events n))
  refine ⟨fun n => (hrun n).1.reports, fun hturn n => ?_, fun hport n => ?_, fun n => ?_⟩
  · obtain ⟨hkeys, hkeys'⟩ := isKeyCommand_of_forall₂ (htake n)
    have hpath : (o.resolve h).configPath = some path := hsel.configPath_resolveIn
    have hpath' : (o.resolve h').configPath = some path' := hsel'.configPath_resolveIn
    refine actionMessage_eq_of_isCalm
      ((isCalm_start hpath monitoring logCapacity).run hkeys
        fun hasTools portLookup network hmem => ?_)
      ((isCalm_start hpath' monitoring logCapacity).run hkeys'
        fun hasTools portLookup network hmem => ?_)
      (hrun n).1.reports
    · exact hturn hasTools portLookup network (List.mem_of_mem_take hmem)
    · exact hturn hasTools portLookup network
        (List.mem_of_mem_take (mem_of_forall₂ (htake n) rfl hmem))
  · have hinStep := (hrun n).2 (inStep_start hport ⟨rfl, rfl, rfl⟩ monitoring logCapacity)
    exact congrArg Notice.actionMessage hinStep.notice
  · obtain ⟨rs, rs', -, hholds, hholds'⟩ := (hrun n).1.lists
    have hlast : (s' n).lastText? = (s n).lastText? := lastText?_congr (hrun n).1.reports
    rcases hholds.report with hsame | hcrash
    · rcases hholds'.report with hsame' | hcrash'
      · exact Or.inl (hsame'.trans (hlast.trans hsame.symm))
      · exact Or.inr (Or.inr hcrash')
    · exact Or.inr (Or.inl hcrash)

/-- The bytes of a key that shows zeros only in its mask. -/
def loneBytes (middle : UInt8) : Bytes := [0, 0] ++ List.replicate 28 middle ++ [0, 0]

/-- A listed key and a generated one get names with other characters in the middle. -/
def loneRenaming : MaskedRenaming where
  keys := {"sk-0123-one-4567".toList, generatedKey (loneBytes 1)}
  rename k :=
    if k = "sk-0123-one-4567".toList then "sk-0123-two-4567".toList else generatedKey (loneBytes 2)
  injOn := by
    rintro k (rfl | rfl) k' (rfl | rfl) heq
    · rfl
    · exact absurd heq (by decide +kernel)
    · exact absurd heq (by decide +kernel)
    · rfl
  isKey := by rintro k (rfl | rfl) <;> exact ⟨by decide +kernel, by decide +kernel⟩
  isKey_rename := by rintro k (rfl | rfl) <;> exact ⟨by decide +kernel, by decide +kernel⟩
  mask_rename := by rintro k (rfl | rfl) <;> decide +kernel

/-- A document that lists one key. -/
def loneKeyDoc (key : String) : Text :=
  "port: 8317\napi-keys:\n  - \"".toList ++ key.toList ++ "\"\n".toList

/-- A host with that configuration file and a random source that brings one key. -/
def loneKeyHost (key : String) (middle : UInt8) : Host :=
  { loneHost with files := lone (loneKeyDoc key), random := fun _ => loneBytes middle }

/-- The key is disabled, and one is generated. -/
def loneKeyEvents (key : String) : List Event :=
  [.send ⟨0, .edit (.setEnabled key.toList false)⟩, .send ⟨1, .generate⟩, .serve, .wait 30,
    .timer, .serve]

/-- Two sessions in which different keys are disabled and generated say the same. -/
theorem messages_tell_masks_only_lone :
    let s := (start loneOptions true 100 (loneKeyHost "sk-0123-one-4567" 1)).run
      (loneKeyEvents "sk-0123-one-4567")
    let s' := (start loneOptions true 100 (loneKeyHost "sk-0123-two-4567" 2)).run
      (loneKeyEvents "sk-0123-two-4567")
    s.reports = [(0, some (.ok "disabled key sk-0123...4567".toList)),
        (1, some (.ok "generated key sk-0000...0000".toList))] ∧
      s'.reports = s.reports ∧
      s'.supervisor.snapshot.actionMessage = s.supervisor.snapshot.actionMessage := by
  intro s s'
  have hlisted : KeySection.records (loneKeyDoc "sk-0123-one-4567") =
      [fresh "sk-0123-one-4567".toList] := by
    decide +kernel
  have hkeys : ∀ r ∈ KeySection.records (loneKeyDoc "sk-0123-one-4567"),
      r.key ∈ loneRenaming.keys := by
    intro r hr
    rw [hlisted] at hr
    rw [List.mem_singleton.1 hr]
    exact Or.inl rfl
  have hdrawn : generatedKey (loneBytes 2) = loneRenaming.rename (generatedKey (loneBytes 1)) := by
    decide +kernel
  obtain ⟨hreports, hmessage, -⟩ := messages_tell_masks_only loneRenaming loneOptions true 100
    (loneKeyHost "sk-0123-one-4567" 1) (loneKeyHost "sk-0123-two-4567" 2).files
    (fun _ => loneBytes 2) lonePath lonePath (loneKeyDoc "sk-0123-one-4567")
    (loneKeyDoc "sk-0123-two-4567") (selects_lone _) (selects_lone _)
    (by decide +kernel) (by decide +kernel) ⟨hkeys, by decide +kernel⟩
    (loneKeyEvents "sk-0123-one-4567") (loneKeyEvents "sk-0123-two-4567")
    (.cons (.send ⟨rfl, .edit (.setEnabled (Or.inl rfl) false)⟩)
      (.cons (.send ⟨rfl, .generate⟩)
      (.cons (.same rfl) (.cons (.same rfl) (.cons (.same rfl) (.cons (.same rfl) .nil))))))
    fun _ _ _ => ⟨Or.inr rfl, hdrawn⟩
  exact ⟨by decide +kernel, hreports 6, hmessage (by simp [loneKeyEvents]) 6⟩

end Session
end ProxySteward
