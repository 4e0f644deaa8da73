import ProxySteward.Proofs.Supervisor.HostFrame

/-!
# Sessions with a supervisor

A session is a supervisor at work: requests of any number of senders come into its mailbox, it
serves them one at a time in the order in which they came, and in between time passes, its timer
fires, lines of the log arrive, and the world outside the files becomes another one.  `Session.step`
is one such event, and a run is any list of events, so every way in which requests, polls and log
lines can interleave is some run.

`Tracks` is the invariant of a run.  It compares the session with a `KeyLedger` that carries out the
key commands served so far and nothing else: both have the same text in the configuration file, and
every reply to a key command is the one the ledger gives at that point.  The timer and the log do
not touch what the invariant speaks of, a command that does not concern the key list leaves the
configuration file alone, and a key command does the same to both files; so the invariant is kept by
every event (`Tracks.step`).

## The log file

A start of the proxy empties its log file.  Nothing keeps an operator from naming that very file as
the configuration file, so in runs with a start the two must be assumed to be different files
(`LogApart`).
-/

namespace ProxySteward

open Text KeyRecord FileTree Connection

/-- A request and the one who waits for the reply. -/
structure Request where
  sender : Nat
  command : Command
  deriving DecidableEq, Repr

/-- A supervisor at work: its host, the requests it has not looked at, and those it has replied
to. -/
structure Session where
  supervisor : Supervisor
  host : Host
  mailbox : List Request
  served : List (Request × Reply)

namespace Session

/-- What can happen next in a session. -/
inductive Event where
  /-- A request comes into the mailbox. -/
  | send (q : Request)
  /-- The supervisor serves the first request of the mailbox. -/
  | serve
  | wait (seconds : Nat)
  /-- The supervisor looks at its timer, and polls if it is due. -/
  | timer
  /-- A line of the log arrives. -/
  | log (e : LogEntry)
  /-- Processes and servers outside are different from now on. -/
  | turn (hasTools : Bool) (portLookup : Nat → PortLookup) (network : UsageRequest → Exchange)

/-- The request that an event brings. -/
def Event.request? : Event → Option Request
  | .send q => some q
  | _ => none

/-- A session that has just begun: the supervisor has polled for the first time. -/
def start (o : SupervisorOptions) (monitoring : Bool) (logCapacity : Nat) (h : Host) : Session :=
  let (supervisor, host) := (Supervisor.create o monitoring logCapacity h).begin h
  ⟨supervisor, host, [], []⟩

/-- The session after an event. -/
def step (s : Session) : Event → Session
  | .send q => { s with mailbox := s.mailbox ++ [q] }
  | .serve => match s.mailbox with
    | [] => s
    | q :: rest =>
      let (reply, supervisor, host) := s.supervisor.handle s.host q.command
      ⟨supervisor, host, rest, s.served ++ [(q, reply)]⟩
  | .wait seconds => { s with host := s.host.wait seconds }
  | .timer =>
    let (_, supervisor, host) := s.supervisor.fireTimer s.host
    { s with supervisor := supervisor, host := host }
  | .log e => { s with supervisor := s.supervisor.receive e }
  | .turn hasTools portLookup network =>
    { s with
      host := { s.host with
        hasTools := hasTools, portLookup := portLookup, network := network } }

/-- The session after some events. -/
def run (s : Session) (events : List Event) : Session := events.foldl step s

/-- The requests that the supervisor looked at before it shut down, with its replies. -/
def processed (s : Session) : List (Request × Reply) := s.served.filter fun x => x.2 ≠ .closed

/-- No path that may hold the configuration file leads to the log file of the proxy. -/
def LogApart (o : SupervisorOptions) (h : Host) : Prop :=
  ∀ p ∈ o.overrides.candidates o.roots, ∀ l, h.files.locate p = .ok l →
    h.files.locate (Service.logFile h) ≠ .ok l

/-! ## The mailbox -/

theorem served_append_mailbox_step (s : Session) (event : Event) :
    (s.step event).served.map Prod.fst ++ (s.step event).mailbox =
      s.served.map Prod.fst ++ s.mailbox ++ event.request?.toList := by
  cases event with
  | send q => simp [step, Event.request?]
  | serve =>
    cases hmailbox : s.mailbox with
    | nil => simp [step, hmailbox, Event.request?]
    | cons q rest => simp [step, hmailbox, Event.request?]
  | _ => simp [step, Event.request?]

/-- No request is lost or served out of turn. -/
theorem served_append_mailbox (s : Session) (events : List Event) :
    (s.run events).served.map Prod.fst ++ (s.run events).mailbox =
      s.served.map Prod.fst ++ s.mailbox ++ events.filterMap Event.request? := by
  induction events generalizing s with
  | nil => simp [run]
  | cons event events ih =>
    have hstep := ih (s.step event)
    rw [served_append_mailbox_step] at hstep
    rw [show s.run (event :: events) = (s.step event).run events from rfl, hstep, List.append_assoc]
    cases event <;> rfl

/-! ## The invariant -/

/-- The commands of processed requests. -/
def commands (xs : List (Request × Reply)) : List Command := xs.map fun x => x.1.command

/-- The ledger that starts with the files of a host, after some commands. -/
def ledger (h : Host) (path : Path) (cs : List Command) : KeyLedger :=
  KeyLedger.after ⟨path⟩ h.random ⟨h.files, h.drawn⟩ cs

/-- What a session has in common with the ledger of its key commands; `starts` says whether commands
to start the proxy may come. -/
structure Tracks (o : SupervisorOptions) (h : Host) (path : Path) (starts : Prop) (s : Session) :
    Prop where
  options : s.supervisor.options = o
  temporaryDirectory : s.host.temporaryDirectory = h.temporaryDirectory
  random : s.host.random = h.random
  drawn : s.host.drawn = (ledger h path (commands s.processed)).drawn
  /-- The selected file has the text that it has on the ledger. -/
  text : ∃ doc, Selects s.host.files o.overrides o.roots path doc ∧
    (ledger h path (commands s.processed)).files.readText path = .ok doc
  replies : ∀ earlier q reply later, s.processed = earlier ++ (q, reply) :: later →
    ∀ e, q.command.edit? (h.random (ledger h path (commands earlier)).drawn) = some e →
      reply = q.command.reply
        ((⟨path⟩ : KeyStore).call e (ledger h path (commands earlier)).files).1
  /-- A start cannot empty the configuration file. -/
  apart : starts → LogApart o s.host
  expected : ∀ q ∈ s.mailbox, q.command = .start → starts

variable {o : SupervisorOptions} {h : Host} {path : Path} {starts : Prop} {s : Session}

/-- One more processed request is one more step of the ledger. -/
theorem ledger_commands_concat (xs : List (Request × Reply)) (x : Request × Reply) :
    ledger h path (commands (xs ++ [x])) =
      KeyLedger.step ⟨path⟩ h.random (ledger h path (commands xs)) x.1.command := by
  rw [commands, List.map_append]
  exact KeyLedger.after_concat _

/-- Where a list with one more element can be divided at an element. -/
theorem eq_or_of_concat_eq {α : Type} {xs earlier later : List α} {x y : α}
    (h : xs ++ [x] = earlier ++ y :: later) :
    (xs = earlier ∧ x = y) ∨ ∃ later', xs = earlier ++ y :: later' := by
  rcases List.eq_nil_or_concat later with rfl | ⟨later', z, rfl⟩
  · obtain ⟨h₁, h₂⟩ := List.append_inj' h rfl
    exact Or.inl ⟨h₁, (List.cons.inj h₂).1⟩
  · rw [List.concat_eq_append, ← List.cons_append, ← List.append_assoc] at h
    exact Or.inr ⟨later', (List.append_inj' h rfl).1⟩

/-! ## Where the log file is -/

theorem LogApart.of_files {h' : Host} (hapart : LogApart o h) (hfiles : h'.files = h.files)
    (hdir : h'.temporaryDirectory = h.temporaryDirectory) : LogApart o h' := by
  intro p hp l hl
  rw [Service.logFile, hdir, hfiles]
  rw [hfiles] at hl
  exact hapart p hp l hl

/-- Files move no path, so the log file stays apart. -/
theorem LogApart.put {h' : Host} {l : Location} {content : Bytes} {mode : Nat}
    (hapart : LogApart o h) (hl : h.files.node? l ≠ some .directory)
    (hfiles : h'.files = h.files.put l (.file content mode))
    (hdir : h'.temporaryDirectory = h.temporaryDirectory) : LogApart o h' := by
  intro p hp m hm
  rw [hfiles, locate_put_file hl] at hm
  rw [Service.logFile, hdir, hfiles, Ne, locate_put_file hl]
  exact hapart p hp m hm

theorem LogApart.call {h' : Host} {doc : Text} {e : KeyEdit} (hapart : LogApart o h)
    (hsel : Selects h.files o.overrides o.roots path doc)
    (hfiles : h'.files = ((⟨path⟩ : KeyStore).call e h.files).2)
    (hdir : h'.temporaryDirectory = h.temporaryDirectory) : LogApart o h' := by
  obtain ⟨l, content, mode, hdoc⟩ := hsel.exists_holdsText
  rcases KeyStore.call_files (s := ⟨path⟩) (e := e) hdoc with
    ⟨-, -, -, hput⟩ | ⟨hsame, -⟩
  · exact hapart.put hdoc.not_directory (hfiles.trans hput) hdir
  · exact hapart.of_files (hfiles.trans hsame) hdir

/-! ## The invariant is kept -/

/-- What leaves files, random source and served requests alone keeps the invariant. -/
theorem Tracks.of_undisturbed {s' : Session} (ht : Tracks o h path starts s)
    (hoptions : s'.supervisor.options = s.supervisor.options)
    (hhost : Host.Undisturbed s.host s'.host) (hprocessed : s'.processed = s.processed)
    (hexpected : ∀ q ∈ s'.mailbox, q.command = .start → starts) :
    Tracks o h path starts s' where
  options := hoptions.trans ht.options
  temporaryDirectory := hhost.temporaryDirectory.trans ht.temporaryDirectory
  random := hhost.random.trans ht.random
  drawn := by rw [hprocessed, hhost.drawn, ht.drawn]
  text := by
    rw [hprocessed, hhost.files]
    exact ht.text
  replies := by
    rw [hprocessed]
    exact ht.replies
  apart hstarts := (ht.apart hstarts).of_files hhost.files hhost.temporaryDirectory
  expected := hexpected

/-- The session after the supervisor handled a request. -/
def afterHandling (s : Session) (q : Request) (rest : List Request) : Session :=
  let result := s.supervisor.handle s.host q.command
  ⟨result.2.1, result.2.2, rest, s.served ++ [(q, result.1)]⟩

theorem step_serve {q : Request} {rest : List Request} (hmailbox : s.mailbox = q :: rest) :
    s.step .serve = s.afterHandling q rest := by
  rw [step, hmailbox]
  rfl

variable {q : Request} {rest : List Request}

/-- A request that the supervisor looked at before it shut down is processed. -/
theorem processed_afterHandling (hreply : (s.supervisor.handle s.host q.command).1 ≠ .closed) :
    (s.afterHandling q rest).processed =
      s.processed ++ [(q, (s.supervisor.handle s.host q.command).1)] := by
  rw [processed, afterHandling, List.filter_append, List.filter_cons_of_pos (by simpa using hreply),
    List.filter_nil]
  rfl

theorem ledger_afterHandling (rest : List Request)
    (hreply : (s.supervisor.handle s.host q.command).1 ≠ .closed) :
    ledger h path (commands (s.afterHandling q rest).processed) =
      KeyLedger.step ⟨path⟩ h.random (ledger h path (commands s.processed)) q.command := by
  rw [processed_afterHandling hreply, ledger_commands_concat]

/-- Replies that are those of the ledger, with one more such reply. -/
theorem Tracks.replies_concat {reply : Reply} (ht : Tracks o h path starts s)
    (hlast : ∀ e, q.command.edit? (h.random (ledger h path (commands s.processed)).drawn) =
      some e →
      reply = q.command.reply
        ((⟨path⟩ : KeyStore).call e (ledger h path (commands s.processed)).files).1) :
    ∀ earlier q' reply' later, s.processed ++ [(q, reply)] = earlier ++ (q', reply') :: later →
      ∀ e, q'.command.edit? (h.random (ledger h path (commands earlier)).drawn) = some e →
        reply' = q'.command.reply
          ((⟨path⟩ : KeyStore).call e (ledger h path (commands earlier)).files).1 := by
  intro earlier q' reply' later hsplit
  rcases eq_or_of_concat_eq hsplit with ⟨rfl, hx⟩ | ⟨later', hsplit⟩
  · obtain ⟨rfl, rfl⟩ := Prod.mk.inj hx
    exact hlast
  · exact ht.replies earlier q' reply' later' hsplit

/-- A key command does the same to the session and to the ledger. -/
theorem Tracks.afterHandling_of_edit? {e : KeyEdit} (ht : Tracks o h path starts s)
    (hphase : s.supervisor.phase ≠ .closed)
    (hexpected : ∀ q ∈ rest, q.command = .start → starts)
    (hc : q.command.edit? (s.host.random s.host.drawn) = some e) :
    Tracks o h path starts (s.afterHandling q rest) := by
  obtain ⟨doc, hsel, hledger⟩ := ht.text
  have hsel' : Selects s.host.files s.supervisor.options.overrides s.supervisor.options.roots
      path doc := by
    rw [ht.options]
    exact hsel
  obtain ⟨hreply, hoptions, hhost⟩ := Supervisor.handle_of_edit? hphase hsel' hc
  have hne : (s.supervisor.handle s.host q.command).1 ≠ .closed := by
    rw [hreply]
    exact q.command.reply_ne_closed _
  rw [ht.random, ht.drawn] at hc
  have hnext := (ledger_afterHandling rest hne).trans (KeyLedger.step_of_edit? ⟨path⟩ hc)
  refine ⟨hoptions.trans ht.options, hhost.temporaryDirectory.trans ht.temporaryDirectory,
    hhost.random.trans ht.random, ?_, ?_, ?_, fun hstarts => ?_, hexpected⟩
  · rw [hnext]
    exact hhost.drawn.trans (by rw [ht.drawn])
  · rw [hnext]
    refine ⟨KeyStore.textAfter e doc, ?_, KeyStore.readText_call hledger⟩
    rw [show (s.afterHandling q rest).host.files = _ from hhost.files]
    exact hsel.call rfl e
  · rw [processed_afterHandling hne]
    refine ht.replies_concat fun e' he' => ?_
    -- both files have the same text, so both stores give the same answer
    obtain rfl : e = e' := Option.some.inj (hc.symm.trans he')
    rw [hreply, KeyStore.answer_call (configText?_eq_some_iff.1 hsel.text),
      KeyStore.answer_call hledger]
  · exact (ht.apart hstarts).call hsel hhost.files hhost.temporaryDirectory

/-- Any other command leaves the configuration file alone. -/
theorem Tracks.afterHandling_of_edit?_eq_none (ht : Tracks o h path starts s)
    (hphase : s.supervisor.phase ≠ .closed)
    (hexpected : ∀ q' ∈ q :: rest, q'.command = .start → starts)
    (hc : q.command.edit? (s.host.random s.host.drawn) = none) :
    Tracks o h path starts (s.afterHandling q rest) := by
  obtain ⟨doc, hsel, hledger⟩ := ht.text
  obtain ⟨hne, hoptions, hhost⟩ := Supervisor.handle_of_edit?_eq_none hphase hc
  rw [ht.random, ht.drawn] at hc
  have hnext :=
    (ledger_afterHandling rest hne).trans (KeyLedger.step_of_edit?_eq_none ⟨path⟩ hc)
  have htouched : Host.LogTouched s.host (s.afterHandling q rest).host :=
    hhost.elim (fun hu => hu.logTouched) fun hstart => hstart.2
  -- the files are the same, or an empty log file was put where no candidate leads
  have hfiles : (s.afterHandling q rest).host.files = s.host.files ∨
      LogApart o s.host ∧ ∃ l mode, s.host.files.locate (Service.logFile s.host) = .ok l ∧
        s.host.files.node? l ≠ some .directory ∧
        (s.afterHandling q rest).host.files = s.host.files.put l (.file [] mode) := by
    rcases hhost with hu | ⟨hstart, -⟩
    · exact Or.inl hu.files
    · exact htouched.files.imp_right fun hput =>
        ⟨ht.apart (hexpected q List.mem_cons_self hstart), hput⟩
  refine ⟨hoptions.trans ht.options, htouched.temporaryDirectory.trans ht.temporaryDirectory,
    htouched.random.trans ht.random, ?_, ?_, ?_, fun hstarts => ?_,
    fun q' hq' => hexpected q' (List.mem_cons_of_mem q hq')⟩
  · rw [hnext]
    exact htouched.drawn.trans ht.drawn
  · rw [hnext]
    refine ⟨doc, ?_, hledger⟩
    rcases hfiles with hsame | ⟨ha, l, mode, hl, hnode, hput⟩
    · rw [hsame]
      exact hsel
    · rw [hput]
      exact hsel.put_of_ne hnode fun p hp hp' => ha p hp l hp' hl
  · rw [processed_afterHandling hne]
    exact ht.replies_concat fun e' he' => absurd (hc.symm.trans he') (by simp)
  · rcases hfiles with hsame | ⟨-, l, mode, -, hnode, hput⟩
    · exact (ht.apart hstarts).of_files hsame htouched.temporaryDirectory
    · exact (ht.apart hstarts).put hnode hput htouched.temporaryDirectory

/-- The supervisor serves a request. -/
theorem Tracks.serve (ht : Tracks o h path starts s) (hmailbox : s.mailbox = q :: rest) :
    Tracks o h path starts (s.afterHandling q rest) := by
  have hexpected : ∀ q' ∈ q :: rest, q'.command = .start → starts := hmailbox ▸ ht.expected
  have hrest : ∀ q' ∈ rest, q'.command = .start → starts :=
    fun q' hq' => hexpected q' (List.mem_cons_of_mem q hq')
  by_cases hphase : s.supervisor.phase = .closed
  · have hsame : s.afterHandling q rest =
        ⟨s.supervisor, s.host, rest, s.served ++ [(q, .closed)]⟩ := by
      rw [afterHandling, Supervisor.handle_of_closed hphase]
    rw [hsame]
    refine ht.of_undisturbed rfl (.refl s.host) ?_ hrest
    rw [processed, List.filter_append]
    simp [processed]
  · cases hc : q.command.edit? (s.host.random s.host.drawn) with
    | some e => exact ht.afterHandling_of_edit? hphase hrest hc
    | none => exact ht.afterHandling_of_edit?_eq_none hphase hexpected hc

/-- **Every event keeps the invariant**, if a start is only sent where it may come. -/
theorem Tracks.step (ht : Tracks o h path starts s) (event : Event)
    (hsend : ∀ q, event = .send q → q.command = .start → starts) :
    Tracks o h path starts (s.step event) := by
  cases event with
  | send q =>
    refine ht.of_undisturbed rfl (.refl s.host) rfl fun q' hq' => ?_
    rcases List.mem_append.1 hq' with hq' | hq'
    · exact ht.expected q' hq'
    · rw [List.mem_singleton.1 hq']
      exact hsend q rfl
  | serve =>
    cases hmailbox : s.mailbox with
    | nil => rwa [Session.step, hmailbox]
    | cons q rest =>
      rw [step_serve hmailbox]
      exact ht.serve hmailbox
  | wait seconds => exact ht.of_undisturbed rfl ⟨rfl, rfl, rfl, rfl⟩ rfl ht.expected
  | timer =>
    exact ht.of_undisturbed (Supervisor.options_fireTimer _ _)
      (Supervisor.fireTimer_undisturbed _ _) rfl ht.expected
  | log e =>
    exact ht.of_undisturbed (Supervisor.options_receive _ e) (.refl s.host) rfl ht.expected
  | turn hasTools portLookup network =>
    exact ht.of_undisturbed rfl ⟨rfl, rfl, rfl, rfl⟩ rfl ht.expected

theorem Tracks.run (ht : Tracks o h path starts s) (events : List Event)
    (hsend : ∀ q, .send q ∈ events → q.command = .start → starts) :
    Tracks o h path starts (s.run events) := by
  induction events generalizing s with
  | nil => exact ht
  | cons event events ih =>
    refine ih (ht.step event ?_) fun q hq => hsend q (List.mem_cons_of_mem event hq)
    rintro q rfl
    exact hsend q List.mem_cons_self

/-- A session that has just begun. -/
theorem tracks_start (hpath : (o.resolve h).configPath = some path) (monitoring : Bool)
    (logCapacity : Nat) (hapart : starts → LogApart o h) :
    Tracks o h path starts (start o monitoring logCapacity h) := by
  obtain ⟨doc, hsel⟩ := exists_selects hpath
  have hhost : Host.Undisturbed h (start o monitoring logCapacity h).host :=
    Supervisor.begin_undisturbed (Supervisor.create o monitoring logCapacity h) h
  have hoptions : (start o monitoring logCapacity h).supervisor.options = o :=
    Supervisor.options_begin (Supervisor.create o monitoring logCapacity h) h
  refine ⟨hoptions, hhost.temporaryDirectory, hhost.random, hhost.drawn,
    ⟨doc, ?_, configText?_eq_some_iff.1 hsel.text⟩, ?_, fun hstarts => ?_,
    fun q hq => absurd hq List.not_mem_nil⟩
  · rw [hhost.files]
    exact hsel
  · intro earlier q reply later hsplit
    exact absurd hsplit (by simp [start, processed])
  · exact (hapart hstarts).of_files hhost.files hhost.temporaryDirectory

/-! ## No update is lost -/

/-- A key that was acknowledged is on the ledger until a command removes it. -/
theorem Tracks.lists_of_acknowledged (ht : Tracks o h path starts s)
    (hread : KeyLedger.IsReadable ⟨path⟩ ⟨h.files, h.drawn⟩)
    (earlier between later : List (Request × Reply)) {q : Request} {reply : Reply} {key : Text}
    (hsplit : s.processed = earlier ++ (q, reply) :: (between ++ later))
    (hack : q.command.acknowledged? reply = some key)
    (hno : .edit (.remove key) ∉ commands between) :
    IsKey key ∧ KeyLedger.Lists ⟨path⟩
      (ledger h path (commands (earlier ++ (q, reply) :: between))).files key := by
  have hearlier : KeyLedger.IsReadable ⟨path⟩ (ledger h path (commands earlier)) :=
    hread.after _
  obtain ⟨e, he⟩ := Command.exists_edit?_of_acknowledged hack
    (h.random (ledger h path (commands earlier)).drawn)
  rw [ht.replies earlier q reply (between ++ later) hsplit e he] at hack
  obtain ⟨hkey, hlists⟩ := KeyLedger.lists_of_acknowledged hearlier he hack
  have hledger : ledger h path (commands (earlier ++ (q, reply) :: between)) =
      KeyLedger.after ⟨path⟩ h.random
        (KeyLedger.step ⟨path⟩ h.random (ledger h path (commands earlier)) q.command)
        (commands between) := by
    rw [commands, List.map_append]
    exact KeyLedger.after_append _ _
  rw [hledger]
  exact ⟨hkey, hlists.after (hearlier.step q.command) hkey hno⟩

/-- **No acknowledged key update is lost.**  Take a session that begins with a configuration file,
and any run of it.  The requests are served in the order in which they came.  Compared with the
ledger on which the store alone carries out the processed key commands in that order,

* the configuration file has the same text, and each reply to a key command is the one of the
  ledger;
* every key that was reported as added or generated and that no later command removes is among the
  records that are loaded at the end;
* an addition of a key that was reported as added or generated before, and not removed since, fails
  because the key exists. -/
theorem run_agrees_with_ledger (o : SupervisorOptions) (monitoring : Bool) (logCapacity : Nat)
    (h : Host) (path : Path) (hpath : (o.resolve h).configPath = some path) (events : List Event)
    (hlog : (∃ q, .send q ∈ events ∧ q.command = .start) → LogApart o h) :
    let s := (start o monitoring logCapacity h).run events
    let store : KeyStore := ⟨path⟩
    s.served.map Prod.fst ++ s.mailbox = events.filterMap Event.request? ∧
    s.host.files.readText path = (ledger h path (commands s.processed)).files.readText path ∧
    (∀ earlier q reply later, s.processed = earlier ++ (q, reply) :: later →
      ∀ e, q.command.edit? (h.random (ledger h path (commands earlier)).drawn) = some e →
        reply = q.command.reply (store.call e (ledger h path (commands earlier)).files).1) ∧
    (∀ earlier q reply later key, s.processed = earlier ++ (q, reply) :: later →
      q.command.acknowledged? reply = some key → .edit (.remove key) ∉ commands later →
        KeyLedger.Lists store s.host.files key) ∧
    (∀ earlier q reply between q' reply' later raw,
      s.processed = earlier ++ (q, reply) :: between ++ (q', reply') :: later →
      q.command.acknowledged? reply = some (trim raw) →
      .edit (.remove (trim raw)) ∉ commands between → q'.command = .edit (.add raw) →
        reply' = .fault (.keys .keyExists)) := by
  intro s store
  have ht : Tracks o h path (∃ q, .send q ∈ events ∧ q.command = .start) s :=
    (tracks_start hpath monitoring logCapacity hlog).run events
      fun q hq hstart => ⟨q, hq, hstart⟩
  have hread : KeyLedger.IsReadable store ⟨h.files, h.drawn⟩ := by
    obtain ⟨doc, hsel⟩ := exists_selects hpath
    exact ⟨doc, configText?_eq_some_iff.1 hsel.text⟩
  obtain ⟨doc, hsel, hledger⟩ := ht.text
  have htext := configText?_eq_some_iff.1 hsel.text
  refine ⟨served_append_mailbox _ events, htext.trans hledger.symm, ht.replies, ?_, ?_⟩
  · intro earlier q reply later key hsplit hack hno
    have hlists := (ht.lists_of_acknowledged hread earlier later []
      (by rw [List.append_nil]; exact hsplit) hack hno).2
    rw [← hsplit, KeyLedger.lists_iff hledger] at hlists
    rwa [KeyLedger.lists_iff htext]
  · intro earlier q reply between q' reply' later raw hsplit hack hno hq'
    obtain ⟨hkey, hlists⟩ := ht.lists_of_acknowledged hread earlier between
      ((q', reply') :: later) (by simpa using hsplit) hack hno
    have hedit : q'.command.edit? (h.random (ledger h path
        (commands (earlier ++ (q, reply) :: between))).drawn) = some (.add raw) := by
      rw [hq']
      rfl
    have hcall := KeyLedger.call_add_of_lists (hread.after _) hkey hlists
    rw [ht.replies _ q' reply' later hsplit _ hedit]
    exact congrArg q'.command.reply hcall

/-- A host without tools and without a network, with one configuration file. -/
def loneHost : Host :=
  ⟨lone "port: 8317\n".toList, "/tmp".toList, 0, false,
    fun _ => ⟨[], false⟩, fun _ => .unreachable, fun _ => none, fun _ => [], 0, []⟩

/-- The options of a supervisor that is told the path of this file. -/
def loneOptions : SupervisorOptions :=
  ⟨⟨none, none, some lonePath⟩, ⟨none, none⟩, 10, []⟩

/-- A request for the key `k`. -/
def loneRequest : Request := ⟨0, .edit (.add " k ".toList)⟩

/-- The session on that host in which the request is served and the timer polls after it. -/
def loneSession : Session :=
  (start loneOptions true 100 loneHost).run [.send loneRequest, .serve, .wait 30, .timer]

theorem run_agrees_with_ledger_lone :
    loneSession.processed = [(loneRequest, .outcome (.added "added" "k".toList))] ∧
      KeyLedger.Lists ⟨lonePath⟩ loneSession.host.files "k".toList := by
  have hsel : Selects loneHost.files loneOptions.overrides loneOptions.roots lonePath
      "port: 8317\n".toList := selects_lone _
  have hpath : (loneOptions.resolve loneHost).configPath = some lonePath := by
    rw [SupervisorOptions.resolve, hsel.resolveIn]
    rfl
  obtain ⟨-, -, hreplies, hkeys, -⟩ :=
    run_agrees_with_ledger loneOptions true 100 loneHost lonePath hpath
    [.send loneRequest, .serve, .wait 30, .timer] (by simp [loneRequest])
  -- the supervisor is running when it looks at the request, so it does not reply that it has shut
  -- down
  have hphase : (start loneOptions true 100 loneHost).supervisor.phase ≠ .closed := by
    rw [show (start loneOptions true 100 loneHost).supervisor.phase = .running from rfl]
    decide
  obtain ⟨reply, hreply⟩ :
    ∃ reply, reply = ((start loneOptions true 100 loneHost).supervisor.handle
      (start loneOptions true 100 loneHost).host loneRequest.command).1 := ⟨_, rfl⟩
  have hopen : reply ≠ .closed := by
    rw [hreply, Supervisor.handle_eq_carryOut hphase, loneRequest, Supervisor.carryOut_edit]
    exact Supervisor.reply_finish_ne_closed _ _ _
  have hprocessed : loneSession.processed = [(loneRequest, reply)] := by
    have hserved : loneSession.served =
        (((start loneOptions true 100 loneHost).step (.send loneRequest)).step .serve).served := rfl
    have hmailbox : ((start loneOptions true 100 loneHost).step (.send loneRequest)).mailbox =
        [loneRequest] := rfl
    rw [step_serve hmailbox] at hserved
    have hfirst : loneSession.served = [(loneRequest, reply)] := by
      rw [hserved, hreply]
      rfl
    rw [processed, hfirst, List.filter_cons_of_pos (by simpa using hopen), List.filter_nil]
  have hanswer : ((⟨lonePath⟩ : KeyStore).call (.add " k ".toList) loneHost.files).1 =
      .ok (.added "k".toList) := by
    rw [KeyStore.answer_call (s := ⟨lonePath⟩) (configText?_eq_some_iff.1 hsel.text)]
    decide
  have hadded : reply = .outcome (.added "added" "k".toList) :=
    (hreplies [] loneRequest reply [] hprocessed _ rfl).trans
      (congrArg loneRequest.command.reply hanswer)
  rw [hadded] at hprocessed
  exact ⟨hprocessed, hkeys [] loneRequest _ [] _ hprocessed rfl List.not_mem_nil⟩

end Session
end ProxySteward
