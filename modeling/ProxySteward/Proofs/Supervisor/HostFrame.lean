import ProxySteward.Proofs.Config.ConnectionFrame
import ProxySteward.Proofs.Supervisor.KeyLedger
import ProxySteward.Supervisor.Run

/-!
# What a command does to the host

A poll only looks: it sends requests, but it writes no file and uses no random bytes
(`poll_undisturbed`).  Besides polling, a command does one of three things to the files of the host:
an edit of the key list is the call of the store on the configuration file (`editKeys_eq`), a start
empties the log file (`start_logTouched`), and every other command leaves the files alone.
`handle_of_edit?` and `handle_of_edit?_eq_none` say this of the step that the supervisor takes for a
command.
-/

namespace ProxySteward

open Text

/-- A later state of a host with the same files and the same use of the random source. -/
structure Host.Undisturbed (h h' : Host) : Prop where
  files : h'.files = h.files
  temporaryDirectory : h'.temporaryDirectory = h.temporaryDirectory
  random : h'.random = h.random
  drawn : h'.drawn = h.drawn

theorem Host.Undisturbed.refl (h : Host) : Undisturbed h h := ⟨rfl, rfl, rfl, rfl⟩

theorem Host.Undisturbed.trans {h h' h'' : Host} (h₁ : Undisturbed h h')
    (h₂ : Undisturbed h' h'') : Undisturbed h h'' :=
  ⟨h₂.files.trans h₁.files, h₂.temporaryDirectory.trans h₁.temporaryDirectory,
    h₂.random.trans h₁.random, h₂.drawn.trans h₁.drawn⟩

/-- A later state of a host in which at most the log file is another one. -/
structure Host.LogTouched (h h' : Host) : Prop where
  temporaryDirectory : h'.temporaryDirectory = h.temporaryDirectory
  random : h'.random = h.random
  drawn : h'.drawn = h.drawn
  files : h'.files = h.files ∨ ∃ l mode, h.files.locate (Service.logFile h) = .ok l ∧
    h.files.node? l ≠ some .directory ∧ h'.files = h.files.put l (.file [] mode)

theorem Host.Undisturbed.logTouched {h h' : Host} (hu : Undisturbed h h') : LogTouched h h' :=
  ⟨hu.temporaryDirectory, hu.random, hu.drawn, Or.inl hu.files⟩

theorem Host.LogTouched.trans {h h' h'' : Host} (h₁ : LogTouched h h')
    (h₂ : Undisturbed h' h'') : LogTouched h h'' :=
  ⟨h₂.temporaryDirectory.trans h₁.temporaryDirectory, h₂.random.trans h₁.random,
    h₂.drawn.trans h₁.drawn, by rw [h₂.files]; exact h₁.files⟩

namespace Supervisor

open FileTree Connection

variable {s : Supervisor} {h : Host} {path : Path} {doc : Text}

/-! ## Polls -/

theorem fetch_undisturbed (h : Host) (baseUrl managementKey : Text) :
    Host.Undisturbed h (UsageFetch.fetch h baseUrl managementKey).2 := by
  unfold UsageFetch.fetch
  split <;> exact ⟨rfl, rfl, rfl, rfl⟩

theorem pollUsage_undisturbed (c : Connection) (s : Supervisor) (h : Host) :
    Host.Undisturbed h (pollUsage c s h).2 := by
  unfold pollUsage
  split
  · exact fetch_undisturbed h _ _
  · exact .refl h

theorem poll_undisturbed (s : Supervisor) (h : Host) : Host.Undisturbed h (s.poll h).2 :=
  pollUsage_undisturbed _ _ h

theorem options_learnUsage (key : Text) (s : Supervisor) (r : Except UsageFault UsageSummary) :
    (learnUsage key s r).options = s.options := by
  cases r <;> rfl

theorem options_pollUsage (c : Connection) (s : Supervisor) (h : Host) :
    (pollUsage c s h).1.options = s.options := by
  unfold pollUsage
  split
  · exact options_learnUsage _ s _
  · rfl

theorem options_learnService (status : ServiceStatus) (now : Nat) (s : Supervisor) :
    (learnService status now s).options = s.options := by
  unfold learnService
  split <;> rfl

theorem options_followLog (h : Host) (s : Supervisor) : (followLog h s).options = s.options := by
  unfold followLog
  split <;> rfl

theorem options_poll (s : Supervisor) (h : Host) : (s.poll h).1.options = s.options := by
  unfold poll
  dsimp only
  rw [options_followLog, options_learnService]
  exact options_pollUsage _ _ h

/-! ## Actions -/

theorem options_finish (s : Supervisor) (h : Host) (r : Except ActionFault Outcome) :
    (s.finish h r).2.1.options = s.options := by
  cases r <;> exact options_poll _ h

theorem finish_undisturbed (s : Supervisor) (h : Host) (r : Except ActionFault Outcome) :
    Host.Undisturbed h (s.finish h r).2.2 := by
  cases r <;> exact poll_undisturbed _ h

/-- The edit of the supervisor is the call of the store on the selected file. -/
theorem editKeys_eq (hsel : Selects h.files s.options.overrides s.options.roots path doc)
    (e : KeyEdit) :
    s.editKeys h e = (((⟨path⟩ : KeyStore).call e h.files).1,
      { h with files := ((⟨path⟩ : KeyStore).call e h.files).2 }) := by
  have hpath : (s.options.resolve h).configPath = some path := hsel.configPath_resolveIn
  obtain ⟨l, content, mode, hdoc⟩ := hsel.exists_holdsText
  unfold editKeys KeyStore.open? KeyStore.call
  rw [hpath]
  simp only [hdoc.isFile, if_true]
  cases (⟨path⟩ : KeyStore).edit e h.files <;> rfl

theorem editKeys_of_configPath_eq_none (hnone : (s.options.resolve h).configPath = none)
    (e : KeyEdit) : s.editKeys h e = (.error .configNotFound, h) := by
  unfold editKeys KeyStore.open?
  rw [hnone]

theorem launch_logTouched (h : Host) (program config : Path) :
    Host.LogTouched h (Service.launch h program config).2 := by
  unfold Service.launch
  cases hwrite : h.files.write (Service.logFile h) [] with
  | error f => exact (Host.Undisturbed.refl h).logTouched
  | ok files =>
    obtain ⟨l, mode, hl, hnode, hput⟩ := exists_put_of_write hwrite
    dsimp only
    split <;> exact ⟨rfl, rfl, rfl, Or.inr ⟨l, mode, hl, hnode, hput⟩⟩

/-- A start leaves the files alone or puts an empty file where the log file belongs. -/
theorem start_logTouched (h : Host) (c : Connection) :
    Host.LogTouched h (Service.start h c).2 := by
  unfold Service.start
  split
  · exact (Host.Undisturbed.refl h).logTouched
  · next program config _ =>
    have hlaunch := launch_logTouched h program config
    split
    · next hl =>
      rw [hl] at hlaunch
      exact hlaunch
    · next launched hl =>
      rw [hl] at hlaunch
      exact hlaunch.trans ⟨rfl, rfl, rfl, rfl⟩

theorem stop_undisturbed (h : Host) (c : Connection) : Host.Undisturbed h (Service.stop h c) := by
  have hlistener : Host.Undisturbed h (Service.terminateListener h c.port) := by
    unfold Service.terminateListener
    split
    · split <;> exact ⟨rfl, rfl, rfl, rfl⟩
    · exact .refl h
  refine hlistener.trans ?_
  unfold Service.stop Service.terminateMatching
  split
  · split <;> exact ⟨rfl, rfl, rfl, rfl⟩
  · exact .refl _

/-! ## Commands -/

theorem handle_of_closed (hphase : s.phase = .closed) (c : Command) :
    s.handle h c = (.closed, s, h) := by
  unfold handle
  rw [hphase]

theorem handle_eq_carryOut (hphase : s.phase ≠ .closed) (c : Command) :
    s.handle h c = s.carryOut h c := by
  unfold handle
  split
  · next hclosed => exact absurd hclosed hphase
  · rfl

/-- The reply that `finish` sends is the one the command has for the answer of the store. -/
theorem reply_finish (s : Supervisor) (h : Host) (outcome : KeyAnswer → Outcome)
    (answer : Except KeyFault KeyAnswer) :
    (s.finish h (editResult outcome answer)).1 = match answer with
      | .ok a => .outcome (outcome a)
      | .error f => .fault (.keys f) := by
  cases answer <;> rfl

theorem reply_finish_ne_closed (s : Supervisor) (h : Host) (r : Except ActionFault Outcome) :
    (s.finish h r).1 ≠ .closed := by
  cases r <;> simp [finish]

theorem carryOut_edit (s : Supervisor) (h : Host) (e : KeyEdit) :
    s.carryOut h (.edit e) =
      s.finish (s.editKeys h e).2 (editResult (Outcome.ofEdit e) (s.editKeys h e).1) := rfl

theorem carryOut_generate (s : Supervisor) (h : Host) :
    s.carryOut h .generate =
      let result := s.editKeys { h with drawn := h.drawn + 1 }
        (.add (KeyRecord.generatedKey (h.random h.drawn)))
      s.finish result.2 (editResult Outcome.ofGenerated result.1) := rfl

theorem carryOut_start (s : Supervisor) (h : Host) :
    s.carryOut h .start =
      { s with watch := s.watch.requestStart }.finish (Service.start h (s.options.resolve h)).2
        (startResult (Service.start h (s.options.resolve h)).1) := rfl

theorem carryOut_stop (s : Supervisor) (h : Host) :
    s.carryOut h .stop =
      { s with watch := s.watch.requestStop }.finish (Service.stop h (s.options.resolve h))
        (.ok .ofStop) := rfl

theorem carryOut_refresh (s : Supervisor) (h : Host) :
    s.carryOut h .refresh = (.acknowledged, s.poll h) := rfl

theorem carryOut_setMonitoring_true (s : Supervisor) (h : Host) :
    s.carryOut h (.setMonitoring true) =
      (.acknowledged, restartTimer ({ s with monitoring := true }.poll h).2
        ({ s with monitoring := true }.poll h).1, ({ s with monitoring := true }.poll h).2) := rfl

/-- **A command of the key list** is the call of the store on the selected file, and its reply is
the answer of the store. -/
theorem handle_of_edit? (hphase : s.phase ≠ .closed)
    (hsel : Selects h.files s.options.overrides s.options.roots path doc) {c : Command}
    {e : KeyEdit} (hc : c.edit? (h.random h.drawn) = some e) :
    (s.handle h c).1 = c.reply ((⟨path⟩ : KeyStore).call e h.files).1 ∧
    (s.handle h c).2.1.options = s.options ∧
    Host.Undisturbed
      { h with files := ((⟨path⟩ : KeyStore).call e h.files).2, drawn := h.drawn + c.draws }
      (s.handle h c).2.2 := by
  rw [handle_eq_carryOut hphase]
  cases c with
  | edit e' =>
    obtain rfl : e' = e := Option.some.inj hc
    rw [carryOut_edit, editKeys_eq hsel]
    refine ⟨?_, options_finish _ _ _, finish_undisturbed _ _ _⟩
    rw [reply_finish]
    cases ((⟨path⟩ : KeyStore).call e' h.files).1 <;> rfl
  | generate =>
    obtain rfl : KeyEdit.add (KeyRecord.generatedKey (h.random h.drawn)) = e := Option.some.inj hc
    rw [carryOut_generate, editKeys_eq (h := { h with drawn := h.drawn + 1 }) hsel]
    refine ⟨?_, options_finish _ _ _, finish_undisturbed _ _ _⟩
    rw [reply_finish]
    cases ((⟨path⟩ : KeyStore).call _ h.files).1 <;> rfl
  | _ => exact absurd hc (by simp [Command.edit?])

/-- The reply to a command of the key list by the text of the selected file. -/
theorem reply_handle_of_edit? (hphase : s.phase ≠ .closed)
    (hsel : Selects h.files s.options.overrides s.options.roots path doc) {c : Command}
    {e : KeyEdit} (hc : c.edit? (h.random h.drawn) = some e) :
    (s.handle h c).1 = c.reply ((KeyStore.editDocument e doc).map Prod.fst) := by
  obtain ⟨hreply, -⟩ := handle_of_edit? hphase hsel hc
  have hread : h.files.readText (⟨path⟩ : KeyStore).path = .ok doc :=
    configText?_eq_some_iff.1 hsel.text
  rw [hreply, KeyStore.answer_call hread]

/-- A command of the key list leaves the selected file the selected one, with the edited text. -/
theorem selects_handle_of_edit? (hphase : s.phase ≠ .closed)
    (hsel : Selects h.files s.options.overrides s.options.roots path doc) {c : Command}
    {e : KeyEdit} (hc : c.edit? (h.random h.drawn) = some e) :
    Selects (s.handle h c).2.2.files s.options.overrides s.options.roots path
      (KeyStore.textAfter e doc) := by
  obtain ⟨-, -, hhost⟩ := handle_of_edit? hphase hsel hc
  rw [hhost.files]
  exact hsel.call rfl e

/-- Without a configuration file a command of the key list fails and leaves the files alone. -/
theorem handle_of_configPath_eq_none (hphase : s.phase ≠ .closed)
    (hnone : (s.options.resolve h).configPath = none) {c : Command} {e : KeyEdit}
    (hc : c.edit? (h.random h.drawn) = some e) :
    (s.handle h c).1 = .fault (.keys .configNotFound) ∧ (s.handle h c).2.2.files = h.files := by
  rw [handle_eq_carryOut hphase]
  cases c with
  | edit e' =>
    rw [carryOut_edit, editKeys_of_configPath_eq_none hnone]
    exact ⟨rfl, (finish_undisturbed _ _ _).files⟩
  | generate =>
    have hdrawn : (s.options.resolve { h with drawn := h.drawn + 1 }).configPath = none := hnone
    rw [carryOut_generate, editKeys_of_configPath_eq_none hdrawn]
    exact ⟨rfl, (finish_undisturbed _ _ _).files⟩
  | _ => exact absurd hc (by simp [Command.edit?])

/-- **Any other command** leaves the files alone, except that a start empties the log file. -/
theorem handle_of_edit?_eq_none (hphase : s.phase ≠ .closed) {c : Command}
    (hc : c.edit? (h.random h.drawn) = none) :
    (s.handle h c).1 ≠ .closed ∧ (s.handle h c).2.1.options = s.options ∧
    (Host.Undisturbed h (s.handle h c).2.2 ∨ c = .start ∧
      Host.LogTouched h (s.handle h c).2.2) := by
  rw [handle_eq_carryOut hphase]
  cases c with
  | edit e => exact absurd hc (by simp [Command.edit?])
  | generate => exact absurd hc (by simp [Command.edit?])
  | start =>
    rw [carryOut_start]
    exact ⟨reply_finish_ne_closed _ _ _, options_finish _ _ _,
      Or.inr ⟨rfl, (start_logTouched h _).trans (finish_undisturbed _ _ _)⟩⟩
  | stop =>
    rw [carryOut_stop]
    exact ⟨reply_finish_ne_closed _ _ _, options_finish _ _ _,
      Or.inl ((stop_undisturbed h _).trans (finish_undisturbed _ _ _))⟩
  | refresh =>
    rw [carryOut_refresh]
    exact ⟨by simp, options_poll s h, Or.inl (poll_undisturbed s h)⟩
  | setMonitoring on =>
    cases on with
    | true =>
      have hoptions := options_poll { s with monitoring := true } h
      have hpoll := poll_undisturbed { s with monitoring := true } h
      rw [carryOut_setMonitoring_true]
      exact ⟨by simp, hoptions, Or.inl hpoll⟩
    | false => exact ⟨by simp [carryOut], rfl, Or.inl (.refl h)⟩
  | shutdown => exact ⟨by simp [carryOut], rfl, Or.inl (.refl h)⟩

theorem editKeys_random (s : Supervisor) (h : Host) (e : KeyEdit) :
    (s.editKeys h e).2.random = h.random ∧ (s.editKeys h e).2.drawn = h.drawn := by
  unfold editKeys
  split
  · exact ⟨rfl, rfl⟩
  · split <;> exact ⟨rfl, rfl⟩

/-- No command makes another random source of the one that is there, or takes a use of it back. -/
theorem handle_random (s : Supervisor) (h : Host) (c : Command) :
    (s.handle h c).2.2.random = h.random ∧ h.drawn ≤ (s.handle h c).2.2.drawn := by
  by_cases hphase : s.phase = .closed
  · rw [handle_of_closed hphase]
    exact ⟨rfl, le_rfl⟩
  cases hc : c.edit? (h.random h.drawn) with
  | none =>
    obtain ⟨-, -, hu | ⟨-, ht⟩⟩ := handle_of_edit?_eq_none hphase hc
    · exact ⟨hu.random, hu.drawn.ge⟩
    · exact ⟨ht.random, ht.drawn.ge⟩
  | some e =>
    rw [handle_eq_carryOut hphase]
    cases c with
    | edit e' =>
      obtain ⟨hrandom, hdrawn⟩ := editKeys_random s h e'
      have hu := finish_undisturbed s (s.editKeys h e').2
        (editResult (Outcome.ofEdit e') (s.editKeys h e').1)
      exact ⟨hu.random.trans hrandom, (hu.drawn.trans hdrawn).ge⟩
    | generate =>
      obtain ⟨hrandom, hdrawn⟩ :=
        editKeys_random s h.draw.2 (.add (KeyRecord.generatedKey h.draw.1))
      have hu :=
        finish_undisturbed s (s.editKeys h.draw.2 (.add (KeyRecord.generatedKey h.draw.1))).2
          (editResult Outcome.ofGenerated
            (s.editKeys h.draw.2 (.add (KeyRecord.generatedKey h.draw.1))).1)
      exact ⟨hu.random.trans hrandom, (Nat.le_succ _).trans (hu.drawn.trans hdrawn).ge⟩
    | _ => exact absurd hc (by simp [Command.edit?])

/-! ## Between commands -/

theorem begin_undisturbed (s : Supervisor) (h : Host) : Host.Undisturbed h (s.begin h).2 := by
  unfold begin
  split
  · exact poll_undisturbed s h
  · exact .refl h

theorem options_begin (s : Supervisor) (h : Host) : (s.begin h).1.options = s.options := by
  unfold begin
  split
  · exact options_poll s h
  · rfl

theorem fireTimer_undisturbed (s : Supervisor) (h : Host) :
    Host.Undisturbed h (s.fireTimer h).2.2 := by
  unfold fireTimer
  split
  · exact poll_undisturbed (s.restartTimer h) h
  · exact .refl h

theorem options_fireTimer (s : Supervisor) (h : Host) :
    (s.fireTimer h).2.1.options = s.options := by
  unfold fireTimer
  split
  · exact options_poll (s.restartTimer h) h
  · rfl

theorem options_receive (s : Supervisor) (e : LogEntry) : (s.receive e).options = s.options := by
  unfold receive
  split <;> rfl

end Supervisor
end ProxySteward
