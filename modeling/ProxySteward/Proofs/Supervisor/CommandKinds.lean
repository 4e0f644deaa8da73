import ProxySteward.Proofs.Supervisor.HostFrame

/-!
# The ways to handle a command

Seven commands are handled in six ways.  `Handling` lists them with the state that each leaves
behind, and `handling_handle` says that there are no others.  A law of all commands is then a look
at these six, and only at what it is about: edits, starts and stops differ in what they do to the
host and agree in everything after that.
-/

namespace ProxySteward

open Text

/-! ## Time -/

namespace Service

theorem clock_launch (h : Host) (program config : Path) :
    (launch h program config).2.clock = h.clock := by
  unfold launch
  split
  · rfl
  · dsimp only
    split <;> rfl

/-- A start waits for the proxy that it launched. -/
theorem le_clock_start (h : Host) (c : Connection) : h.clock ≤ (start h c).2.clock := by
  unfold start
  split
  · exact Nat.le_refl _
  · next program config _ =>
    have hlaunch := clock_launch h program config
    split
    · next hl =>
      rw [hl] at hlaunch
      exact hlaunch.ge
    · next launched hl =>
      rw [hl] at hlaunch
      exact hlaunch.ge.trans (Nat.le_add_right _ _)

theorem clock_stop (h : Host) (c : Connection) : (stop h c).clock = h.clock := by
  have hlistener : (terminateListener h c.port).clock = h.clock := by
    unfold terminateListener
    split
    · split <;> rfl
    · rfl
  rw [← hlistener, stop]
  unfold terminateMatching
  split
  · split <;> rfl
  · rfl

end Service

/-- Whether a command is one to act on the key list or on the proxy. -/
def Command.isAction : Command → Bool
  | .edit _ | .generate | .start | .stop => true
  | .refresh | .setMonitoring _ | .shutdown => false

namespace Supervisor

theorem clock_editKeys (s : Supervisor) (h : Host) (e : KeyEdit) :
    (s.editKeys h e).2.clock = h.clock := by
  unfold editKeys
  split
  · rfl
  · split <;> rfl

/-! ## Commands -/

/-- The ways in which a supervisor handles a command on a host, with the reply and what it leaves
behind.  An action works on the host, for some time, and may tell the watch over crashes what it
asked for; then its result is reported. -/
inductive Handling (s : Supervisor) (h : Host) :
    Command → Reply × Supervisor × Host → Prop where
  | late (c : Command) (hphase : s.phase = .closed) : Handling s h c (.closed, s, h)
  | action (c : Command) (hphase : s.phase ≠ .closed) (hc : c.isAction = true)
      (watch : CrashWatch) (acted : Host) (result : Except ActionFault Outcome)
      (hclock : h.clock ≤ acted.clock) :
      Handling s h c ({ s with watch := watch }.finish acted result)
  | refresh (hphase : s.phase ≠ .closed) : Handling s h .refresh (.acknowledged, s.poll h)
  | resume (hphase : s.phase ≠ .closed) :
      Handling s h (.setMonitoring true)
        (.acknowledged,
          restartTimer ({ s with monitoring := true }.poll h).2
            ({ s with monitoring := true }.poll h).1,
          ({ s with monitoring := true }.poll h).2)
  | pause (hphase : s.phase ≠ .closed) :
      Handling s h (.setMonitoring false) (.acknowledged, { s with monitoring := false }, h)
  | shutdown (hphase : s.phase ≠ .closed) :
      Handling s h .shutdown (.acknowledged,
        { s with phase := .closed, follower := s.follower.stop }, h)

/-- **Every command** is handled in one of these ways. -/
theorem handling_handle (s : Supervisor) (h : Host) (c : Command) :
    Handling s h c (s.handle h c) := by
  by_cases hphase : s.phase = .closed
  · rw [handle_of_closed hphase]
    exact .late c hphase
  · rw [handle_eq_carryOut hphase]
    cases c with
    | edit e => exact .action (.edit e) hphase rfl s.watch _ _ (clock_editKeys s h e).ge
    | generate => exact .action .generate hphase rfl s.watch _ _ (clock_editKeys s h.draw.2 _).ge
    | start => exact .action .start hphase rfl s.watch.requestStart _ _ (Service.le_clock_start h _)
    | stop =>
      rw [carryOut_stop]
      exact .action .stop hphase rfl s.watch.requestStop _ _ (Service.clock_stop h _).ge
    | refresh => exact .refresh hphase
    | setMonitoring on =>
      cases on with
      | true => exact .resume hphase
      | false => exact .pause hphase
    | shutdown => exact .shutdown hphase

end Supervisor
end ProxySteward
