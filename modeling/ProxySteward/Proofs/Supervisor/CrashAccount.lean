import ProxySteward.Proofs.Supervisor.CrashHistory
import ProxySteward.Proofs.Supervisor.Session

/-!
# The count of crashes

The supervisor publishes how often the proxy has crashed.  `Session.history` collects the marks that
a run leaves, as they follow from the requests that are served and from what the port lookup of the
host says at each poll, and `crashCount_run` says that the published count is the number of crashes
in that history.

A command may ask for a start or a stop before it polls, and all of them poll except for one that
pauses monitoring and one that shuts down (`Command.marks`).  Between commands, only the timer
polls.  The invariant of a run is `Accounts`: the watch recalls the history, the count is the number
of its crashes, and the time of the last crash is there if there was one.  It depends on four fields
of the supervisor, which only a poll and the two requests touch, so that it is enough to look at
these (`Accounts.poll`).

A poll adds at most one crash, and an event polls at most once, so a run has at most one crash more
than events (`crashCount_le_length`).
-/

namespace ProxySteward

open Text

/-- Whether the proxy is seen running on a host. -/
def SupervisorOptions.sees (o : SupervisorOptions) (h : Host) : Bool :=
  (Service.status h (o.resolve h)).running

/-- The marks that a command leaves if its poll sees the proxy run or not. -/
def Command.marks (running : Bool) : Command → List Mark
  | .start => [.start, .poll running]
  | .stop => [.stop, .poll running]
  | .setMonitoring false => []
  | .shutdown => []
  | _ => [.poll running]

namespace Supervisor

variable {s : Supervisor} {h : Host} {ms : List Mark}

/-! ## One supervisor -/

/-- The marks that a command leaves.  Its poll is the last thing it does to the host, so what the
poll saw is what the host shows afterwards. -/
def marks (s : Supervisor) (h : Host) (c : Command) : List Mark :=
  match s.phase with
  | .closed => []
  | _ => c.marks (s.options.sees (s.handle h c).2.2)

/-- The accounts of a supervisor after a history. -/
structure Accounts (ms : List Mark) (s : Supervisor) : Prop where
  watch : s.watch.Recalls ms
  crashCount : s.crashCount = Mark.crashes ms
  lastCrashAt : s.lastCrashAt.isSome = true ↔ 0 < s.crashCount
  running : s.service.running = (Mark.lastSeen? ms).getD false

theorem accounts_create (o : SupervisorOptions) (monitoring : Bool) (logCapacity : Nat) (h : Host) :
    Accounts [] (create o monitoring logCapacity h) :=
  ⟨CrashWatch.recalls_initial, rfl, by simp [create], rfl⟩

/-- The accounts depend on four fields only. -/
theorem Accounts.congr {s' : Supervisor} (ha : Accounts ms s) (hwatch : s'.watch = s.watch)
    (hcount : s'.crashCount = s.crashCount) (hlast : s'.lastCrashAt = s.lastCrashAt)
    (hservice : s'.service = s.service) : Accounts ms s' where
  watch := hwatch ▸ ha.watch
  crashCount := hcount.trans ha.crashCount
  lastCrashAt := by rw [hlast, hcount, ha.lastCrashAt]
  running := by rw [hservice, ha.running]

/-- **A request** to start or stop the proxy changes the watch only. -/
theorem Accounts.request {m : Mark} {w : CrashWatch} (ha : Accounts ms s) (hm : m.seen? = none)
    (hw : w.Recalls (ms ++ [m])) : Accounts (ms ++ [m]) { s with watch := w } where
  watch := hw
  crashCount := by
    have hne : m ≠ .poll false := by
      rintro rfl
      exact absurd hm (by decide)
    rw [Mark.crashes_concat_of_ne ms hne]
    exact ha.crashCount
  lastCrashAt := ha.lastCrashAt
  running := by
    rw [Mark.lastSeen?_concat_of_seen?_eq_none ms hm]
    exact ha.running

theorem Accounts.pollUsage (ha : Accounts ms s) (c : Connection) (h : Host) :
    Accounts ms (pollUsage c s h).1 := by
  unfold Supervisor.pollUsage
  split
  · dsimp only
    cases (UsageFetch.fetch h c.baseUrl c.managementKey).1 <;> exact ha.congr rfl rfl rfl rfl
  · exact ha

theorem Accounts.followLog (ha : Accounts ms s) (h : Host) : Accounts ms (followLog h s) := by
  unfold Supervisor.followLog
  split
  · exact ha.congr rfl rfl rfl rfl
  · exact ha

/-- **A look at the proxy** is one more poll of the history. -/
theorem Accounts.learnService (ha : Accounts ms s) (status : ServiceStatus) (now : Nat) :
    Accounts (ms ++ [.poll status.running]) (learnService status now s) := by
  have hwatch := ha.watch.observe status.running
  have hcrash := ha.watch.reveals_iff status.running
  have hrunning : status.running = (Mark.lastSeen? (ms ++ [.poll status.running])).getD false := by
    rw [Mark.lastSeen?_concat_poll]
    rfl
  unfold Supervisor.learnService
  dsimp only
  split
  · next hreveals =>
    refine ⟨hwatch, ?_, by simp, hrunning⟩
    rw [Mark.crashes_concat, if_pos (hcrash.1 hreveals), ← ha.crashCount]
  · next hreveals =>
    refine ⟨hwatch, ?_, ha.lastCrashAt, hrunning⟩
    rw [Mark.crashes_concat, if_neg (mt hcrash.2 hreveals), ← ha.crashCount, Nat.add_zero]

/-- **A poll** is one of the history. -/
theorem Accounts.poll (ha : Accounts ms s) (h : Host) :
    Accounts (ms ++ [.poll (s.options.sees (s.poll h).2)]) (s.poll h).1 := by
  -- a poll sends requests only, so it ends with the connection it began with
  have hresolve : s.options.resolve (s.poll h).2 = s.options.resolve h := by
    rw [SupervisorOptions.resolve, SupervisorOptions.resolve, (poll_undisturbed s h).files]
  have hbegun : Accounts ms s.beginPoll := ha.congr rfl rfl rfl rfl
  have husage := hbegun.pollUsage (s.options.resolve h) h
  rw [SupervisorOptions.sees, hresolve]
  unfold Supervisor.poll
  dsimp only
  generalize s.options.resolve h = c at husage ⊢
  generalize Supervisor.pollUsage c s.beginPoll h = polled at husage ⊢
  have hknown : Accounts ms { polled.1 with
      keys := learnKeys polled.1.keys (loadKeys polled.2.files c.configPath), connection := c } :=
    husage.congr rfl rfl rfl rfl
  have hseen := (hknown.learnService (Service.status polled.2 c) polled.2.clock).followLog polled.2
  exact hseen.congr rfl rfl rfl rfl

/-! ## Commands -/

theorem Accounts.finish (ha : Accounts ms s) (h : Host) (r : Except ActionFault Outcome) :
    Accounts (ms ++ [.poll (s.options.sees (s.finish h r).2.2)]) (s.finish h r).2.1 := by
  cases r with
  | ok o =>
    have hsaid : Accounts ms { s with actionMessage := some o.message } := ha.congr rfl rfl rfl rfl
    exact hsaid.poll h
  | error f =>
    have hsaid : Accounts ms { s with actionMessage := some f.message } := ha.congr rfl rfl rfl rfl
    exact hsaid.poll h

theorem Accounts.carryOut (ha : Accounts ms s) (h : Host) (c : Command) :
    Accounts (ms ++ c.marks (s.options.sees (s.carryOut h c).2.2)) (s.carryOut h c).2.1 := by
  cases c with
  | edit e => exact ha.finish _ _
  | generate => exact ha.finish _ _
  | start =>
    have hasked := ha.request rfl ha.watch.requestStart
    have hdone := hasked.finish (Service.start h (s.options.resolve h)).2
      (startResult (Service.start h (s.options.resolve h)).1)
    rw [List.append_assoc] at hdone
    exact hdone
  | stop =>
    have hasked := ha.request rfl ha.watch.requestStop
    have hdone := hasked.finish (Service.stop h (s.options.resolve h)) (.ok .ofStop)
    rw [List.append_assoc] at hdone
    exact hdone
  | refresh => exact ha.poll h
  | setMonitoring on =>
    cases on with
    | true =>
      have hon : Accounts ms { s with monitoring := true } := ha.congr rfl rfl rfl rfl
      exact (hon.poll h).congr rfl rfl rfl rfl
    | false =>
      rw [Command.marks, List.append_nil]
      exact ha.congr rfl rfl rfl rfl
  | shutdown =>
    rw [Command.marks, List.append_nil]
    exact ha.congr rfl rfl rfl rfl

/-- **Every command** leaves its marks in the history. -/
theorem Accounts.handle (ha : Accounts ms s) (h : Host) (c : Command) :
    Accounts (ms ++ s.marks h c) (s.handle h c).2.1 := by
  by_cases hphase : s.phase = .closed
  · rw [handle_of_closed hphase, marks, hphase, List.append_nil]
    exact ha
  · have hmarks : s.marks h c = c.marks (s.options.sees (s.carryOut h c).2.2) := by
      rw [marks, handle_eq_carryOut hphase]
      split
      · next hclosed => exact absurd hclosed hphase
      · rfl
    rw [hmarks, handle_eq_carryOut hphase]
    exact ha.carryOut h c

end Supervisor

/-! ## Runs -/

namespace Session

open Supervisor

variable {s : Session} {ms : List Mark}

/-- The marks that an event leaves. -/
def marks (s : Session) : Event → List Mark
  | .serve => match s.mailbox with
    | [] => []
    | q :: _ => s.supervisor.marks s.host q.command
  | .timer =>
    if s.supervisor.isDue s.host then
      [.poll (s.supervisor.options.sees (s.step .timer).host)]
    else []
  | _ => []

/-- The marks that some events leave, one after another. -/
def marksOf (s : Session) : List Event → List Mark
  | [] => []
  | event :: events => s.marks event ++ (s.step event).marksOf events

/-- The history of a run: the first poll, and what the events leave. -/
def history (o : SupervisorOptions) (monitoring : Bool) (logCapacity : Nat) (h : Host)
    (events : List Event) : List Mark :=
  let s := start o monitoring logCapacity h
  .poll (o.sees s.host) :: s.marksOf events

theorem marksOf_append (s : Session) (xs ys : List Event) :
    s.marksOf (xs ++ ys) = s.marksOf xs ++ (s.run xs).marksOf ys := by
  induction xs generalizing s with
  | nil => rfl
  | cons x xs ih =>
    rw [List.cons_append, marksOf, marksOf, ih, List.append_assoc]
    rfl

/-- **Every event** leaves its marks in the history. -/
theorem accounts_step (ha : Accounts ms s.supervisor) (event : Event) :
    Accounts (ms ++ s.marks event) (s.step event).supervisor := by
  cases event with
  | serve =>
    cases hmailbox : s.mailbox with
    | nil => simpa [marks, step, hmailbox] using ha
    | cons q rest =>
      rw [step_serve hmailbox, marks, hmailbox]
      exact ha.handle s.host q.command
  | timer =>
    rw [marks]
    by_cases hdue : s.supervisor.isDue s.host = true
    · have hwound : Accounts ms (s.supervisor.restartTimer s.host) := ha.congr rfl rfl rfl rfl
      have hfired : s.supervisor.fireTimer s.host =
          (true, (s.supervisor.restartTimer s.host).poll s.host) := by
        rw [fireTimer, if_pos hdue]
      rw [if_pos hdue, step, hfired]
      exact hwound.poll s.host
    · have hsame : s.supervisor.fireTimer s.host = (false, s.supervisor, s.host) := by
        rw [fireTimer, if_neg hdue]
      rw [if_neg hdue, List.append_nil, step, hsame]
      exact ha
  | log e =>
    rw [show s.marks (.log e) = [] from rfl, List.append_nil, step]
    unfold receive
    split
    · exact ha
    · exact ha.congr rfl rfl rfl rfl
  | _ => simpa only [marks, step, List.append_nil] using ha

theorem accounts_run (ha : Accounts ms s.supervisor) (events : List Event) :
    Accounts (ms ++ s.marksOf events) (s.run events).supervisor := by
  induction events generalizing s ms with
  | nil => rwa [marksOf, List.append_nil]
  | cons event events ih =>
    rw [marksOf, ← List.append_assoc]
    exact ih (accounts_step ha event)

theorem accounts_history (o : SupervisorOptions) (monitoring : Bool) (logCapacity : Nat) (h : Host)
    (events : List Event) :
    Accounts (history o monitoring logCapacity h events)
      ((start o monitoring logCapacity h).run events).supervisor := by
  have hfirst := (accounts_create o monitoring logCapacity h).poll h
  have hstart : Accounts [.poll (o.sees (start o monitoring logCapacity h).host)]
      (start o monitoring logCapacity h).supervisor := hfirst.congr rfl rfl rfl rfl
  exact accounts_run hstart events

/-- An event brings at most one poll that sees the proxy stopped. -/
theorem count_marks_le (s : Session) (event : Event) :
    (s.marks event).count (.poll false) ≤ 1 := by
  have hcommand : ∀ (c : Command) running, (c.marks running).count (.poll false) ≤ 1 := by
    intro c running
    cases c with
    | setMonitoring on => cases on <;> cases running <;> decide
    | _ => cases running <;> exact of_decide_eq_true rfl
  unfold marks Supervisor.marks
  split
  · split
    · exact Nat.zero_le 1
    · split
      · exact Nat.zero_le 1
      · exact hcommand _ _
  · split
    · exact List.count_le_length
    · exact Nat.zero_le 1
  · exact Nat.zero_le 1

theorem count_marksOf_le (s : Session) (events : List Event) :
    (s.marksOf events).count (.poll false) ≤ events.length := by
  induction events generalizing s with
  | nil => exact Nat.le_refl 0
  | cons event events ih =>
    have hone := count_marks_le s event
    have hrest := ih (s.step event)
    rw [marksOf, List.count_append, List.length_cons]
    omega

/-- **The count of crashes stays small**: every event of a run brings at most one, and so does the
first poll. -/
theorem crashCount_le_length (o : SupervisorOptions) (monitoring : Bool) (logCapacity : Nat)
    (h : Host) (events : List Event) :
    ((start o monitoring logCapacity h).run events).supervisor.snapshot.crashCount ≤
      events.length + 1 := by
  have ha := accounts_history o monitoring logCapacity h events
  have hmarks := count_marksOf_le (start o monitoring logCapacity h) events
  calc ((start o monitoring logCapacity h).run events).supervisor.snapshot.crashCount
      = Mark.crashes (history o monitoring logCapacity h events) := ha.crashCount
    _ ≤ (history o monitoring logCapacity h events).count (.poll false) := Mark.crashes_le_count _
    _ ≤ ((start o monitoring logCapacity h).marksOf events).count (.poll false) + 1 := by
      rw [history, List.count_cons]
      split <;> omega
    _ ≤ events.length + 1 := Nat.add_le_add_right hmarks 1

/-- **The count of crashes is exact.**  In every run of a supervisor the published count is the
number of crashes in the history of that run.

* No running phase is counted twice: between two crashes a poll saw the proxy running.
* A stop that was requested is not counted, however many polls see the proxy still running, unless a
  start is requested before a poll sees it stopped.
* The count never decreases, whatever happens next.
* The time of the last crash is there exactly if there was one.
* The published state of the proxy is what the last poll of the history saw. -/
theorem crashCount_run (o : SupervisorOptions) (monitoring : Bool) (logCapacity : Nat) (h : Host)
    (events : List Event) :
    let ms := history o monitoring logCapacity h events
    let published := fun events =>
      ((start o monitoring logCapacity h).run events).supervisor.snapshot
    (published events).crashCount = Mark.crashes ms ∧
    (∀ i j, i < j → Mark.IsCrash ms i → Mark.IsCrash ms j →
      ∃ k, i < k ∧ k < j ∧ ms[k]? = some (.poll true)) ∧
    (∀ i j, i < j → ms[i]? = some .stop →
      (∀ k, i < k → k < j → ms[k]? ≠ some .start ∧ ms[k]? ≠ some (.poll false)) →
      ¬ Mark.IsCrash ms j) ∧
    (∀ more, (published events).crashCount ≤ (published (events ++ more)).crashCount) ∧
    ((published events).lastCrashAt.isSome = true ↔ 0 < (published events).crashCount) ∧
    Mark.lastSeen? ms = some (published events).service.running := by
  intro ms published
  have ha := accounts_history o monitoring logCapacity h events
  refine ⟨ha.crashCount, fun i j => Mark.exists_running_between,
    fun i j => Mark.not_isCrash_of_stop, fun more => ?_, ha.lastCrashAt, ?_⟩
  · have hmore := accounts_history o monitoring logCapacity h (events ++ more)
    have hgrown : history o monitoring logCapacity h (events ++ more) =
        ms ++ ((start o monitoring logCapacity h).run events).marksOf more := by
      rw [history, marksOf_append]
      rfl
    rw [hgrown] at hmore
    show ((start o monitoring logCapacity h).run events).supervisor.crashCount ≤
      ((start o monitoring logCapacity h).run (events ++ more)).supervisor.crashCount
    rw [ha.crashCount, hmore.crashCount]
    exact Mark.crashes_le_append ms _
  · have hseen : Mark.lastSeen? ms ≠ none := by simp [ms, history, Mark.lastSeen?, Mark.seen?]
    obtain ⟨b, hb⟩ := Option.ne_none_iff_exists'.1 hseen
    have hrunning := ha.running
    rw [hb] at hrunning
    exact hb.trans (congrArg some hrunning.symm)

/-- The port lookups of a host on which a process listens, and of one on which none does. -/
def loneLookup (listens : Bool) : Nat → PortLookup :=
  fun _ => ⟨if listens then encode "7\n".toList else [], listens⟩

/-- Processes outside start or stop listening, and then a command is sent and served. -/
def loneEvents (listens : Bool) (c : Command) : List Event :=
  [.turn true (loneLookup listens) loneHost.network, .send ⟨0, c⟩, .serve]

/-- The proxy is seen running and then stopped, which is a crash.  It is started by hand and asked
to stop, which takes until the next poll, and is none. -/
theorem crashCount_run_lone :
    let events := loneEvents true .refresh ++ loneEvents false .refresh ++ loneEvents true .stop ++
      loneEvents false .refresh
    history loneOptions false 100 loneHost events =
        [.poll false, .poll true, .poll false, .stop, .poll true, .poll false] ∧
      ((start loneOptions false 100 loneHost).run events).supervisor.snapshot.crashCount = 1 := by
  intro events
  have hhistory : history loneOptions false 100 loneHost events =
      [.poll false, .poll true, .poll false, .stop, .poll true, .poll false] := by
    decide +kernel
  obtain ⟨hcount, -⟩ := crashCount_run loneOptions false 100 loneHost events
  rw [hhistory] at hcount
  exact ⟨hhistory, hcount.trans (by decide)⟩

end Session
end ProxySteward
