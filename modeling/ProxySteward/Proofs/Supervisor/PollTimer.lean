import ProxySteward.Proofs.Supervisor.ActionReports
import ProxySteward.Proofs.Supervisor.CommandKinds
import ProxySteward.Proofs.Supervisor.Shutdown

/-!
# When the timer polls

The timer counts from three kinds of moments: the end of the first poll, its own last poll, and the
end of the last command that turned monitoring on.  `Session.timerHistory` lists these moments for a
run.  Its deadline is the last of them and one interval (`Counts`), so the timer polls exactly if
monitoring is on and a whole interval has passed since every one of them (`timer_run`).  From this
the distances follow: no poll of the timer comes sooner than one interval after any earlier moment
of the list.

While monitoring is paused the deadline stays where it is and passes; what keeps the timer from
polling at once when monitoring is turned on again is that the command sets the deadline anew.

## Polls that take time

The clock of a session moves at occurrences of its own, and while a start waits for the proxy.  A
command that takes `n` seconds is `wait n` and then the serving of the command, because the deadline
is set at its end.  A poll of the timer that takes `n` seconds is the firing and then `wait n`,
because the deadline is set at its beginning.  The first poll may end at any time of the clock.  So
the runs of a session include all those in which polls and commands take time.
-/

namespace ProxySteward

open Text

/-- What a command asks of monitoring. -/
def Command.monitoring? : Command → Option Bool
  | .setMonitoring on => some on
  | _ => none

theorem Command.monitoring?_of_isAction {c : Command} (hc : c.isAction = true) :
    c.monitoring? = none := by
  cases c with
  | setMonitoring on => exact absurd hc Bool.false_ne_true
  | _ => rfl

namespace Supervisor

variable {s : Supervisor} {c : Command}

/-! ## Commands -/

theorem deadline_poll (s : Supervisor) (h : Host) : (s.poll h).1.deadline = s.deadline :=
  congrArg Notice.deadline (notice_poll s h)

theorem clock_poll (s : Supervisor) (h : Host) : (s.poll h).2.clock = h.clock :=
  (poll_sameWorld s h s.options).1.clock

theorem deadline_finish (s : Supervisor) (h : Host) (r : Except ActionFault Outcome) :
    (s.finish h r).2.1.deadline = s.deadline := by
  rw [show (s.finish h r).2.1.deadline = (s.finish h r).2.1.notice.deadline from rfl, notice_finish]
  rfl

theorem monitoring_finish (s : Supervisor) (h : Host) (r : Except ActionFault Outcome) :
    (s.finish h r).2.1.monitoring = s.monitoring := by
  cases r <;> exact (poll_isKept _ h).monitoring

theorem clock_finish (s : Supervisor) (h : Host) (r : Except ActionFault Outcome) :
    (s.finish h r).2.2.clock = h.clock :=
  (finish_sameWorld s h r s.options).1.clock

/-- **Only turning monitoring on** sets the deadline. -/
theorem deadline_handle (s : Supervisor) (h : Host) (hc : c ≠ .setMonitoring true) :
    (s.handle h c).2.1.deadline = s.deadline := by
  have hkind := s.handling_handle h c
  generalize s.handle h c = result at hkind ⊢
  cases hkind with
  | late => rfl
  | action c hphase haction watch acted result =>
    exact deadline_finish { s with watch := watch } acted result
  | refresh => exact deadline_poll s h
  | resume => exact absurd rfl hc
  | pause => rfl
  | shutdown => rfl

/-- A supervisor that turned monitoring on counts a whole interval from the end of the command. -/
theorem deadline_handle_setMonitoring_true (hphase : s.phase ≠ .closed) (h : Host) :
    (s.handle h (.setMonitoring true)).2.1.deadline =
      (s.handle h (.setMonitoring true)).2.2.clock + s.options.interval := by
  have hoptions := options_poll { s with monitoring := true } h
  rw [handle_eq_carryOut hphase, carryOut_setMonitoring_true]
  dsimp only [restartTimer]
  rw [hoptions]

/-- Monitoring is on or off as the last command that was carried out says. -/
theorem monitoring_handle (hphase : s.phase ≠ .closed) (h : Host) (c : Command) :
    (s.handle h c).2.1.monitoring = c.monitoring?.getD s.monitoring := by
  have hkind := s.handling_handle h c
  generalize s.handle h c = result at hkind ⊢
  cases hkind with
  | late c hclosed => exact absurd hclosed hphase
  | action c hphase haction watch acted result =>
    rw [Command.monitoring?_of_isAction haction]
    exact monitoring_finish { s with watch := watch } acted result
  | refresh => exact (poll_isKept s h).monitoring
  | resume => exact (poll_isKept { s with monitoring := true } h).monitoring
  | pause => rfl
  | shutdown => rfl

/-- No command turns the clock back. -/
theorem le_clock_handle (s : Supervisor) (h : Host) (c : Command) :
    h.clock ≤ (s.handle h c).2.2.clock := by
  have hkind := s.handling_handle h c
  generalize s.handle h c = result at hkind ⊢
  cases hkind with
  | late => exact Nat.le_refl _
  | action c hphase haction watch acted result hclock =>
    rwa [clock_finish]
  | refresh => exact (clock_poll s h).ge
  | resume => exact (clock_poll { s with monitoring := true } h).ge
  | pause => exact Nat.le_refl _
  | shutdown => exact Nat.le_refl _

theorem phase_handle_ne_starting (hphase : s.phase ≠ .starting) (h : Host) (c : Command) :
    (s.handle h c).2.1.phase ≠ .starting := by
  have hkind := s.handling_handle h c
  generalize s.handle h c = result at hkind ⊢
  cases hkind with
  | late => exact hphase
  | action c hopen haction watch acted result =>
    rwa [phase_finish { s with watch := watch } acted result]
  | refresh => rwa [(poll_isKept s h).phase]
  | resume => exact (poll_isKept { s with monitoring := true } h).phase.trans_ne hphase
  | pause => exact hphase
  | shutdown => exact Phase.noConfusion

/-! ## The timer -/

theorem isDue_iff (hphase : s.phase ≠ .starting) (h : Host) :
    s.isDue h = true ↔ s.phase ≠ .closed ∧ s.monitoring = true ∧
      s.deadline ≤ h.clock := by
  rw [isDue, Bool.and_eq_true, Bool.and_eq_true, beq_iff_eq, decide_eq_true_iff, and_assoc]
  cases hs : s.phase with
  | starting => exact absurd hs hphase
  | running => simp
  | closed => simp

theorem fireTimer_of_isDue {h : Host} (hdue : s.isDue h = true) :
    s.fireTimer h = (true, (s.restartTimer h).poll h) := if_pos hdue

theorem fireTimer_of_not_isDue {h : Host} (hdue : s.isDue h = false) :
    s.fireTimer h = (false, s, h) :=
  if_neg (by rw [hdue]; exact Bool.false_ne_true)

end Supervisor

/-! ## The moments from which the timer counts -/

/-- A moment from which the timer counts. -/
structure TimerMark where
  time : Nat
  /-- Whether the timer polled at that moment; if not, the first poll ended, or monitoring was
  turned on. -/
  fired : Bool
  deriving DecidableEq, Repr

namespace Session

open Supervisor

variable {s s' : Session} {ms : List TimerMark} {t : Nat} {fired : Bool}

/-- The moment that an occurrence brings: that at which a command to turn monitoring on ends, and
that at which the timer polls. -/
def timerMarks (s : Session) : Occurrence → List TimerMark
  | .event .serve => match s.mailbox with
    | [] => []
    | q :: _ =>
      if s.supervisor.phase ≠ .closed ∧ q.command = .setMonitoring true then
        [⟨(s.step .serve).host.clock, false⟩]
      else []
  | .event .timer => if s.polls (.event .timer) then [⟨s.host.clock, true⟩] else []
  | _ => []

/-- The moments that some occurrences bring, one after another. -/
def timerMarksOf (s : Session) : List Occurrence → List TimerMark
  | [] => []
  | x :: xs => s.timerMarks x ++ (s.occur x).timerMarksOf xs

/-- The moments of a run from which the timer counts: the end of the first poll, and what the
occurrences bring. -/
def timerHistory (o : SupervisorOptions) (monitoring : Bool) (logCapacity : Nat) (h : Host)
    (xs : List Occurrence) : List TimerMark :=
  let s := start o monitoring logCapacity h
  ⟨s.host.clock, false⟩ :: s.timerMarksOf xs

/-! ## Occurrences -/

/-- The first poll is made only once. -/
theorem phase_occur_ne_starting (hphase : s.supervisor.phase ≠ .starting) (x : Occurrence) :
    (s.occur x).supervisor.phase ≠ .starting := by
  cases x with
  | event e =>
    cases e with
    | serve =>
      cases hmailbox : s.mailbox with
      | nil => rwa [occur, step, hmailbox]
      | cons q rest =>
        rw [occur, step_serve hmailbox]
        exact phase_handle_ne_starting hphase s.host q.command
    | timer => rwa [occur, step, phase_fireTimer]
    | log entry => rwa [occur, step, phase_receive]
    | _ => exact hphase
  | change files => exact hphase

/-- Time does not run backwards. -/
theorem le_clock_occur (s : Session) (x : Occurrence) :
    s.host.clock ≤ (s.occur x).host.clock := by
  cases x with
  | event e =>
    cases e with
    | serve =>
      cases hmailbox : s.mailbox with
      | nil => rw [occur, step, hmailbox]
      | cons q rest =>
        rw [occur, step_serve hmailbox]
        exact le_clock_handle s.supervisor s.host q.command
    | timer =>
      exact (fireTimer_sameWorld s.supervisor s.host s.supervisor.options).1.clock.ge
    | wait seconds => exact Nat.le_add_right _ _
    | _ => exact Nat.le_refl _
  | change files => exact Nat.le_refl _

/-- An occurrence either leaves the deadline alone or brings a moment from which the timer counts.
It can only be one at which the timer polled if monitoring was on and the deadline was reached. -/
theorem timerMarks_cases (hphase : s.supervisor.phase ≠ .starting) (x : Occurrence) :
    (s.timerMarks x = [] ∧ (s.occur x).supervisor.deadline = s.supervisor.deadline) ∨
    ∃ m, s.timerMarks x = [m] ∧ s.host.clock ≤ m.time ∧
      m.time ≤ (s.occur x).host.clock ∧
      (m.fired = true → s.supervisor.deadline ≤ m.time) ∧
      (s.occur x).supervisor.deadline = m.time + s.supervisor.options.interval := by
  have hclock := le_clock_occur s x
  cases x with
  | event e =>
    cases e with
    | serve =>
      cases hmailbox : s.mailbox with
      | nil => exact Or.inl ⟨by rw [timerMarks, hmailbox], by rw [occur, step, hmailbox]⟩
      | cons q rest =>
        rw [occur, step_serve hmailbox] at hclock ⊢
        rw [timerMarks, hmailbox, step_serve hmailbox]
        dsimp only
        by_cases hon : s.supervisor.phase ≠ .closed ∧ q.command = .setMonitoring true
        · refine Or.inr ⟨_, if_pos hon, hclock, Nat.le_refl _,
            fun hf => absurd hf Bool.false_ne_true, ?_⟩
          rw [afterHandling, hon.2]
          exact deadline_handle_setMonitoring_true hon.1 s.host
        · refine Or.inl ⟨if_neg hon, ?_⟩
          by_cases hclosed : s.supervisor.phase = .closed
          · rw [afterHandling, handle_of_closed hclosed]
          · exact deadline_handle _ _ fun hcommand => hon ⟨hclosed, hcommand⟩
    | timer =>
      rw [timerMarks, polls]
      cases hdue : s.supervisor.isDue s.host with
      | true =>
        have hreached := ((isDue_iff hphase s.host).1 hdue).2.2
        refine Or.inr ⟨_, if_pos rfl, Nat.le_refl _, hclock, fun _ => hreached, ?_⟩
        rw [occur, step, fireTimer_of_isDue hdue]
        exact deadline_poll (s.supervisor.restartTimer s.host) s.host
      | false =>
        refine Or.inl ⟨if_neg Bool.false_ne_true, ?_⟩
        rw [occur, step, fireTimer_of_not_isDue hdue]
    | log entry =>
      exact Or.inl ⟨rfl, congrArg Notice.deadline (notice_receive s.supervisor entry)⟩
    | _ => exact Or.inl ⟨rfl, rfl⟩
  | change files => exact Or.inl ⟨rfl, rfl⟩

/-- What some occurrences bring does not lie in the past. -/
theorem le_time_of_mem_timerMarksOf (hphase : s.supervisor.phase ≠ .starting)
    (xs : List Occurrence) : ∀ m ∈ s.timerMarksOf xs, s.host.clock ≤ m.time := by
  induction xs generalizing s with
  | nil => exact fun m hm => absurd hm List.not_mem_nil
  | cons x xs ih =>
    have hrest := ih (phase_occur_ne_starting hphase x)
    have hclock := le_clock_occur s x
    rw [timerMarksOf, List.forall_mem_append]
    refine ⟨fun m hm => ?_, fun m hm => hclock.trans (hrest m hm)⟩
    rcases timerMarks_cases hphase x with ⟨hnone, -⟩ | ⟨m', hone, hfrom, -⟩
    · rw [hnone] at hm
      exact absurd hm List.not_mem_nil
    · rw [hone] at hm
      rwa [List.mem_singleton.1 hm]

/-! ## The deadline -/

/-- The timer of a session counts from some moments: its deadline is one interval after the last of
them, none of them is still to come, and the timer never polled sooner than one interval after an
earlier one. -/
structure Counts (ms : List TimerMark) (s : Session) : Prop where
  phase : s.supervisor.phase ≠ .starting
  reached : ∀ m ∈ ms, m.time ≤ s.host.clock
  deadline : ∃ m ∈ ms, s.supervisor.deadline = m.time + s.supervisor.options.interval
  before : ∀ m ∈ ms, m.time + s.supervisor.options.interval ≤ s.supervisor.deadline
  spaced : ms.Pairwise fun m n =>
    n.fired = true → m.time + s.supervisor.options.interval ≤ n.time

/-- The deadline is reached exactly if one interval has passed since every moment. -/
theorem Counts.deadline_le_iff (hc : Counts ms s) :
    s.supervisor.deadline ≤ t ↔ ∀ m ∈ ms, m.time + s.supervisor.options.interval ≤ t := by
  constructor
  · intro hle m hm
    exact (hc.before m hm).trans hle
  · intro hall
    obtain ⟨m, hm, hdeadline⟩ := hc.deadline
    rw [hdeadline]
    exact hall m hm

/-- **Every occurrence** brings its moment. -/
theorem Counts.occur (hc : Counts ms s) (x : Occurrence) :
    Counts (ms ++ s.timerMarks x) (s.occur x) := by
  have hphase := phase_occur_ne_starting hc.phase x
  have hclock := le_clock_occur s x
  rcases timerMarks_cases hc.phase x with ⟨hnone, hdeadline⟩ |
    ⟨m, hone, hfrom, hto, hfired, hdeadline⟩
  · rw [hnone, List.append_nil]
    refine ⟨hphase, fun n hn => (hc.reached n hn).trans hclock, ?_, ?_, ?_⟩ <;>
      rw [options_occur]
    · rw [hdeadline]
      exact hc.deadline
    · rw [hdeadline]
      exact hc.before
    · exact hc.spaced
  · have hlater : ∀ n ∈ ms, n.time ≤ m.time := fun n hn => (hc.reached n hn).trans hfrom
    rw [hone]
    refine ⟨hphase, ?_, ?_, ?_, ?_⟩
    · rw [List.forall_mem_append, List.forall_mem_singleton]
      exact ⟨fun n hn => (hlater n hn).trans hto, hto⟩
    · rw [hdeadline, options_occur]
      exact ⟨m, by simp, rfl⟩
    · rw [hdeadline, options_occur, List.forall_mem_append, List.forall_mem_singleton]
      exact ⟨fun n hn => Nat.add_le_add_right (hlater n hn) _, Nat.le_refl _⟩
    · -- if the timer polled, the deadline was reached, and with it the distance to all earlier
      -- moments
      rw [options_occur, List.pairwise_append]
      refine ⟨hc.spaced, List.pairwise_singleton _ _, fun n hn m' hm' hpolled => ?_⟩
      rw [List.mem_singleton.1 hm'] at hpolled ⊢
      exact (hc.before n hn).trans (hfired hpolled)

theorem Counts.after (hc : Counts ms s) (xs : List Occurrence) :
    Counts (ms ++ s.timerMarksOf xs) (s.after xs) := by
  induction xs generalizing s ms with
  | nil => rwa [timerMarksOf, List.append_nil]
  | cons x xs ih =>
    rw [timerMarksOf, ← List.append_assoc]
    exact ih (hc.occur x)

/-- Where the clock stands still, the timer polls at most once. -/
theorem Counts.length_fired_le {ns : List TimerMark} (hc : Counts (ms ++ ns) s)
    (hinterval : 0 < s.supervisor.options.interval) (hns : ∀ n ∈ ns, s.host.clock ≤ n.time) :
    (ns.filter TimerMark.fired).length ≤ 1 := by
  have hspaced := (List.pairwise_append.1 hc.spaced).2.1.sublist
    (List.filter_sublist (p := TimerMark.fired))
  cases hfired : ns.filter TimerMark.fired with
  | nil => exact Nat.zero_le 1
  | cons m rest =>
    cases rest with
    | nil => exact Nat.le_refl 1
    | cons n rest =>
      rw [hfired, List.pairwise_cons] at hspaced
      have hm : m ∈ ns := (List.mem_filter.1 (by rw [hfired]; exact List.mem_cons_self)).1
      have hn : n ∈ ns ∧ n.fired = true := List.mem_filter.1 (by rw [hfired]; simp)
      have hapart := hspaced.1 n List.mem_cons_self hn.2
      have hfirst := hns m hm
      have hsecond := hc.reached n (List.mem_append_right ms hn.1)
      omega

/-! ## The beginning -/

theorem deadline_start (o : SupervisorOptions) (monitoring : Bool) (logCapacity : Nat) (h : Host) :
    (start o monitoring logCapacity h).supervisor.deadline =
      (start o monitoring logCapacity h).host.clock + o.interval := by
  have hoptions := options_poll (create o monitoring logCapacity h) h
  dsimp only [start, begin, create, restartTimer] at hoptions ⊢
  rw [hoptions]

/-- A session that has just begun counts from the end of its first poll. -/
theorem counts_start (o : SupervisorOptions) (monitoring : Bool) (logCapacity : Nat) (h : Host) :
    Counts [⟨(start o monitoring logCapacity h).host.clock, false⟩]
      (start o monitoring logCapacity h) where
  phase := Phase.noConfusion
  reached := by simp
  deadline := ⟨_, List.mem_singleton_self _, by rw [deadline_start, options_start]⟩
  before := by simp [deadline_start, options_start]
  spaced := List.pairwise_singleton _ _

/-! ## Monitoring -/

/-- What the commands of processed requests asked of monitoring at last. -/
def lastMonitoring? (s : Session) : Option Bool :=
  ((commands s.processed).filterMap Command.monitoring?).getLast?

theorem lastMonitoring?_afterHandling {q : Request} (rest : List Request)
    (hphase : s.supervisor.phase ≠ .closed) :
    (s.afterHandling q rest).lastMonitoring? = q.command.monitoring?.or s.lastMonitoring? := by
  have hreply : (s.supervisor.handle s.host q.command).1 ≠ .closed := by
    rw [handle_eq_carryOut hphase]
    exact reply_carryOut_ne_closed _ _ _
  rw [lastMonitoring?, processed_afterHandling hreply, commands, List.map_append,
    List.filterMap_append, List.getLast?_append]
  cases hc : q.command.monitoring? <;> simp [hc, lastMonitoring?, commands]

/-- A request that came too late is not processed. -/
theorem processed_afterHandling_of_closed {q : Request} (rest : List Request)
    (hphase : s.supervisor.phase = .closed) : (s.afterHandling q rest).processed = s.processed := by
  rw [afterHandling, handle_of_closed hphase, processed, List.filter_append]
  simp [processed]

/-- **Monitoring is as it was asked for last**, and that is so after every occurrence. -/
theorem monitoring_occur {monitoring : Bool}
    (hm : s.supervisor.monitoring = s.lastMonitoring?.getD monitoring) (x : Occurrence) :
    (s.occur x).supervisor.monitoring = (s.occur x).lastMonitoring?.getD monitoring := by
  cases x with
  | event e =>
    cases e with
    | serve =>
      cases hmailbox : s.mailbox with
      | nil => rwa [occur, step, hmailbox]
      | cons q rest =>
        rw [occur, step_serve hmailbox]
        by_cases hphase : s.supervisor.phase = .closed
        · rw [lastMonitoring?, processed_afterHandling_of_closed rest hphase, afterHandling,
            handle_of_closed hphase]
          exact hm
        · rw [lastMonitoring?_afterHandling rest hphase]
          refine (monitoring_handle hphase s.host q.command).trans ?_
          rw [hm]
          cases q.command.monitoring? <;> rfl
    | timer =>
      cases hdue : s.supervisor.isDue s.host with
      | true =>
        rw [occur, step, fireTimer_of_isDue hdue]
        exact (poll_isKept (s.supervisor.restartTimer s.host) s.host).monitoring.trans hm
      | false => rwa [occur, step, fireTimer_of_not_isDue hdue]
    | log entry => exact (congrArg Notice.monitoring (notice_receive s.supervisor entry)).trans hm
    | _ => exact hm
  | change files => exact hm

theorem monitoring_after {monitoring : Bool}
    (hm : s.supervisor.monitoring = s.lastMonitoring?.getD monitoring) (xs : List Occurrence) :
    (s.after xs).supervisor.monitoring = (s.after xs).lastMonitoring?.getD monitoring := by
  induction xs generalizing s with
  | nil => exact hm
  | cons x xs ih => exact ih (monitoring_occur hm x)

theorem monitoring_start (o : SupervisorOptions) (monitoring : Bool) (logCapacity : Nat)
    (h : Host) : (start o monitoring logCapacity h).supervisor.monitoring = monitoring :=
  (poll_isKept (create o monitoring logCapacity h) h).monitoring

/-! ## Runs -/

/-- **The timer polls neither early nor twice nor while monitoring is paused.**  Take any run of a
supervisor, and the moments from which its timer counts: the end of the first poll, the polls of the
timer, and the ends of the commands that turned monitoring on.

* If the supervisor looks at its timer next, it polls exactly if it was not told to shut down,
  monitoring is on, and one interval has passed since each of these moments.
* Monitoring is as it was asked for last, or as it was at the beginning.
* No poll of the timer came sooner than one interval after an earlier one of these moments.
* However far the clock has moved, the timer polls at most once until it moves again.
* No command but the one to turn monitoring on moves the deadline. -/
theorem timer_run (o : SupervisorOptions) (monitoring : Bool) (logCapacity : Nat) (h : Host)
    (xs : List Occurrence) :
    let s := (start o monitoring logCapacity h).after xs
    let ms := timerHistory o monitoring logCapacity h xs
    (s.polls (.event .timer) = true ↔
      ¬ s.HasShutDown ∧ s.supervisor.snapshot.monitoring = true ∧
      ∀ m ∈ ms, m.time + o.interval ≤ s.host.clock) ∧
    s.supervisor.snapshot.monitoring = s.lastMonitoring?.getD monitoring ∧
    (ms.Pairwise fun m n => n.fired = true → m.time + o.interval ≤ n.time) ∧
    (∀ ys, 0 < o.interval → (s.after ys).host.clock = s.host.clock →
      ((s.timerMarksOf ys).filter TimerMark.fired).length ≤ 1) ∧
    ∀ c, c ≠ .setMonitoring true →
      (s.supervisor.handle s.host c).2.1.deadline = s.supervisor.deadline := by
  intro s ms
  have hbegun := counts_start o monitoring logCapacity h
  have hc : Counts ms s := hbegun.after xs
  have ha : AnswersByShutdown s := (answersByShutdown_start o monitoring logCapacity h).after xs
  have hoptions : s.supervisor.options = o :=
    (options_after _ xs).trans (options_start o monitoring logCapacity h)
  have hmonitoring := monitoring_after (monitoring_start o monitoring logCapacity h) xs
  refine ⟨?_, hmonitoring, ?_, fun ys hinterval hclock => ?_, fun c => deadline_handle _ _⟩
  · rw [polls, isDue_iff hc.phase, hc.deadline_le_iff, Ne, ha.closed_iff, hoptions]
    rfl
  · rw [← hoptions]
    exact hc.spaced
  · have hmore := hc.after ys
    refine hmore.length_fired_le ?_ ?_
    · rw [options_after, hoptions]
      exact hinterval
    · rw [hclock]
      exact le_time_of_mem_timerMarksOf hc.phase ys

/-- Time passes, the supervisor looks at its timer twice, and then monitoring is paused for longer
than an interval. -/
def loneTimes : List Occurrence :=
  [.event (.wait 25), .event .timer, .event .timer, .event (.send ⟨0, .setMonitoring false⟩),
    .event .serve, .event (.wait 30), .event .timer, .event (.send ⟨0, .setMonitoring true⟩),
    .event .serve, .event (.wait 9), .event .timer, .event (.wait 1), .event .timer]

/-- The timer polls once after 25 seconds, not at all in the pause, and then 10 seconds after its
end. -/
theorem timer_run_lone :
    let ms := timerHistory loneOptions true 100 loneHost loneTimes
    let s := (start loneOptions true 100 loneHost).after [.event (.wait 25)]
    ms = [⟨0, false⟩, ⟨25, true⟩, ⟨55, false⟩, ⟨65, true⟩] ∧
      (ms.Pairwise fun m n => n.fired = true → m.time + 10 ≤ n.time) ∧
      ((s.timerMarksOf [.event .timer, .event .timer]).filter TimerMark.fired).length ≤ 1 ∧
      (s.supervisor.handle s.host (.setMonitoring false)).2.1.deadline = s.supervisor.deadline := by
  intro ms s
  obtain ⟨-, -, hspaced, -, -⟩ := timer_run loneOptions true 100 loneHost loneTimes
  obtain ⟨-, -, -, honce, hdeadline⟩ :=
    timer_run loneOptions true 100 loneHost [.event (.wait 25)]
  refine ⟨by decide +kernel, hspaced, honce _ (by decide) (by decide +kernel),
    hdeadline _ (by decide)⟩

end Session
end ProxySteward
