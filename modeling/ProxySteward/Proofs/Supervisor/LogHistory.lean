import ProxySteward.Proofs.Supervisor.CommandKinds
import ProxySteward.Proofs.Supervisor.Shutdown

/-!
# The log of a run

The published log is the end of what arrived.  `Session.delivered` lists the entries that a run
brought to the supervisor, and `logs_run` says that the snapshot shows the last of them, as many as
there is room for.

Two facts make this up.  Nothing but an entry that arrives touches the window, so the window at the
end of a run is the one at its beginning with all delivered entries pushed into it, one after
another (`log_after`).  And pushing entries one by one into an empty window leaves the last ones of
all of them (`LogWindow.entries_foldl_push`): what a push drops from the front had no place among
the last ones any more.
-/

namespace ProxySteward

open Text

namespace LogWindow

@[simp] theorem capacity_foldl_push (w : LogWindow) (es : List LogEntry) :
    (es.foldl push w).capacity = w.capacity := by
  induction es generalizing w with
  | nil => rfl
  | cons e es ih => rw [List.foldl_cons, ih, capacity_push]

/-- **A window shows the end of what was pushed into it.**  The induction is on the entries from the
back, so that the step is one push into a window that shows the end of the entries before. -/
theorem entries_foldl_push (capacity : Nat) (es : List LogEntry) :
    (es.foldl push (empty capacity)).entries = es.drop (es.length - capacity) := by
  induction es using List.reverseRecOn with
  | nil =>
    rw [List.foldl_nil, List.drop_nil]
    rfl
  | append_singleton es e ih =>
    have hcapacity : (es.foldl push (empty capacity)).capacity = capacity :=
      capacity_foldl_push _ es
    have hroom : (es.foldl push (empty capacity)).entries.length ≤
        (es.foldl push (empty capacity)).capacity := by
      rw [ih, hcapacity, List.length_drop]
      omega
    rw [List.foldl_append, List.foldl_cons, List.foldl_nil, push_entries _ e hroom, hcapacity, ih,
      ← List.drop_append_of_le_length (Nat.sub_le es.length capacity), List.drop_drop]
    congr 1
    simp only [List.length_drop, List.length_append, List.length_singleton]
    omega

end LogWindow

namespace Supervisor

/-! ## What leaves the window alone -/

theorem log_poll (s : Supervisor) (h : Host) : (s.poll h).1.log = s.log := by
  have hfetch : ∀ c : Connection, (s.beginPoll.pollUsage c h).1.log = s.log := by
    intro c
    unfold pollUsage
    split
    · dsimp only
      cases (UsageFetch.fetch h c.baseUrl c.managementKey).1 <;> rfl
    · rfl
  have hlook : ∀ (c : Connection) (s : Supervisor) (h : Host), (s.look c h).log = s.log := by
    intro c s h
    unfold look followLog learnService
    dsimp only
    split <;> split <;> rfl
  rw [poll_eq]
  exact (hlook _ _ _).trans (hfetch _)

theorem log_finish (s : Supervisor) (h : Host) (r : Except ActionFault Outcome) :
    (s.finish h r).2.1.log = s.log := by
  cases r <;> exact log_poll _ h

/-- **No command** touches the window. -/
theorem log_handle (s : Supervisor) (h : Host) (c : Command) : (s.handle h c).2.1.log = s.log := by
  have hkind := s.handling_handle h c
  generalize s.handle h c = result at hkind ⊢
  cases hkind with
  | late => rfl
  | action c hphase haction watch acted result =>
    exact log_finish { s with watch := watch } acted result
  | refresh => exact log_poll s h
  | resume => exact log_poll { s with monitoring := true } h
  | pause => rfl
  | shutdown => rfl

theorem log_fireTimer (s : Supervisor) (h : Host) : (s.fireTimer h).2.1.log = s.log := by
  unfold fireTimer
  split
  · exact log_poll (s.restartTimer h) h
  · rfl

end Supervisor

namespace Session

open Supervisor

variable {s : Session} {xs : List Occurrence}

/-- The line of the log that arrives. -/
def Occurrence.logEntry? : Occurrence → Option LogEntry
  | .event (.log e) => some e
  | _ => none

/-- The entries that an occurrence brings to the supervisor: a line that arrives, unless the
supervisor has shut down. -/
def delivers (s : Session) (x : Occurrence) : List LogEntry :=
  if s.supervisor.phase = .closed then [] else x.logEntry?.toList

/-- The entries that some occurrences bring, one after another. -/
def delivered (s : Session) : List Occurrence → List LogEntry
  | [] => []
  | x :: xs => s.delivers x ++ (s.occur x).delivered xs

/-- **Every occurrence** pushes what it brings, and does nothing else to the window. -/
theorem log_occur (s : Session) (x : Occurrence) :
    (s.occur x).supervisor.log = (s.delivers x).foldl LogWindow.push s.supervisor.log := by
  have hsilent : x.logEntry? = none →
      (s.delivers x).foldl LogWindow.push s.supervisor.log = s.supervisor.log := by
    intro hnone
    rw [delivers, hnone]
    split <;> rfl
  cases x with
  | event e =>
    cases e with
    | log entry =>
      rw [occur, step, delivers]
      unfold receive
      split
      · next hphase => rw [if_pos hphase]; rfl
      · next hphase => rw [if_neg hphase]; rfl
    | serve =>
      rw [hsilent rfl]
      cases hmailbox : s.mailbox with
      | nil => rw [occur, step, hmailbox]
      | cons q rest =>
        rw [occur, step_serve hmailbox]
        exact log_handle _ _ _
    | timer => exact (log_fireTimer _ _).trans (hsilent rfl).symm
    | _ => exact (hsilent rfl).symm
  | change files => exact (hsilent rfl).symm

/-- The window at the end of a run. -/
theorem log_after (s : Session) (xs : List Occurrence) :
    (s.after xs).supervisor.log = (s.delivered xs).foldl LogWindow.push s.supervisor.log := by
  induction xs generalizing s with
  | nil => rfl
  | cons x xs ih =>
    rw [delivered, List.foldl_append, ← log_occur]
    exact ih (s.occur x)

theorem log_start (o : SupervisorOptions) (monitoring : Bool) (logCapacity : Nat) (h : Host) :
    (start o monitoring logCapacity h).supervisor.log = .empty logCapacity :=
  log_poll (create o monitoring logCapacity h) h

/-! ## What is delivered -/

theorem delivered_of_closed (hphase : s.supervisor.phase = .closed) (xs : List Occurrence) :
    s.delivered xs = [] := by
  induction xs generalizing s with
  | nil => rfl
  | cons x xs ih =>
    rw [delivered, delivers, if_pos hphase, List.nil_append]
    exact ih (by rw [supervisor_occur_of_closed hphase]; exact hphase)

/-- Until the supervisor shuts down, every line that arrives is delivered. -/
theorem delivered_eq (hphase : (s.after xs).supervisor.phase ≠ .closed) :
    s.delivered xs = xs.filterMap Occurrence.logEntry? := by
  induction xs generalizing s with
  | nil => rfl
  | cons x xs ih =>
    have hopen : s.supervisor.phase ≠ .closed := by
      intro hclosed
      refine hphase ?_
      rw [supervisor_after_of_closed hclosed]
      exact hclosed
    rw [delivered, delivers, if_neg hopen, ih hphase]
    cases hx : x.logEntry? <;> simp [hx]

/-- The lines that are delivered are the first ones that arrive. -/
theorem delivered_prefix (s : Session) (xs : List Occurrence) :
    s.delivered xs <+: xs.filterMap Occurrence.logEntry? := by
  induction xs generalizing s with
  | nil => exact List.prefix_rfl
  | cons x xs ih =>
    by_cases hclosed : s.supervisor.phase = .closed
    · rw [delivered_of_closed hclosed]
      exact List.nil_prefix
    · rw [delivered, delivers, if_neg hclosed]
      cases hx : x.logEntry? with
      | none =>
        rw [List.filterMap_cons_none hx]
        exact ih (s.occur x)
      | some e =>
        rw [List.filterMap_cons_some hx]
        exact List.cons_prefix_cons.2 ⟨rfl, ih (s.occur x)⟩

/-! ## Runs -/

/-- **The published log is the exact end of what arrived.**  Take any run of a supervisor, and the
entries that it brought to the supervisor.

* The snapshot shows the last of them in their order, as many as there is room for and no more.
* They are the entries that arrived before the supervisor was told to shut down: all of them if it
  was not, and in any case the first ones.
* An occurrence that brings no entry, whatever is served or polled at it, leaves the published log
  as it is. -/
theorem logs_run (o : SupervisorOptions) (monitoring : Bool) (logCapacity : Nat) (h : Host)
    (xs : List Occurrence) :
    let s := (start o monitoring logCapacity h).after xs
    let es := (start o monitoring logCapacity h).delivered xs
    s.supervisor.snapshot.logs = es.drop (es.length - logCapacity) ∧
    s.supervisor.snapshot.logs.length = min logCapacity es.length ∧
    (¬ s.HasShutDown → es = xs.filterMap Occurrence.logEntry?) ∧
    es <+: xs.filterMap Occurrence.logEntry? ∧
    ∀ x, s.delivers x = [] →
      (s.occur x).supervisor.snapshot.logs = s.supervisor.snapshot.logs := by
  intro s es
  have ha : AnswersByShutdown s := (answersByShutdown_start o monitoring logCapacity h).after xs
  have hlogs : s.supervisor.snapshot.logs = es.drop (es.length - logCapacity) := by
    rw [← LogWindow.entries_foldl_push, ← log_start o monitoring logCapacity h]
    exact congrArg LogWindow.entries (log_after _ xs)
  refine ⟨hlogs, ?_, fun hopen => ?_, delivered_prefix _ xs, fun x hx => ?_⟩
  · rw [hlogs, List.length_drop]
    omega
  · exact delivered_eq fun hclosed => hopen (ha.closed_iff.1 hclosed)
  · refine congrArg LogWindow.entries ((log_occur s x).trans ?_)
    rw [hx]
    rfl

/-- Three lines arrive, with a poll of the timer and a command between them. -/
def loneLines : List Occurrence :=
  [.event (.log ⟨"a".toList, false⟩), .event (.wait 30), .event .timer,
    .event (.log ⟨"b".toList, true⟩), .event (.send ⟨0, .refresh⟩), .event .serve,
    .event (.log ⟨"c".toList, false⟩)]

/-- A window for two entries shows the last two of three. -/
theorem logs_run_lone :
    let s := (start loneOptions true 2 loneHost).after loneLines
    ¬ s.HasShutDown ∧
      s.supervisor.snapshot.logs = [⟨"b".toList, true⟩, ⟨"c".toList, false⟩] ∧
      (s.occur (.event .timer)).supervisor.snapshot.logs = s.supervisor.snapshot.logs := by
  intro s
  obtain ⟨hlogs, -, hall, -, hsilent⟩ := logs_run loneOptions true 2 loneHost loneLines
  have hopen : ¬ s.HasShutDown := by
    rw [HasShutDown]
    decide +kernel
  rw [hall hopen] at hlogs
  exact ⟨hopen, hlogs, hsilent _ (by decide +kernel)⟩

end Session
end ProxySteward
