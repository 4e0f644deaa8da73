import ProxySteward.Proofs.Supervisor.PollEffect
import ProxySteward.Proofs.Supervisor.Session

/-!
# Sessions on files that others change

The files of a session are not the supervisor's own: an operator edits the configuration, another
program moves it away.  An `Occurrence` is an event of the session or such a change, so a list of
occurrences is a run in which the files change at any time between two events.

A change in the middle of an event is none of them.  An event reads everything from one host, and in
particular one poll finds the connection and loads the key list from the same files; what is said of
the files as a poll found them is said of those.

`Session.polls` says at which occurrences the supervisor polls: when it serves a request, if the
command is one that ends with a poll, and when its timer is due.  Every occurrence at which it does
is a step that ends with a poll (`endsWithPoll_occur`), and every other one leaves its findings
alone (`findings_occur`, `requests_occur`).
-/

namespace ProxySteward
namespace Session

open Supervisor

/-- What can happen in a session on files that others change. -/
inductive Occurrence where
  | event (e : Event)
  /-- The files are different from now on. -/
  | change (files : FileTree)

/-- The session after an occurrence. -/
def occur (s : Session) : Occurrence → Session
  | .event e => s.step e
  | .change files => { s with host := { s.host with files := files } }

/-- The session after some occurrences. -/
def after (s : Session) (xs : List Occurrence) : Session := xs.foldl occur s

/-- Whether the supervisor polls at an occurrence. -/
def polls (s : Session) : Occurrence → Bool
  | .event .serve => match s.mailbox with
    | [] => false
    | q :: _ => s.supervisor.phase != .closed && q.command.polls
  | .event .timer => s.supervisor.isDue s.host
  | _ => false

variable {s : Session} {x : Occurrence}

theorem polls_serve {q : Request} {rest : List Request} (hmailbox : s.mailbox = q :: rest) :
    s.polls (.event .serve) = (s.supervisor.phase != .closed && q.command.polls) := by
  rw [polls, hmailbox]

/-- **An occurrence with a poll** ends with it. -/
theorem endsWithPoll_occur (hpolls : s.polls x = true) :
    EndsWithPoll s.supervisor s.host (s.occur x).supervisor (s.occur x).host := by
  cases x with
  | event e =>
    cases e with
    | serve =>
      cases hmailbox : s.mailbox with
      | nil => exact absurd hpolls (by simp [polls, hmailbox])
      | cons q rest =>
        rw [polls_serve hmailbox, Bool.and_eq_true, bne_iff_ne] at hpolls
        rw [occur, step_serve hmailbox]
        exact endsWithPoll_handle hpolls.1 hpolls.2 s.host
    | timer => exact endsWithPoll_fireTimer hpolls
    | _ => exact absurd hpolls (by simp [polls])
  | change files => exact absurd hpolls (by simp [polls])

/-- **An occurrence without a poll** leaves the findings and the requests alone, and the files
unless it is itself a change of the files. -/
theorem isQuiet_occur (hpolls : s.polls x = false) :
    (s.occur x).supervisor.findings = s.supervisor.findings ∧
      (s.occur x).host.requests = s.host.requests ∧
      ((∃ files, x = .change files) ∨ (s.occur x).host.files = s.host.files) := by
  cases x with
  | event e =>
    have hquiet : IsQuiet s.supervisor s.host (s.step e).supervisor (s.step e).host := by
      cases e with
      | serve =>
        cases hmailbox : s.mailbox with
        | nil =>
          rw [step, hmailbox]
          exact ⟨rfl, rfl, rfl⟩
        | cons q rest =>
          rw [polls_serve hmailbox, Bool.and_eq_false_iff, bne_eq_false_iff_eq] at hpolls
          rw [step_serve hmailbox]
          exact isQuiet_handle hpolls s.host
      | timer =>
        have hdue : ¬ s.supervisor.isDue s.host = true := ne_true_of_eq_false hpolls
        have hsame : s.supervisor.fireTimer s.host = (false, s.supervisor, s.host) := by
          rw [fireTimer, if_neg hdue]
        rw [step, hsame]
        exact ⟨rfl, rfl, rfl⟩
      | log entry => exact ⟨findings_receive _ _, rfl, rfl⟩
      | _ => exact ⟨rfl, rfl, rfl⟩
    exact ⟨hquiet.findings, hquiet.requests, Or.inr hquiet.files⟩
  | change files => exact ⟨rfl, rfl, Or.inl ⟨files, rfl⟩⟩

theorem options_occur (s : Session) (x : Occurrence) :
    (s.occur x).supervisor.options = s.supervisor.options := by
  cases x with
  | event e =>
    cases e with
    | serve =>
      cases hmailbox : s.mailbox with
      | nil => rw [occur, step, hmailbox]
      | cons q rest =>
        rw [occur, step_serve hmailbox]
        exact options_handle _ _ _
    | timer => exact options_fireTimer _ _
    | log entry => exact options_receive _ _
    | _ => rfl
  | change files => rfl

theorem options_after (s : Session) (xs : List Occurrence) :
    (s.after xs).supervisor.options = s.supervisor.options := by
  induction xs generalizing s with
  | nil => rfl
  | cons x xs ih => exact (ih (s.occur x)).trans (options_occur s x)

/-! ## The beginning -/

theorem options_start (o : SupervisorOptions) (monitoring : Bool) (logCapacity : Nat) (h : Host) :
    (start o monitoring logCapacity h).supervisor.options = o :=
  options_begin (create o monitoring logCapacity h) h

/-- A session begins with a poll. -/
theorem endsWithPoll_start (o : SupervisorOptions) (monitoring : Bool) (logCapacity : Nat)
    (h : Host) :
    EndsWithPoll (create o monitoring logCapacity h) h (start o monitoring logCapacity h).supervisor
      (start o monitoring logCapacity h).host :=
  endsWithPoll_begin rfl h

end Session
end ProxySteward
