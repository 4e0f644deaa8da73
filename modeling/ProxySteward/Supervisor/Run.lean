import ProxySteward.Supervisor.Action

/-!
# The life of a supervisor

The first thing a supervisor does is to poll; then it looks at the commands in the order in which
they came.  Between commands its timer polls, and lines of the log arrive.  Once it has looked at a
command to shut down it does nothing more: whoever asks is told so, and neither time nor log lines
change it.

The timer counts from the end of the first poll, from its own last poll, or from the last command to
turn monitoring on.  It polls at most once however much time passes at a time, and never while
monitoring is paused.
-/

namespace ProxySteward
namespace Supervisor

open Text

/-- Handles the command that is next. -/
def handle (s : Supervisor) (h : Host) (c : Command) : Reply × Supervisor × Host :=
  match s.phase with
  | .closed => (.closed, s, h)
  | _ => s.carryOut h c

/-- Leaves a command for later without waiting for a reply. -/
def post (s : Supervisor) (c : Command) : Supervisor := { s with inbox := s.inbox ++ [c] }

/-- Polls for the first time, if that has not been done. -/
def begin (s : Supervisor) (h : Host) : Supervisor × Host :=
  match s.phase with
  | .starting =>
    let (s, h) := s.poll h
    ({ s with phase := .running }.restartTimer h, h)
  | _ => (s, h)

/-- Handles commands one after another, without looking at the replies. -/
def handleAll (s : Supervisor) (h : Host) (cs : List Command) : Supervisor × Host :=
  cs.foldl (fun (s, h) c => (s.handle h c).2) (s, h)

/-- The supervisor after it looked at everything left for it. -/
def attend (s : Supervisor) (h : Host) : Supervisor × Host :=
  let (s, h) := s.begin h
  { s with inbox := [] }.handleAll h s.inbox

/-- Asks something and waits for the reply. -/
def ask (s : Supervisor) (h : Host) (c : Command) : Reply × Supervisor × Host :=
  let (s, h) := s.attend h
  s.handle h c

/-- Whether the timer polls now. -/
def isDue (s : Supervisor) (h : Host) : Bool :=
  s.phase == .running && s.monitoring && s.deadline ≤ h.clock

/-- Polls if the timer says so, and tells whether it did. -/
def fireTimer (s : Supervisor) (h : Host) : Bool × Supervisor × Host :=
  if s.isDue h then
    let (s, h) := (s.restartTimer h).poll h
    (true, s, h)
  else (false, s, h)

/-- Lets time pass, and tells whether the timer polled. -/
def pass (s : Supervisor) (h : Host) (seconds : Nat) : Bool × Supervisor × Host :=
  let (s, h) := s.attend h
  s.fireTimer (h.wait seconds)

/-- A line of the log arrives. -/
def receive (s : Supervisor) (e : LogEntry) : Supervisor :=
  match s.phase with
  | .closed => s
  | _ => { s with log := s.log.push e }

/-- Everything that the follower has read arrives. -/
def receiveAll (s : Supervisor) (h : Host) : Supervisor × Host :=
  let (s, h) := s.attend h
  let received := s.follower.pending.foldl receive s
  ({ received with follower := received.follower.delivered }, h)

end Supervisor
end ProxySteward
