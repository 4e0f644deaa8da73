import ProxySteward.CrashWatch
import ProxySteward.Log.Follower
import ProxySteward.Log.Window
import ProxySteward.Supervisor.Command
import ProxySteward.Usage.Fetch

/-!
# The state of the supervisor

A supervisor carries out commands one at a time and polls in between.  What it knows is published as
a snapshot; `Supervisor.snapshot` is that view of the state.  The rest of the state is the
supervisor's own: the crash watch, the follower of the log, the poll timer and the commands it has
not looked at.

## One step

A step is a whole command, from the moment the supervisor looks at it to its reply, with the poll
that is part of it; or a poll of the timer; or a line of the log.  What has been published when a
step is over is the view of the state at its end, and a reply is sent only then.  What goes on
inside of a step has no state of its own, so two things are not told apart here.

* A poll publishes twice: at its beginning, when `refreshing` is set and all else is as it was, and
  at its end.  Only the second snapshot is a view of a state, and a reader who looks at the first
  one while a fetch is under way is not part of any run.
* Everything that a step reads, it reads from one host.  If the files, the processes or the servers
  change while a poll is under way, one of its reads sees them as they were and the next one as they
  are; here such a change comes before the step or after it.

## Counts and times

Counts and times are natural numbers of any size.  A run does not come near the end of a number of
64 bits: the count of crashes grows by at most one in a step (`Session.crashCount_le_length`), and
times are those of the clock of the host.
-/

namespace ProxySteward

open Text

/-- What a supervisor is told when it is created. -/
structure SupervisorOptions where
  overrides : Overrides
  roots : SearchRoots
  /-- How many seconds pass between two polls of the timer. -/
  interval : Nat
  logPath : Path
  deriving DecidableEq, Repr

/-- How far a supervisor has come. -/
inductive Phase where
  /-- Created, before the first poll. -/
  | starting
  | running
  | closed
  deriving DecidableEq, Repr

/-- A supervisor. -/
structure Supervisor where
  options : SupervisorOptions
  phase : Phase
  connection : Connection
  monitoring : Bool
  refreshing : Bool
  service : ServiceStatus
  keys : List KeyRecord
  usage : Option UsageSummary
  usageError : Option Text
  actionMessage : Option Text
  log : LogWindow
  /-- How many crashes have come to light. -/
  crashCount : Nat
  /-- The clock of the host when the last of them came to light. -/
  lastCrashAt : Option Nat
  lastPollAt : Option Nat
  watch : CrashWatch
  follower : LogFollower
  /-- When the timer polls next, unless monitoring is paused. -/
  deadline : Nat
  /-- Commands nobody waits for and that have not been looked at. -/
  inbox : List Command

/-- What a supervisor publishes. -/
structure Snapshot where
  configPath : Option Path
  baseUrl : Text
  monitoring : Bool
  refreshing : Bool
  service : ServiceStatus
  keys : List KeyRecord
  usage : Option UsageSummary
  usageError : Option Text
  actionMessage : Option Text
  logs : List LogEntry
  crashCount : Nat
  lastCrashAt : Option Nat
  lastPollAt : Option Nat
  title : Text
  deriving DecidableEq, Repr

namespace SupervisorOptions

/-- The connection as the files of a host describe it now. -/
def resolve (o : SupervisorOptions) (h : Host) : Connection :=
  Connection.resolveIn h.files o.overrides o.roots

end SupervisorOptions

namespace Supervisor

/-- A new supervisor. -/
def create (o : SupervisorOptions) (monitoring : Bool) (logCapacity : Nat) (h : Host) :
    Supervisor where
  options := o
  phase := .starting
  connection := o.resolve h
  monitoring := monitoring
  refreshing := false
  service := .unknown
  keys := []
  usage := none
  usageError := none
  actionMessage := none
  log := .empty logCapacity
  crashCount := 0
  lastCrashAt := none
  lastPollAt := none
  watch := .initial
  follower := .idle
  deadline := 0
  inbox := []

/-- What the supervisor publishes. -/
def snapshot (s : Supervisor) : Snapshot where
  configPath := s.connection.configPath
  baseUrl := s.connection.baseUrl
  monitoring := s.monitoring
  refreshing := s.refreshing
  service := s.service
  keys := s.keys
  usage := s.usage
  usageError := s.usageError
  actionMessage := s.actionMessage
  logs := s.log.entries
  crashCount := s.crashCount
  lastCrashAt := s.lastCrashAt
  lastPollAt := s.lastPollAt
  title := UsageSummary.title s.monitoring s.usage

end Supervisor
end ProxySteward
