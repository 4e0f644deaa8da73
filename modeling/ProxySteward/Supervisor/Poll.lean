import ProxySteward.Key.Store
import ProxySteward.Supervisor.State

/-!
# Polling

A poll looks at everything anew: the connection, the usage, the proxy and the key list.  What it
finds replaces what was known, with two exceptions.  A failed fetch keeps the last usage and only
reports the failure, and a key list that cannot be read is kept, unless there is no configuration
file any more.

While monitoring is paused a poll sends no request and leaves usage and failure as they are.

All that a poll reads it reads from the one host it is given: nothing changes the files or the proxy
between two of its reads.
-/

namespace ProxySteward
namespace Supervisor

open Text

/-- The supervisor while it polls. -/
def beginPoll (s : Supervisor) : Supervisor := { s with refreshing := true }

/-- The supervisor after a fetch. -/
def learnUsage (managementKey : Text) (s : Supervisor) :
    Except UsageFault UsageSummary → Supervisor
  | .ok summary => { s with usage := some summary, usageError := none }
  | .error f => { s with usageError := some (f.friendly managementKey) }

/-- Fetches the usage if monitoring is on. -/
def pollUsage (c : Connection) (s : Supervisor) (h : Host) : Supervisor × Host :=
  if s.monitoring then
    let (result, h) := UsageFetch.fetch h c.baseUrl c.managementKey
    (s.learnUsage c.managementKey result, h)
  else (s, h)

/-- The records of a configuration file. -/
def loadKeys (files : FileTree) (config : Option Path) : Except KeyFault (List KeyRecord) := do
  (← KeyStore.open? files config).records files

/-- The key list after a look at the configuration file. -/
def learnKeys (known : List KeyRecord) : Except KeyFault (List KeyRecord) → List KeyRecord
  | .ok records => records
  | .error .configNotFound => []
  | .error _ => known

/-- The supervisor after it saw the proxy run or not at some time. -/
def learnService (status : ServiceStatus) (now : Nat) (s : Supervisor) : Supervisor :=
  let seen := { s with service := status, watch := s.watch.observe status.running }
  if s.watch.reveals status.running then
    { seen with
      crashCount := s.crashCount + 1
      lastCrashAt := some now
      actionMessage := some "local service stopped unexpectedly".toList }
  else seen

/-- Starts to follow the log of a proxy that runs, unless that is done already. -/
def followLog (h : Host) (s : Supervisor) : Supervisor :=
  if s.service.running && !s.follower.active then
    { s with follower := LogFollower.start h s.options.logPath }
  else s

/-- One poll. -/
def poll (s : Supervisor) (h : Host) : Supervisor × Host :=
  let c := s.options.resolve h
  let (s, h) := s.beginPoll.pollUsage c h
  let s := { s with keys := learnKeys s.keys (loadKeys h.files c.configPath), connection := c }
  let s := (s.learnService (Service.status h c) h.clock).followLog h
  ({ s with lastPollAt := some h.clock, refreshing := false }, h)

end Supervisor
end ProxySteward
