import ProxySteward.Text.Blank

/-!
# Watching for crashes

A crash is a step from running to stopped that no stop request asked for.  A request stays in force
until the proxy is seen stopped, however many observations that takes, or until a start is
requested.
-/

namespace ProxySteward

/-- What the last observation saw, and whether a stop has been requested since. -/
structure CrashWatch where
  wasRunning : Bool
  stopRequested : Bool
  deriving DecidableEq, Repr

namespace CrashWatch

/-- Nothing seen and nothing requested. -/
def initial : CrashWatch := ⟨false, false⟩

/-- A stop is requested. -/
def requestStop (w : CrashWatch) : CrashWatch := { w with stopRequested := true }

/-- A start is requested, which withdraws a request to stop. -/
def requestStart (w : CrashWatch) : CrashWatch := { w with stopRequested := false }

/-- Whether an observation reveals a crash. -/
def reveals (w : CrashWatch) (running : Bool) : Bool :=
  w.wasRunning && !running && !w.stopRequested

/-- The watch after an observation. -/
def observe (w : CrashWatch) (running : Bool) : CrashWatch :=
  ⟨running, running && w.stopRequested⟩

end CrashWatch
end ProxySteward
