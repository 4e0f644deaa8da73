import ProxySteward.Log.Follow
import ProxySteward.Host

/-!
# The follower of the log

A follower reads a log file in the background: it is started on a path, its entries arrive some time
later, and it ends by itself where the file stops being text.  Starting it again stops it first, and
stopping it twice is the same as once.
-/

namespace ProxySteward

/-- A follower and what it has read but not delivered. -/
structure LogFollower where
  path : Option Path
  active : Bool
  pending : List LogEntry
  /-- Whether it goes on after the pending entries. -/
  endless : Bool
  deriving DecidableEq, Repr

namespace LogFollower

/-- A follower that follows nothing. -/
def idle : LogFollower := ⟨none, false, [], false⟩

/-- The follower after it was started on a path; without the tool that reads the file nothing
arrives and it ends. -/
def start (h : Host) (path : Path) : LogFollower :=
  let (entries, endless) :=
    if h.hasTools then LogFollow.start (h.files.read path).toOption else ([], false)
  ⟨some path, true, entries, endless⟩

/-- The follower after it was stopped. -/
def stop (_ : LogFollower) : LogFollower := idle

/-- The follower after its pending entries arrived. -/
def delivered (f : LogFollower) : LogFollower :=
  { f with active := f.active && f.endless, pending := [] }

end LogFollower
end ProxySteward
