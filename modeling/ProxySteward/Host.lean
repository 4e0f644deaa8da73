import ProxySteward.Host.Program
import ProxySteward.Host.SocketAddress
import ProxySteward.Http.Exchange
import ProxySteward.Usage.Request

/-!
# The host

What the steward sees of the machine it runs on, and what it did there.  The files, the clock and
the deeds change as it works; what the port lookup, the network and the random source answer is
given.

## Deeds

Signals, launched programs and requests leave no other mark on the host, so they are kept as a list
of deeds in the order in which they were done.
-/

namespace ProxySteward

/-- What the lookup of the process behind a port printed, and whether it succeeded. -/
structure PortLookup where
  output : Bytes
  success : Bool
  deriving DecidableEq, Repr

/-- What was done to the world outside the files. -/
inductive Deed where
  | launched (program config : Path)
  | terminated (pid : Nat)
  | terminatedMatching (pattern : Text)
  | requested (r : UsageRequest)
  deriving DecidableEq, Repr

/-- The machine the steward runs on. -/
structure Host where
  files : FileTree
  temporaryDirectory : Path
  /-- Seconds since some moment in the past.  A number of 63 bits holds them for longer than any run
  lasts. -/
  clock : Nat
  /-- Whether the programs that look up ports, signal processes and follow files are there. -/
  hasTools : Bool
  portLookup : Nat → PortLookup
  network : UsageRequest → Exchange
  /-- Why no server can listen at an address. -/
  listenFault? : SocketAddress → Option HostFault
  /-- The bytes that the `n`-th use of the random source brings. -/
  random : Nat → Bytes
  /-- How often the random source has been used. -/
  drawn : Nat
  /-- The latest deed comes first. -/
  deeds : List Deed

namespace Host

/-- The host after a deed. -/
def did (h : Host) (d : Deed) : Host := { h with deeds := d :: h.deeds }

/-- The host some seconds later. -/
def wait (h : Host) (seconds : Nat) : Host := { h with clock := h.clock + seconds }

/-- Random bytes, and the host after the random source was used. -/
def draw (h : Host) : Bytes × Host := (h.random h.drawn, { h with drawn := h.drawn + 1 })

/-- Sends a request. -/
def send (h : Host) (r : UsageRequest) : Exchange × Host := (h.network r, h.did (.requested r))

end Host
end ProxySteward
