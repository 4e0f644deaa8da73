import ProxySteward.Url.Host

/-!
# Addresses of sockets

The address a server listens on: an IPv4 address, or an IPv6 address in brackets with an optional
zone, and a port.  Unlike a host in a URL, the four parts of an IPv4 address are plain decimal bytes
here.
-/

namespace ProxySteward

open Text

/-- The address of a machine: four bytes, or eight groups of sixteen bits. -/
inductive IpAddress where
  | v4 (bytes : List Nat)
  | v6 (groups : List Nat)
  deriving DecidableEq, Repr

/-- The address of a socket. -/
structure SocketAddress where
  ip : IpAddress
  port : Nat
  deriving DecidableEq, Repr

namespace SocketAddress

/-- A number that is written with digits only. -/
def plain? (bound : Nat) (t : Text) : Option Nat := (readNat? t).filter (· ≤ bound)

/-- An IPv4 address. -/
def ipv4? (t : Text) : Option IpAddress := do
  let bytes ← (t.splitOn '.').mapM Url.decimalByte?
  if bytes.length = 4 then some (.v4 bytes) else none

/-- An IPv6 address with an optional zone behind a percent sign. -/
def ipv6? (t : Text) : Option IpAddress :=
  match cutAt? '%' t with
  | some (front, zone) => do
    let _ ← plain? 4294967295 zone
    (Url.ipv6? front).map .v6
  | none => (Url.ipv6? t).map .v6

/-- The address and the port of an IPv6 socket, from behind the bracket. -/
def bracketed? (t : Text) : Option SocketAddress := do
  let (inner, behind) ← cut? "]:".toList t
  some ⟨← ipv6? inner, ← plain? 65535 behind⟩

/-- The address that a text names. -/
def parse? : Text → Option SocketAddress
  | '[' :: rest => bracketed? rest
  | t => do
    let (front, behind) ← cutAt? ':' t
    some ⟨← ipv4? front, ← plain? 65535 behind⟩

end SocketAddress
end ProxySteward
