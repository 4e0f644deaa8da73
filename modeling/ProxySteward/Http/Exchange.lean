import ProxySteward.Text.Utf8

/-!
# Exchanges with a server

What can become of a request: no reply at all, a reply that ends before its body does, or a whole
reply.
-/

namespace ProxySteward

/-- What became of a request. -/
inductive Exchange where
  | unreachable
  | cutShort
  | reply (status : Nat) (body : Bytes)
  deriving DecidableEq, Repr

namespace Exchange

/-- Whether a status reports success. -/
def isSuccess (status : Nat) : Bool := 200 ≤ status && status < 300

/-- Whether a status says that the credentials were refused. -/
def isUnauthorized (status : Nat) : Bool := status == 401

end Exchange
end ProxySteward
