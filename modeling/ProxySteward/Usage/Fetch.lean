import ProxySteward.Host
import ProxySteward.Usage.Decode

/-!
# Fetching the usage

A fetch sends at most one request and never tries again.  `UsageFault.message` is the full report of
a failure; the operator sees `UsageFault.friendly`, which says nothing of what the server sent: it
depends on the kind of the failure, on whether the credentials were refused, and on whether there
are any.
-/

namespace ProxySteward

open Text

/-- Why there is no usage. -/
inductive UsageFault where
  | invalidBaseUrl
  | unreachable
  | invalidResponse
  | http (status : Nat) (body : Text)
  | serverMessage (message : Text)
  | undecodable
  deriving DecidableEq, Repr

namespace UsageFault

/-- The full report of a failure. -/
def message : UsageFault → Text
  | .invalidBaseUrl => "invalid server URL".toList
  | .unreachable => "management API unreachable".toList
  | .invalidResponse => "invalid server response".toList
  | .http status body =>
    "HTTP ".toList ++ ofNat status ++ (if body.isEmpty then [] else ": ".toList ++ body)
  | .serverMessage message => message
  | .undecodable => "failed to decode response".toList

/-- What the operator is told. -/
def friendly (managementKey : Text) : UsageFault → Text
  | .http status _ =>
    if Exchange.isUnauthorized status then
      if (trim managementKey).isEmpty then
        "monitoring unauthorized: missing management key".toList
      else "monitoring unauthorized: management key rejected".toList
    else "usage temporarily unavailable".toList
  | .undecodable => "usage format temporarily incompatible, skipped".toList
  | _ => "usage temporarily unavailable".toList

end UsageFault

namespace UsageFetch

/-- How many characters of a refusal are kept. -/
def previewLength : Nat := 120

/-- The usage in an answer of the management API. -/
def ofAnswer (a : UsageAnswer) : Except UsageFault UsageSummary :=
  match a.usage with
  | some report => .ok report.summarize
  | none => .error (.serverMessage (a.error.getD "missing usage payload".toList))

/-- The usage that an exchange brought. -/
def ofExchange : Exchange → Except UsageFault UsageSummary
  | .unreachable => .error .unreachable
  | .cutShort => .error .invalidResponse
  | .reply status body =>
    if Exchange.isSuccess status then
      match UsageAnswer.ofBody body with
      | .ok answer => ofAnswer answer
      | .error _ => .error .undecodable
    else .error (.http status ((decodeLossy body).take previewLength))

/-- Fetches the usage, and gives back the host after the request was sent. -/
def fetch (h : Host) (baseUrl managementKey : Text) : Except UsageFault UsageSummary × Host :=
  match UsageRequest.of baseUrl managementKey with
  | .error .badAddress => (.error .invalidBaseUrl, h)
  | .error .cannotSend => (.error .unreachable, h)
  | .ok request =>
    let (exchange, sent) := h.send request
    (ofExchange exchange, sent)

end UsageFetch
end ProxySteward
