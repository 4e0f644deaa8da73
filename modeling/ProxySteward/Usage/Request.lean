import ProxySteward.Text.Base64
import ProxySteward.Url.Address

/-!
# Asking for the usage report

The report is asked for at a fixed path of the proxy's server.  Path and query of the address the
operator gave are replaced; scheme, host, port and fragment stay.  The management key travels twice,
in the `key` parameter of the query and in a header, because a server may look at either.

User information in the address becomes a header of its own, in front of the other one.
-/

namespace ProxySteward

open Text

/-- A request for the usage report, as the server gets it. -/
structure UsageRequest where
  /-- The address in full. -/
  url : Text
  /-- Path and query. -/
  target : Text
  /-- The values of the authorization header, in their order. -/
  authorization : List Text
  deriving DecidableEq, Repr

/-- Why no request can be made. -/
inductive UsageRequestFault where
  | badAddress
  | cannotSend
  deriving DecidableEq, Repr

namespace UsageRequest

/-- The path of the usage report. -/
def path : Text := "/v0/management/usage".toList

/-- Path and query of a request; the query holds the key unless it is empty. -/
def targetFor (key : Text) : Text :=
  path ++ (if key.isEmpty then [] else "?key=".toList ++ Url.formEncode key)

/-- The address that the operator gave, if requests can be made to it. -/
def base? (baseUrl : Text) : Option Address :=
  let given := trim baseUrl
  if given.isEmpty then none else (Address.parse? given).filter (·.rooted)

/-- The address of a request in full. -/
def url? (baseUrl key : Text) : Option Text :=
  (base? baseUrl).map fun a => a.withTarget (targetFor key)

/-- Whether a text may stand in a header. -/
def isHeaderText (t : Text) : Bool :=
  t.all fun c => (0x20 ≤ c.toNat && c.toNat != 0x7F) || c == '\t'

/-- The header for the user information of an address.  Name and password are texts in UTF-8 behind
percent signs: without a name that can be read there is no header, and a password that cannot be
read counts as absent. -/
def basic? (userInfo : Text) : Option Text := do
  let (front, behind) := match cutAt? ':' userInfo with
    | some (front, behind) => (front, some behind)
    | none => (userInfo, none)
  let name ← decode? (Url.percentDecode front)
  let word := behind.bind fun t => decode? (Url.percentDecode t)
  if name.isEmpty && word.isNone then none
  else some ("Basic ".toList ++ base64 (encode (name ++ ':' :: word.getD [])))

/-- The header for a management key. -/
def bearer (key : Text) : Text := "Bearer ".toList ++ key

/-- The values of the authorization header. -/
def credentials (a : Address) (key : Text) : List Text :=
  (basic? a.userInfo).toList ++ (if key.isEmpty then [] else [bearer key])

/-- Whether requests go over the protocol of a scheme. -/
def isHttp (scheme : Text) : Bool := scheme == "http".toList || scheme == "https".toList

/-- The request for an address and a management key. -/
def of (baseUrl managementKey : Text) : Except UsageRequestFault UsageRequest :=
  let key := trim managementKey
  match base? baseUrl with
  | none => .error .badAddress
  | some a =>
    if isHttp a.scheme && isHeaderText key then
      .ok ⟨a.withTarget (targetFor key), targetFor key, credentials a key⟩
    else .error .cannotSend

end UsageRequest
end ProxySteward
