import ProxySteward.Json.Value
import ProxySteward.Url.Percent
import ProxySteward.Text.Search

/-!
# A management server for rehearsals

A stand-in for the management API.  It checks credentials like the real one and answers with the
usage of two keys that grows with every request: the first key by a few requests, the second by one.

Credentials are accepted in the header, if its whole value is readable, or in the query; of several
values in the query the last one counts.
-/

namespace ProxySteward

open Text

/-- A rehearsal server: the key it asks for, and the requests of its two keys so far. -/
structure RehearsalServer where
  key : Option Text
  first : Nat
  second : Nat
  deriving DecidableEq, Repr

namespace RehearsalServer

/-- A server without any requests so far. -/
def fresh (key : Option Text) : RehearsalServer := ⟨key, 0, 0⟩

/-! ## Credentials -/

/-- Whether the value of a header can be read as a text. -/
def isReadable (header : Text) : Bool :=
  header.all fun c => (0x20 ≤ c.toNat && c.toNat < 0x7F) || c == '\t'

/-- The key in a header. -/
def headerKey? (header : Text) : Option Text :=
  if isReadable header then dropFront? "Bearer ".toList header else none

/-- The key in a query. -/
def queryKey? (query : Text) : Option Text :=
  ((Url.formPairs query).reverse.find? (·.1 = "key".toList)).map (·.2)

/-- Whether a request with a query and the first value of its header may see the usage. -/
def accepts (s : RehearsalServer) (query : Text) (header : Option Text) : Bool :=
  match s.key with
  | none => true
  | some key => header.bind headerKey? == some key || queryKey? query == some key

/-! ## Answers -/

/-- The server after one more request that was accepted. -/
def count (s : RehearsalServer) (bump : Nat) : RehearsalServer :=
  { s with first := s.first + bump, second := s.second + 1 }

/-- The usage of the first key. -/
def firstUsage (n : Nat) : Json := .record [
  ("total_requests", .int n),
  ("total_tokens", .int (900 * n : Nat)),
  ("models", .record [
    ("antigravity/gemini-2.5-pro", .record [("total_requests", .int (n - n / 3 : Nat))]),
    ("antigravity/claude-sonnet-4", .record [("total_requests", .int (n / 3 : Nat))]),
    ("gpt-4o", .int 2)])]

/-- The usage of the second key. -/
def secondUsage (n : Nat) : Json := .record [
  ("total_requests", .int n),
  ("total_tokens", .int (700 * n : Nat)),
  ("models", .record [("gemini-2.5-flash", .int n)])]

/-- The usage report. -/
def report (s : RehearsalServer) : Json := .record [("usage", .record [
  ("total_requests", .int (s.first + s.second : Nat)),
  ("total_tokens", .int (850 * (s.first + s.second) : Nat)),
  ("apis", .record [
    ("sk-mock-primary-0000000000000001", firstUsage s.first),
    ("sk-mock-secondary-000000000000002", secondUsage s.second)])])]

/-- The answer to a request that is not accepted. -/
def refusal : Json := .record [("error", .text "invalid management key".toList)]

/-- Status and body of the answer to a request, and the server after it.  `bump` is how much the
first key grows if the request is accepted. -/
def answer (s : RehearsalServer) (bump : Nat) (query : Text) (header : Option Text) :
    (Nat × Json) × RehearsalServer :=
  if s.accepts query header then ((200, (s.count bump).report), s.count bump)
  else ((401, refusal), s)

end RehearsalServer
end ProxySteward
