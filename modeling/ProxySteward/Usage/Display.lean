import ProxySteward.Json.Value
import ProxySteward.Usage.Summary

/-!
# Showing the usage

A summary for the terminal, as aligned lines or as JSON.
-/

namespace ProxySteward

open Text

namespace UsageSummary

/-- The summary as a JSON value. -/
def toJson (s : UsageSummary) : Json :=
  .record [
    ("total_requests", .int s.requests.toInt),
    ("total_tokens", .int s.tokens.toInt),
    ("key_usages", .array (s.keys.map fun k => .record [
      ("id", .text k.id),
      ("label", .text k.label),
      ("total_requests", .int k.requests.toInt),
      ("total_tokens", .int k.tokens.toInt),
      ("model_calls", .array (k.calls.map fun c => .record [
        ("model", .text c.model),
        ("requests", .int c.requests.toInt)]))]))]

/-- A text filled up with spaces behind it. -/
def padEnd (width : Nat) (t : Text) : Text := t ++ List.replicate (width - t.length) ' '

/-- A text filled up with spaces in front of it. -/
def padStart (width : Nat) (t : Text) : Text := List.replicate (width - t.length) ' ' ++ t

/-- The line of one model. -/
def callLine (c : ModelCalls) : Text :=
  "      ".toList ++ padEnd 40 c.model ++ ' ' :: c.requests.digits

/-- The line of one key and the lines of its models. -/
def keyLines (s : UsageSummary) (k : KeyUsage) : List Text :=
  ("  ".toList ++ padEnd 16 k.label ++ ' ' :: padStart 8 k.requests.short
    ++ " (".toList ++ (s.share k.requests).oneDecimal ++ "%)".toList) :: k.calls.map callLine

/-- The lines of a summary. -/
def displayLines (s : UsageSummary) : List Text :=
  ("requests: ".toList ++ s.shownRequests.short ++ "  tokens: ".toList ++ s.shownTokens.short)
    :: s.keys.flatMap s.keyLines

end UsageSummary
end ProxySteward
