import ProxySteward.Text.Search

/-!
# Log entries

A line of the proxy's log, classified by the words in it: it reports an error if `error` or `panic`
stands in it in any letter case.  The letters of these words come from no other letter by Unicode
case folding, except that `İ` becomes an `i` with a dot above behind it, which neither word holds;
so looking at the letters of ASCII is enough.
-/

namespace ProxySteward

open Text

/-- A classified line of the log. -/
structure LogEntry where
  text : Text
  isError : Bool
  deriving DecidableEq, Repr

/-- Whether a line reports an error. -/
def LogEntry.reportsError (line : Text) : Bool :=
  holds "error".toList (lower line) || holds "panic".toList (lower line)

/-- A line with its class. -/
def LogEntry.classify (line : Text) : LogEntry := ⟨line, reportsError line⟩

end ProxySteward
