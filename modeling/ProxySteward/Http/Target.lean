import ProxySteward.Text.Search

/-!
# Targets of requests

A request names what it is about by a path, perhaps with a query behind it.  The target may name the
server in front of the path as well; a server that answers for itself passes over that part.  A
fragment never reaches the server.

A target that is neither a path nor an address, such as a single asterisk, has no path.
-/

namespace ProxySteward

open Text

/-- The parts of a target that a server looks at. -/
structure RequestTarget where
  path : Text
  /-- The text behind the question mark, empty if there is none. -/
  query : Text
  deriving DecidableEq, Repr

namespace RequestTarget

/-- The path of a target without its query. -/
def pathOf (front : Text) : Text :=
  if front.head? = some '/' then front
  else match cut? "://".toList front with
    | some (_, rest) => rest.dropWhile (· != '/')
    | none => []

/-- Reads a target. -/
def read (t : Text) : RequestTarget :=
  let sent := t.takeWhile (· != '#')
  match cutAt? '?' sent with
  | some (front, query) => ⟨pathOf front, query⟩
  | none => ⟨pathOf sent, []⟩

end RequestTarget
end ProxySteward
