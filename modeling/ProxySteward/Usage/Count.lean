import ProxySteward.Number.Double

/-!
# Counts

Counts come from the server and may be any 64-bit number, so a sum of counts stops at the ends of
that range instead of wrapping around.  For the operator a count is shortened: thousands, millions
and billions with one decimal.
-/

namespace ProxySteward

open Text

/-- A count of requests or tokens. -/
abbrev Count := Int64

namespace Count

/-- The sum of two counts, or the end of the range it lies beyond. -/
def add (a b : Count) : Count := Int64.ofIntClamp (a.toInt + b.toInt)

/-- The sum of counts, added up from the first to the last. -/
def total (cs : List Count) : Count := cs.foldl add 0

/-- A count in decimal digits. -/
def digits (c : Count) : Text := Text.ofInt c.toInt

/-- A magnitude in units of `unit` with one decimal. -/
def inUnits (magnitude unit : Nat) (letter : Char) : Text :=
  ((Double.ofInt magnitude).div (Double.ofInt unit)).oneDecimal ++ [letter]

/-- The short form of a count. -/
def short (c : Count) : Text :=
  let magnitude := c.toInt.natAbs
  let sign := if c.toInt < 0 then ['-'] else []
  if 1000000000 ≤ magnitude then sign ++ inUnits magnitude 1000000000 'B'
  else if 1000000 ≤ magnitude then sign ++ inUnits magnitude 1000000 'M'
  else if 1000 ≤ magnitude then sign ++ inUnits magnitude 1000 'K'
  else digits c

end Count
end ProxySteward
