import ProxySteward.Text.Blank

/-!
# Masked keys

A key is shown by its first seven and last four characters.  A key of at most fourteen characters is
shown whole, and an empty one as `(unknown)`.  Messages, titles and lists show keys in this form
only.
-/

namespace ProxySteward

open Text

/-- The form in which a key is shown. -/
def mask (key : Text) : Text :=
  let shown := trim key
  if shown.isEmpty then "(unknown)".toList
  else if shown.length ≤ 14 then shown
  else shown.take 7 ++ "...".toList ++ shown.drop (shown.length - 4)

end ProxySteward
