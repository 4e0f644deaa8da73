import ProxySteward.Text.Digits
import ProxySteward.Text.Search

/-!
# Tables of characters

A property that thousands of characters have, or a map that is defined for thousands of them, is
kept as a table: a text of words, each of them about a range of code points.  A range is written in
hexadecimal as `41-5A`, or as `100~12E` for every second code point of it, or as one code point
alone.

## Sets and maps

The words of a set are ranges (`CharSet`).  A word of a map adds what the range is mapped to behind
a colon (`CharMap`): several code points joined by dots, or one code point, which is then the image
of the first character of the range and moves with it.  Where the images are numbers and no
characters, `CharMap.number?` reads them without moving.
-/

namespace ProxySteward
namespace Text

/-- The value of a number in a base, if every character is a digit of it. -/
def readBase? (base : Nat) (t : Text) : Option Nat :=
  t.foldl (fun value c => do
    let v ← value
    let d ← hexDigit? c
    if d < base then some (base * v + d) else none) (some 0)

end Text

open Text

/-- The code points from the first to the last, in steps of a width. -/
structure CodeRange where
  first : Nat
  last : Nat
  width : Nat
  deriving DecidableEq, Repr

namespace CodeRange

/-- Whether a character lies in a range. -/
def contains (r : CodeRange) (c : Char) : Bool :=
  r.first ≤ c.toNat && c.toNat ≤ r.last && (c.toNat - r.first) % r.width == 0

/-- The range between two numbers. -/
def between? (width : Nat) (ends : Text × Text) : Option CodeRange := do
  some ⟨← readBase? 16 ends.1, ← readBase? 16 ends.2, width⟩

/-- The range that a word stands for. -/
def read? (word : Text) : Option CodeRange :=
  match cutAt? '-' word, cutAt? '~' word with
  | some ends, _ => between? 1 ends
  | none, some ends => between? 2 ends
  | none, none => between? 1 (word, word)

end CodeRange

/-- A set of characters. -/
abbrev CharSet := List CodeRange

namespace CharSet

/-- The set that a table lists. -/
def ofTable (table : String) : CharSet := (words table.toList).filterMap CodeRange.read?

/-- Whether a character belongs to a set. -/
def contains (s : CharSet) (c : Char) : Bool := s.any (·.contains c)

end CharSet

/-- Ranges of characters with their images. -/
abbrev CharMap := List (CodeRange × List Nat)

namespace CharMap

/-- The range and the image that a word stands for. -/
def readWord? (word : Text) : Option (CodeRange × List Nat) := do
  let (range, image) ← cutAt? ':' word
  some (← CodeRange.read? range, ← (image.splitOn '.').mapM (readBase? 16))

/-- The map that a table lists. -/
def ofTable (table : String) : CharMap := (words table.toList).filterMap readWord?

/-- The entry of a character. -/
def entry? (m : CharMap) (c : Char) : Option (CodeRange × List Nat) := m.find? (·.1.contains c)

/-- The characters that a character is mapped to. -/
def image? (m : CharMap) (c : Char) : Option Text :=
  (m.entry? c).map fun (range, image) =>
    match image with
    | [n] => [Char.ofNat (n + (c.toNat - range.first))]
    | image => image.map Char.ofNat

/-- The number that a character is mapped to. -/
def number? (m : CharMap) (c : Char) : Option Nat := (m.entry? c).bind (·.2.head?)

end CharMap
end ProxySteward
