/-!
# Blank and control characters

Every reader of this library works on a text as the list of its characters.  What separates the
words of a text is decided once, here: a character is blank exactly when it has the Unicode property
`White_Space`.  The readers trim with it, the notes of keys are normalised with it, and a key may
not hold such a character.

`Char.isWhitespace` of the core library knows only four characters of this class.
-/

namespace ProxySteward

/-- A text, as the list of its Unicode scalar values. -/
abbrev Text := List Char

namespace Text

/-- The characters with the Unicode property `White_Space`. -/
def isBlank (c : Char) : Bool :=
  (9 ≤ c.toNat && c.toNat ≤ 13) || c.toNat == 0x20 || c.toNat == 0x85 || c.toNat == 0xA0
    || c.toNat == 0x1680 || (0x2000 ≤ c.toNat && c.toNat ≤ 0x200A) || c.toNat == 0x2028
    || c.toNat == 0x2029 || c.toNat == 0x202F || c.toNat == 0x205F || c.toNat == 0x3000

/-- The characters of the Unicode category `Cc`. -/
def isControl (c : Char) : Bool :=
  c.toNat < 0x20 || (0x7F ≤ c.toNat && c.toNat ≤ 0x9F)

/-- Without the longest run of elements that satisfy `p` at the end. -/
def dropEndWhile {α : Type} (p : α → Bool) (xs : List α) : List α :=
  (xs.reverse.dropWhile p).reverse

/-- The longest run of elements that satisfy `p` at the end. -/
def takeEndWhile {α : Type} (p : α → Bool) (xs : List α) : List α :=
  (xs.reverse.takeWhile p).reverse

/-- The two halves of a cut at the end make up the whole. -/
theorem dropEndWhile_append_takeEndWhile {α : Type} (p : α → Bool) (xs : List α) :
    dropEndWhile p xs ++ takeEndWhile p xs = xs := by
  rw [dropEndWhile, takeEndWhile, ← List.reverse_append, List.takeWhile_append_dropWhile,
    List.reverse_reverse]

/-- Without the characters of the class `p` at either end. -/
def trimBoth (p : Char → Bool) (t : Text) : Text :=
  dropEndWhile p (t.dropWhile p)

/-- Without the blanks in front. -/
def trimStart (t : Text) : Text := t.dropWhile isBlank

/-- Without the blanks at the end. -/
def trimEnd (t : Text) : Text := dropEndWhile isBlank t

/-- Without the blanks at either end. -/
def trim (t : Text) : Text := trimEnd (trimStart t)

/-- The maximal runs of characters that are not blank. -/
def words (t : Text) : List Text :=
  (t.splitOnP isBlank).filter fun w => !w.isEmpty

/-- The words of a text with one space between each two. -/
def collapse (t : Text) : Text :=
  [' '].intercalate (words t)

/-- Lower case for the letters `A` to `Z`; every other character stays. -/
def lower (t : Text) : Text := t.map Char.toLower

end Text
end ProxySteward
