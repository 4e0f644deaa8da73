import ProxySteward.Text.Digits
import ProxySteward.Text.Search
import ProxySteward.Mask

/-!
# Key records

A record of the key list: the key itself, a note for the operator, and whether the proxy accepts the
key.  `KeyRecord.IsKey` is the class of keys a record may be created with: they survive being
written between double quotes on a row and read back.

## Notes

The row of a disabled record says so with the word `disabled` in its comment, so a note may not hold
that word in any letter case, and it may not start or end with a number sign, which separates the
parts of a comment.  `KeyRecord.plainNote` takes the marker out of a comment; taking it out can
bring new letters together and uncover a new marker or a new number sign at the end, so
`KeyRecord.normalNote` repeats that until nothing gets shorter.  The length of the note is the
measure of that recursion.
-/

namespace ProxySteward

open Text

/-- One entry of the key list. -/
structure KeyRecord where
  key : Text
  note : Text
  enabled : Bool
  deriving DecidableEq, Repr

namespace KeyRecord

/-- The key as it is shown. -/
def masked (r : KeyRecord) : Text := mask r.key

/-- A fresh record is enabled and has no note. -/
def fresh (key : Text) : KeyRecord := ⟨key, [], true⟩

/-- Whether a character may stand in a key. -/
def isKeyChar (c : Char) : Bool :=
  !isBlank c && !isControl c && c != '"' && c != '\'' && c != '#'

/-- Whether all characters of a text may stand in a key. -/
def isKeyText (key : Text) : Bool := key.all isKeyChar

/-- The keys a record may be created with. -/
def IsKey (key : Text) : Prop := key ≠ [] ∧ isKeyText key = true

/-- The word by which a comment says that its record is disabled. -/
def marker : Text := "disabled".toList

/-- Whether a comment says that its record is disabled. -/
def isMarked (comment : Text) : Bool := holds marker (lower comment)

/-- A text without the occurrences of the marker, found from the left, in any letter case; the first
`skip` characters still belong to an occurrence found before. -/
def cutMarkers : (skip : Nat) → Text → Text
  | _, [] => []
  | skip + 1, _ :: cs => cutMarkers skip cs
  | 0, c :: cs =>
    if lower ((c :: cs).take 8) = marker then cutMarkers 7 cs else c :: cutMarkers 0 cs

/-- The note in a comment: the comment without its markers, and without blanks and number signs at
either end. -/
def plainNote (comment : Text) : Text :=
  trimBoth (fun c => isBlank c || c == '#') (cutMarkers 0 comment)

/-- Takes markers out of a note of single-spaced words for as long as that makes it shorter. -/
def settleNote (note : Text) : Text :=
  let next := collapse (plainNote note)
  if next.length < note.length then settleNote next else next
termination_by note.length

/-- The form in which a note is kept: one row, single spaces, nothing that reads as a marker. -/
def normalNote (note : Text) : Text := settleNote (collapse note)

/-- What every generated key starts with. -/
def keyFront : Text := "sk-".toList

/-- A generated key: thirty-two random bytes in hexadecimal. -/
def generatedKey (bytes : List UInt8) : Text := keyFront ++ bytes.flatMap hexByte

end KeyRecord
end ProxySteward
